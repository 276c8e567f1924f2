import Colloquy.Json
import Colloquy.Url.Parse

/-!
# Requests over the network

A request posts a JSON value to an address.  It is answered by a status and a body, or
not at all when the connection breaks.
-/

namespace Colloquy
namespace Http

structure Request where
  url : Url
  authorization : Option String := none
  body : Json

structure Response where
  status : Nat
  body : List UInt8

namespace Response

def isSuccess (r : Response) : Bool :=
  200 <= r.status && r.status < 300

/-- The body as a text; bytes that are no text are replaced. -/
def text (r : Response) : String :=
  String.ofList (Text.decodeLossy r.body)

end Response

/-- What carries requests to their servers, with a memory of its own. -/
abbrev Transport (τ : Type) := τ -> Request -> Option Response × τ

/-- Only addresses with these schemes can be reached. -/
def isReachable (u : Url) : Bool :=
  u.scheme == "http" || u.scheme == "https"

/-- The characters that may stand in the value of a header. -/
def isHeaderChar (c : Char) : Bool :=
  c == '\t' || (0x20 <= c.toNat && c.toNat != 0x7F)

/-- What the standard calls a status. -/
def phrase? (status : Nat) : Option String :=
  match status with
  | 100 => some "Continue"
  | 101 => some "Switching Protocols"
  | 102 => some "Processing"
  | 103 => some "Early Hints"
  | 200 => some "OK"
  | 201 => some "Created"
  | 202 => some "Accepted"
  | 203 => some "Non Authoritative Information"
  | 204 => some "No Content"
  | 205 => some "Reset Content"
  | 206 => some "Partial Content"
  | 207 => some "Multi-Status"
  | 208 => some "Already Reported"
  | 226 => some "IM Used"
  | 300 => some "Multiple Choices"
  | 301 => some "Moved Permanently"
  | 302 => some "Found"
  | 303 => some "See Other"
  | 304 => some "Not Modified"
  | 305 => some "Use Proxy"
  | 307 => some "Temporary Redirect"
  | 308 => some "Permanent Redirect"
  | 400 => some "Bad Request"
  | 401 => some "Unauthorized"
  | 402 => some "Payment Required"
  | 403 => some "Forbidden"
  | 404 => some "Not Found"
  | 405 => some "Method Not Allowed"
  | 406 => some "Not Acceptable"
  | 407 => some "Proxy Authentication Required"
  | 408 => some "Request Timeout"
  | 409 => some "Conflict"
  | 410 => some "Gone"
  | 411 => some "Length Required"
  | 412 => some "Precondition Failed"
  | 413 => some "Payload Too Large"
  | 414 => some "URI Too Long"
  | 415 => some "Unsupported Media Type"
  | 416 => some "Range Not Satisfiable"
  | 417 => some "Expectation Failed"
  | 418 => some "I'm a teapot"
  | 421 => some "Misdirected Request"
  | 422 => some "Unprocessable Entity"
  | 423 => some "Locked"
  | 424 => some "Failed Dependency"
  | 425 => some "Too Early"
  | 426 => some "Upgrade Required"
  | 428 => some "Precondition Required"
  | 429 => some "Too Many Requests"
  | 431 => some "Request Header Fields Too Large"
  | 451 => some "Unavailable For Legal Reasons"
  | 500 => some "Internal Server Error"
  | 501 => some "Not Implemented"
  | 502 => some "Bad Gateway"
  | 503 => some "Service Unavailable"
  | 504 => some "Gateway Timeout"
  | 505 => some "HTTP Version Not Supported"
  | 506 => some "Variant Also Negotiates"
  | 507 => some "Insufficient Storage"
  | 508 => some "Loop Detected"
  | 510 => some "Not Extended"
  | 511 => some "Network Authentication Required"
  | _ => none

/-- A status with its name. -/
def statusText (status : Nat) : String :=
  toString status ++ " " ++ (phrase? status).getD "<unknown status code>"

end Http
end Colloquy
