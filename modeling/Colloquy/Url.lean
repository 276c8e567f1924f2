import Colloquy.Url.Address

/-!
# Addresses of resources

An address has a scheme, and usually an authority, which names a host, and a path.  It is
kept in the form in which it is sent, so its text is that form.
-/

namespace Colloquy

namespace Url

inductive Host where
  | domain (name : String)
  | fourth (address : Nat)
  | sixth (groups : List Nat)
deriving DecidableEq, Repr

namespace Host

def text : Host -> String
  | domain name => name
  | fourth address => String.ofList (fourthText address)
  | sixth groups => "[" ++ String.ofList (sixthText groups) ++ "]"

end Host

structure Authority where
  username : String := ""
  password : Option String := none
  host : Option Host
  /-- The port, unless it is the usual one of the scheme. -/
  port : Option Nat := none
deriving DecidableEq, Repr

namespace Authority

/-- The name and the password of a user, in front of the host. -/
def credentials (a : Authority) : String :=
  match a.password with
  | some password => a.username ++ ":" ++ password ++ "@"
  | none => if a.username.isEmpty then "" else a.username ++ "@"

def text (a : Authority) : String :=
  let host := match a.host with
    | some host => host.text
    | none => ""
  let port := match a.port with
    | some port => ":" ++ toString port
    | none => ""
  a.credentials ++ host ++ port

end Authority

inductive Path where
  /-- A path without steps, in an address without an authority. -/
  | rootless (text : String)
  | steps (names : List String)
deriving DecidableEq, Repr

namespace Path

def text : Path -> String
  | rootless text => text
  | steps names => String.join (names.map fun name => "/" ++ name)

/-- Written without an authority, the path would look as if it began with one. -/
def looksLikeAuthority : Path -> Bool
  | steps ("" :: _ :: _) => true
  | _ => false

end Path

end Url

structure Url where
  scheme : String
  authority : Option Url.Authority
  path : Url.Path
  query : Option String := none
  fragment : Option String := none
deriving DecidableEq, Repr

namespace Url

def host? (u : Url) : Option Host :=
  u.authority.bind Authority.host

def port? (u : Url) : Option Nat :=
  u.authority.bind Authority.port

def text (u : Url) : String :=
  let authority := match u.authority with
    | some a => "//" ++ a.text
    | none => if u.path.looksLikeAuthority then "/." else ""
  let query := match u.query with
    | some query => "?" ++ query
    | none => ""
  let fragment := match u.fragment with
    | some fragment => "#" ++ fragment
    | none => ""
  u.scheme ++ ":" ++ authority ++ u.path.text ++ query ++ fragment

end Url
end Colloquy
