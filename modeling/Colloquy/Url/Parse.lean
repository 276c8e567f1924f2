import Colloquy.Url
import Colloquy.Url.Domain
import Colloquy.Url.Percent

/-!
# Reading addresses

The well-known schemes are special: they have an authority with a host, however many
slashes are written, and a backslash counts as a slash.  A path is followed step by step,
so that the steps `.` and `..` do not remain.
-/

namespace Colloquy
namespace Url

/-- Why a text is no address. -/
inductive ParseError where
  | noScheme
  | emptyHost
  | badPort
  | badFourth
  | badSixth
  | badDomain
  | badHostCharacter
deriving DecidableEq, Repr

namespace ParseError

def message : ParseError -> String
  | noScheme => "relative URL without a base"
  | emptyHost => "empty host"
  | badPort => "invalid port number"
  | badFourth => "invalid IPv4 address"
  | badSixth => "invalid IPv6 address"
  | badDomain => "invalid international domain name"
  | badHostCharacter => "invalid domain character"

end ParseError

/-!
# Schemes
-/

inductive SchemeKind where
  /-- The usual port, if there is one. -/
  | special (port : Nat)
  | file
  | other
deriving DecidableEq, Repr

namespace SchemeKind

def ofScheme : String -> SchemeKind
  | "http" => special 80
  | "https" => special 443
  | "ws" => special 80
  | "wss" => special 443
  | "ftp" => special 21
  | "file" => file
  | _ => other

def isSpecial : SchemeKind -> Bool
  | special _ => true
  | file => true
  | other => false

def usualPort? : SchemeKind -> Option Nat
  | special port => some port
  | _ => none

end SchemeKind

def isSchemeChar (c : Char) : Bool :=
  c.isAlphanum || c == '+' || c == '-' || c == '.'

/-- The scheme in small letters, and the text behind its colon. -/
def scheme? (cs : List Char) : Option (String × List Char) :=
  match cs with
  | [] => none
  | c :: _ =>
      if !c.isAlpha then none
      else
        match cs.dropWhile isSchemeChar with
        | ':' :: rest => some (String.ofList ((cs.takeWhile isSchemeChar).map Char.toLower), rest)
        | _ => none

/-!
# Hosts
-/

def isBracketed (cs : List Char) : Bool :=
  cs.head? == some '['

/-- The address in brackets. -/
def bracketed (cs : List Char) : Except ParseError Host :=
  if cs.getLast? == some ']' then
    match sixth? (cs.drop 1).dropLast with
    | some groups => .ok (.sixth groups)
    | none => .error .badSixth
  else .error .badSixth

/-- The host of a special scheme. -/
def specialHost (cs : List Char) : Except ParseError Host :=
  if isBracketed cs then bracketed cs
  else
    match (Text.decode? (percentDecode cs)).bind Domain.sent? with
    | none => .error .badDomain
    | some [] => .error .emptyHost
    | some name =>
        if endsInNumber name then
          match fourth? name with
          | some address => .ok (.fourth address)
          | none => .error .badFourth
        else .ok (.domain (String.ofList name))

def isForbiddenInHost (c : Char) : Bool :=
  c.toNat == 0 || "\t\n\r #/:<>?@[\\]^|".toList.contains c

/-- The host of any other scheme, which may be missing. -/
def otherHost (cs : List Char) : Except ParseError (Option Host) :=
  if isBracketed cs then (bracketed cs).map some
  else if cs.any isForbiddenInHost then .error .badHostCharacter
  else if cs.isEmpty then .ok none
  else .ok (some (.domain (String.ofList (percentEncode EncodeSet.controls cs))))

/-- The text of a host, which ends at a colon outside of brackets, and the text behind it. -/
def splitHost (inside : Bool) : List Char -> List Char × List Char
  | [] => ([], [])
  | c :: rest =>
      if c == ':' && !inside then ([], c :: rest)
      else
        let inside := if c == '[' then true else if c == ']' then false else inside
        let (host, behind) := splitHost inside rest
        (c :: host, behind)

/-!
# Authorities
-/

/-- The port behind a host, and what stands behind the port: nothing, or a backslash and
more. -/
def port (usual : Option Nat) (cs : List Char) :
    Except ParseError (Option Nat × List Char) :=
  match cs with
  | ':' :: rest =>
      let digits := rest.takeWhile Char.isDigit
      let behind := rest.dropWhile Char.isDigit
      let number := valueIn 10 digits
      if 65535 < number || (behind.head?.any (· != '\\')) then .error .badPort
      else
        let given := if digits.isEmpty then none else some number
        .ok (if given == usual then none else given, behind)
  | _ => .ok (none, cs)

/-- The text before the last `@` and the text behind it. -/
def splitUser (cs : List Char) : Option (List Char) × List Char :=
  if cs.contains '@' then
    (some ((cs.reverse.dropWhile (· != '@')).drop 1).reverse,
      (cs.reverse.takeWhile (· != '@')).reverse)
  else (none, cs)

def withUser (user : List Char) (a : Authority) : Authority :=
  let username := user.takeWhile (· != ':')
  let password := (user.dropWhile (· != ':')).drop 1
  let encoded (cs : List Char) := String.ofList (percentEncode EncodeSet.userinfo cs)
  { a with
    username := encoded username
    password := if password.isEmpty then none else some (encoded password) }

/-- The authority that a text writes, and what stands behind it.  Without a host there
can be neither a user nor a port. -/
def readAuthority (kind : SchemeKind) (cs behind : List Char) :
    Except ParseError (Authority × List Char) := do
  let (user, hostAndPort) := splitUser cs
  if user == some [] && hostAndPort.isEmpty && !behind.isEmpty then throw .emptyHost
  let (hostText, portText) := splitHost false hostAndPort
  if kind.isSpecial && hostText.isEmpty then throw .emptyHost
  let host <- if kind.isSpecial then (specialHost hostText).map some else otherHost hostText
  if host.isNone && portText.head? == some ':' then throw .emptyHost
  let (port, rest) <- port kind.usualPort? portText
  let a := withUser (user.getD []) { host := host, port := port }
  if host.isNone && !a.credentials.isEmpty then throw .emptyHost
  return (a, rest ++ behind)

/-!
# Paths
-/

def isSlash (kind : SchemeKind) (c : Char) : Bool :=
  c == '/' || (kind.isSpecial && c == '\\')

def endsPath (c : Char) : Bool :=
  c == '?' || c == '#'

/-- The names between slashes. -/
def splitSteps (kind : SchemeKind) (cs : List Char) : List (List Char) :=
  cs.splitOnP (isSlash kind)

/-- A step in small letters in which the encoded point is written out. -/
def plainDots : List Char -> List Char
  | [] => []
  | '%' :: '2' :: 'e' :: rest => '.' :: plainDots rest
  | '%' :: '2' :: 'E' :: rest => '.' :: plainDots rest
  | c :: rest => c :: plainDots rest

/-- The letter of a drive, and a colon or a bar. -/
def isDrive : List Char -> Bool
  | [letter, mark] => letter.isAlpha && (mark == ':' || mark == '|')
  | _ => false

/-- A path that is the letter of a drive cannot be left. -/
def leave (kind : SchemeKind) (names : List (List Char)) : List (List Char) :=
  match names with
  | [name] => if kind == .file && isDrive name then names else []
  | _ => names.dropLast

def addName (kind : SchemeKind) (names : List (List Char)) (name : List Char) :
    List (List Char) :=
  match kind, names, name with
  | .file, [], [letter, '|'] => if letter.isAlpha then [[letter, ':']] else [name]
  | _, _, _ => names ++ [name]

/-- Follows the steps of a path; a path that ends in a step `.` or `..` ends in a slash. -/
def follow (kind : SchemeKind) : List (List Char) -> List (List Char) -> List (List Char)
  | names, [] => names
  | names, step :: rest =>
      let last := rest.isEmpty
      match plainDots step with
      | ['.', '.'] =>
          let names := leave kind names
          follow kind (if last then names ++ [[]] else names) rest
      | ['.'] => follow kind (if last then names ++ [[]] else names) rest
      | _ => follow kind (addName kind names (percentEncode EncodeSet.path step)) rest

/-- The steps of a path, which is written without its first slash. -/
def steps (kind : SchemeKind) (cs : List Char) : Path :=
  let names := follow kind [] (splitSteps kind cs)
  let names := if kind == .file then
      let trimmed := names.dropWhile List.isEmpty
      if trimmed.isEmpty then [[]] else trimmed
    else names
  .steps (names.map String.ofList)

/-- The path behind an authority. -/
def pathAfter (kind : SchemeKind) (cs : List Char) : Path :=
  match cs with
  | [] => if kind.isSpecial then steps kind [] else .steps []
  | c :: rest => if isSlash kind c then steps kind rest else steps kind (c :: rest)

/-!
# Whole addresses
-/

/-- Adds the path, the query and the fragment to the parts in front of them. -/
def withRest (kind : SchemeKind) (scheme : String) (a : Option Authority)
    (path : List Char -> Path) (cs : List Char) : Url :=
  let behind := cs.dropWhile fun c => !endsPath c
  let queryText := match behind with
    | '?' :: rest => some (rest.takeWhile (· != '#'))
    | _ => none
  let fragmentText := match behind.dropWhile (· != '#') with
    | _ :: rest => some rest
    | [] => none
  let querySet := if kind.isSpecial then EncodeSet.specialQuery else EncodeSet.query
  { scheme := scheme
    authority := a
    path := path (cs.takeWhile fun c => !endsPath c)
    query := queryText.map fun q => String.ofList (percentEncode querySet q)
    fragment := fragmentText.map fun f =>
      String.ofList (percentEncode EncodeSet.fragment f) }

def endsAuthority (kind : SchemeKind) (c : Char) : Bool :=
  isSlash kind c || endsPath c

/-- The address behind the slashes in front of an authority. -/
def behindSlashes (kind : SchemeKind) (scheme : String) (cs : List Char) :
    Except ParseError Url := do
  let (a, rest) <- readAuthority kind (cs.takeWhile (!endsAuthority kind ·))
    (cs.dropWhile (!endsAuthority kind ·))
  return withRest kind scheme (some a) (pathAfter kind) rest

/-- A host of a file is seldom given; the local one and the letter of a drive are none. -/
def fileAfterSlashes (scheme : String) (cs : List Char) : Except ParseError Url := do
  let name := cs.takeWhile (!endsAuthority .file ·)
  let rest := cs.dropWhile (!endsAuthority .file ·)
  if name.isEmpty || isDrive name then
    return withRest .file scheme (some { host := none }) (pathAfter .file) cs
  let host <- specialHost name
  let host := if host == .domain "localhost" then none else some host
  let whole := withRest .file scheme (some { host := host }) (pathAfter .file) rest
  let onDrive := match whole.path with
    | .steps (name :: _) => isDrive name.toList
    | _ => false
  return if onDrive then { whole with authority := some { host := none } } else whole

/-- The address behind the colon of a scheme. -/
def behindScheme (scheme : String) (cs : List Char) : Except ParseError Url :=
  match SchemeKind.ofScheme scheme with
  | .special port =>
      behindSlashes (.special port) scheme (cs.dropWhile (isSlash (.special port)))
  | .file =>
      match cs with
      | a :: b :: rest =>
          if isSlash .file a && isSlash .file b then fileAfterSlashes scheme rest
          else .ok (withRest .file scheme (some { host := none }) (pathAfter .file) cs)
      | _ => .ok (withRest .file scheme (some { host := none }) (pathAfter .file) cs)
  | .other =>
      match cs with
      | '/' :: '/' :: rest => behindSlashes .other scheme rest
      | '/' :: rest => .ok (withRest .other scheme none (steps .other) rest)
      | _ =>
          .ok (withRest .other scheme none
            (fun cs => .rootless (String.ofList (percentEncode EncodeSet.controls cs))) cs)

/-- The characters that surround an address and do not belong to it. -/
def surrounds (c : Char) : Bool :=
  c.toNat <= 0x20

def isIgnored (c : Char) : Bool :=
  c == '\t' || c == '\n' || c == '\r'

/-- The address that a text writes; line ends and tabs in it do not count. -/
def parse (text : String) : Except ParseError Url :=
  let inner := ((text.toList.dropWhile surrounds).reverse.dropWhile surrounds).reverse
  match scheme? (inner.filter (!isIgnored ·)) with
  | none => .error .noScheme
  | some (scheme, rest) => behindScheme scheme rest

end Url
end Colloquy
