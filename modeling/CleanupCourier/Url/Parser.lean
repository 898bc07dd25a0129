import CleanupCourier.Url.Basic

/-!
Reading addresses. Blanks and controls around an address and line ends inside it do not count.
Schemes that the web knows take backslashes for slashes and always have a host and a path.
-/
namespace CleanupCourier

namespace Url

/-- The text of an address without what does not count. -/
def clean (s : List Char) : List Char :=
  let isOuter (c : Char) : Bool := c.toNat ≤ 0x20
  let trimmed := ((s.dropWhile isOuter).reverse.dropWhile isOuter).reverse
  trimmed.filter fun c => c != '\t' && c != '\n' && c != '\r'

def isSchemeChar (c : Char) : Bool :=
  c.isAlphanum || c == '+' || c == '-' || c == '.'

/-- The scheme in small letters and the text after its colon. -/
def splitScheme? (s : List Char) : Option (String × List Char) :=
  match s with
  | c :: _ =>
    let scheme := s.takeWhile isSchemeChar
    match c.isAlpha, s.drop scheme.length with
    | true, ':' :: rest => some (String.ofList (scheme.map Char.toLower), rest)
    | _, _ => none
  | [] => none

/-- Whether a character ends the part of an address that names user, host and port. -/
def endsAuthority (special : Bool) (c : Char) : Bool :=
  c == '/' || c == '?' || c == '#' || (special && c == '\\')

/-- The text up to the last at sign, if there is one, and the text after it. -/
def splitUser (authority : List Char) : Option (List Char) × List Char :=
  let host := (authority.reverse.takeWhile (· != '@')).reverse
  if host.length < authority.length then
    (some (authority.take (authority.length - host.length - 1)), host)
  else (none, host)

/-- The colon that does not stand in brackets parts the host from the port. -/
def splitPort (inBrackets : Bool) : List Char → List Char × Option (List Char)
  | [] => ([], none)
  | c :: rest =>
    if c = ':' ∧ !inBrackets then ([], some rest)
    else
      let inBrackets := if c = '[' then true else if c = ']' then false else inBrackets
      let (host, port) := splitPort inBrackets rest
      (c :: host, port)

/-- A port that says nothing new is left out. -/
def readPort? (scheme : String) (digits : List Char) : Option (Option Nat) :=
  if digits.isEmpty then some none
  else if digits.all Char.isDigit then
    let n := digits.foldl (fun n c => n * 10 + (c.toNat - 48)) 0
    if 65535 < n then none
    else if defaultPort? scheme = some n then some none
    else some (some n)
  else none

structure Authority where
  username : String
  password : Option String
  host : Host
  port : Option Nat

def readAuthority? (scheme : String) (text : List Char) : Option Authority := do
  let special := isSpecialScheme scheme
  let (user, rest) := splitUser text
  let (hostText, portText) := splitPort false rest
  if hostText.isEmpty ∧ (special ∨ portText.isSome ∨ user.any (!·.isEmpty)) then none
  else
    let host ← if special then Host.ofSpecial? hostText else Host.ofOther? hostText
    let port ← readPort? scheme ((portText.getD []).takeWhile (· != '\\'))
    let user := user.getD []
    let name := user.takeWhile (· != ':')
    let password := user.drop (name.length + 1)
    let encode (s : List Char) : String := String.ofList (Percent.encode Percent.inUserInfo s)
    return ⟨encode name, if password.isEmpty then none else some (encode password), host, port⟩

def isSingleDot (segment : List Char) : Bool :=
  segment.map Char.toLower == ['.'] || segment.map Char.toLower == ['%', '2', 'e']

def isDoubleDot (segment : List Char) : Bool :=
  let dot := ['%', '2', 'e']
  let s := segment.map Char.toLower
  s == ['.', '.'] || s == '.' :: dot || s == dot ++ ['.'] || s == dot ++ dot

/-- Puts the segments of a path after those that are there; dots go up or stay. -/
def addSegments (done : List String) : List (List Char) → List String
  | [] => done
  | segment :: rest =>
    let isLast := rest.isEmpty
    if isDoubleDot segment then
      addSegments (done.dropLast ++ if isLast then [""] else []) rest
    else if isSingleDot segment then addSegments (done ++ if isLast then [""] else []) rest
    else addSegments (done ++ [String.ofList segment]) rest

/-- The segments of a path that starts after its first slash. -/
def readPath (special : Bool) (text : List Char) : List String :=
  let text := if special then text.map fun c => if c = '\\' then '/' else c else text
  addSegments [] ((text.splitOn '/').map (Percent.encode Percent.inPath))

/-- A path and the query and fragment after it. -/
structure Tail where
  path : List Char
  query : Option (List Char)
  fragment : Option (List Char)

def splitTail (s : List Char) : Tail :=
  let beforeFragment := s.takeWhile (· != '#')
  let fragment := match s.drop beforeFragment.length with
    | _ :: rest => some rest
    | [] => none
  let path := beforeFragment.takeWhile (· != '?')
  let query := match beforeFragment.drop path.length with
    | _ :: rest => some rest
    | [] => none
  ⟨path, query, fragment⟩

def encodeQuery (scheme : String) (s : List Char) : String :=
  let set := if isSpecialScheme scheme then Percent.inSpecialQuery else Percent.inQuery
  String.ofList (Percent.encode set s)

def encodeFragment (s : List Char) : String :=
  String.ofList (Percent.encode Percent.inFragment s)

/-- An address from what stands before its path and from what follows. -/
def withTail (u : Url) (path : UrlPath) (t : Tail) : Url :=
  { u with
    path := path
    query := t.query.map (encodeQuery u.scheme)
    fragment := t.fragment.map encodeFragment }

/-- The path after the authority: one slash at its front is the mark between them. -/
def pathAfterHost (special : Bool) (path : List Char) : UrlPath :=
  match path with
  | [] => .segments (if special then [""] else [])
  | c :: rest =>
    if c = '/' ∨ (special ∧ c = '\\') then .segments (readPath special rest)
    else .segments (readPath special path)

/-- Reads an address from behind the two slashes on. -/
def afterSlashes? (scheme : String) (s : List Char) : Option Url := do
  let special := isSpecialScheme scheme
  let text := s.takeWhile (!endsAuthority special ·)
  let a ← readAuthority? scheme text
  let t := splitTail (s.drop text.length)
  let u : Url :=
    { scheme, username := a.username, password := a.password, host := some a.host, port := a.port,
      path := .segments [] }
  return withTail u (pathAfterHost special t.path) t

def isSlash (c : Char) : Bool :=
  c == '/' || c == '\\'

/-- A letter and a colon or bar, which name a drive. -/
def isDrive (s : List Char) : Bool :=
  match s with
  | [a, b] => a.isAlpha && (b == ':' || b == '|')
  | _ => false

/-- The path of a file; a bar after the letter of a drive is written as a colon. -/
def filePath (s : List Char) : UrlPath :=
  match s.splitOn '/' with
  | drive :: rest =>
    if isDrive drive then
      .segments (readPath true ([drive.take 1 ++ [':']] ++ rest |>.intersperse ['/']).flatten)
    else .segments (readPath true s)
  | [] => .segments [""]

/-- The address of a file, from behind its colon on. -/
def ofFile? (s : List Char) : Option Url := do
  let t := splitTail s
  let path := t.path.map fun c => if c = '\\' then '/' else c
  let file (host : Host) (path : List Char) : Url :=
    withTail { scheme := "file", host := some host, path := .segments [] } (filePath path) t
  match path with
  | '/' :: '/' :: rest =>
    let name := rest.takeWhile (· != '/')
    if isDrive name then return file (.name "") rest
    else if name.isEmpty then return file (.name "") (rest.drop 1)
    else
      let host ← Host.ofSpecial? name
      let host := if host = .name "localhost" then .name "" else host
      return file host (rest.drop (name.length + 1))
  | '/' :: rest => return file (.name "") rest
  | path => return file (.name "") path

/-- An address of a scheme the web does not know, from behind its colon on. -/
def ofOther? (scheme : String) (s : List Char) : Option Url :=
  match s with
  | '/' :: '/' :: rest => afterSlashes? scheme rest
  | '/' :: rest =>
    let t := splitTail rest
    some (withTail { scheme, path := .segments [] } (.segments (readPath false t.path)) t)
  | s =>
    let t := splitTail s
    let text := String.ofList (Percent.encode Percent.inControls t.path)
    some (withTail { scheme, path := .rootless text } (.rootless text) t)

/-- Reads an address. -/
def parse? (text : String) : Option Url :=
  match splitScheme? (clean text.toList) with
  | some (scheme, rest) =>
    if scheme = "file" then ofFile? rest
    else if isSpecialScheme scheme then afterSlashes? scheme (rest.dropWhile isSlash)
    else ofOther? scheme rest
  | none => none

end Url

end CleanupCourier
