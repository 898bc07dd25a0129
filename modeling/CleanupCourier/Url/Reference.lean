import CleanupCourier.Url.Parser

/-!
References to addresses, as servers write them when they redirect. They are read strictly: a
character where none of its kind may stand makes a text no reference. A reference leaves out what it
shares with the address that it is found at, and dots in its path lead levels up from there.
-/
namespace CleanupCourier

/-- The parts of a reference, with the marks between them taken off. -/
structure Reference where
  scheme : Option (List Char) := none
  authority : Option (List Char) := none
  path : List Char
  query : Option (List Char) := none
  fragment : Option (List Char) := none
deriving DecidableEq, Repr

namespace Reference

def isUnreserved (c : Char) : Bool :=
  c.isAlphanum || "-._~".toList.contains c

def isDelimiter (c : Char) : Bool :=
  "!$&'()*+,;=".toList.contains c

def isPlain (c : Char) : Bool :=
  isUnreserved c || isDelimiter c

def inPath (c : Char) : Bool :=
  isPlain c || ":@/".toList.contains c

def inQuery (c : Char) : Bool :=
  inPath c || c == '?'

/-- Whether a text consists of some characters and of octets behind percent signs. -/
def consistsOf (allowed : Char → Bool) : List Char → Bool
  | '%' :: a :: b :: rest => (hexValue? a).isSome && (hexValue? b).isSome && consistsOf allowed rest
  | c :: rest => allowed c && consistsOf allowed rest
  | [] => true

/-- A machine in brackets: by its number in six parts, or in a form that is still to come. -/
def isBracketed (s : List Char) : Bool :=
  match s with
  | 'v' :: rest | 'V' :: rest =>
    let version := rest.takeWhile (· != '.')
    let name := rest.drop (version.length + 1)
    !version.isEmpty && version.all (fun c => (hexValue? c).isSome) && !name.isEmpty &&
      name.all fun c => isPlain c || c == ':'
  | s => (Host.ipv6? s).isSome

def isHost (s : List Char) : Bool :=
  if s.head? = some '[' then
    s.getLast? = some ']' && 1 < s.length && isBracketed (s.drop 1).dropLast
  else consistsOf isPlain s

/-- Whether a text may name a user, a host and a port. -/
def isAuthority (s : List Char) : Bool :=
  let user := s.takeWhile (· != '@')
  let hasUser := user.length < s.length
  let rest := if hasUser then s.drop (user.length + 1) else s
  let port := (rest.reverse.takeWhile Char.isDigit).reverse
  let host := rest.take (rest.length - port.length)
  (!hasUser || consistsOf (fun c => isPlain c || c == ':') user) &&
    if host.getLast? = some ':' then isHost host.dropLast else isHost rest

def isScheme (s : List Char) : Bool :=
  s.head?.any Char.isAlpha && s.all Url.isSchemeChar

/-- What stands before a colon, if no part of an address ends before the colon does. -/
def splitScheme (s : List Char) : Option (List Char) × List Char :=
  let scheme := s.takeWhile fun c => !":/?#".toList.contains c
  match s.drop scheme.length with
  | ':' :: rest => (some scheme, rest)
  | _ => (none, s)

/-- What stands behind two slashes up to the path. -/
def splitAuthority (s : List Char) : Option (List Char) × List Char :=
  match s with
  | '/' :: '/' :: rest =>
    let authority := rest.takeWhile (· != '/')
    (some authority, rest.drop authority.length)
  | s => (none, s)

/-- Reads a reference. -/
def parse? (text : List Char) : Option Reference :=
  let (scheme, rest) := splitScheme text
  let tail := Url.splitTail rest
  let (authority, path) := splitAuthority tail.path
  if scheme.all isScheme && authority.all isAuthority && consistsOf inPath path &&
      tail.query.all (consistsOf inQuery) && tail.fragment.all (consistsOf inQuery) then
    some ⟨scheme, authority, path, tail.query, tail.fragment⟩
  else none

def text (r : Reference) : List Char :=
  let part (before : List Char) (part : Option (List Char)) (after : List Char) : List Char :=
    part.elim [] fun s => before ++ s ++ after
  part [] r.scheme [':'] ++ part ['/', '/'] r.authority [] ++ r.path ++ part ['?'] r.query [] ++
    part ['#'] r.fragment []

/-- Puts the segments of a path, each with a slash before it, after those that are there; dots go up
or stay. -/
def addSegments (done : List (List Char)) : List (List Char) → List Char
  | [] => done.flatten
  | segment :: rest =>
    let ending := if rest.isEmpty then [['/']] else []
    if segment = ['.', '.'] then addSegments (done.dropLast ++ ending) rest
    else if segment = ['.'] then addSegments (done ++ ending) rest
    else addSegments (done ++ ['/' :: segment]) rest

/-- A path without the dots in it. Those at its front, if no slash is before them, just go. -/
def withoutDots (path : List Char) : List Char :=
  match (path.splitOn '/').dropWhile fun segment => segment = ['.'] ∨ segment = ['.', '.'] with
  | [] => []
  | first :: rest => addSegments (if first.isEmpty then [] else [first]) rest

/-- A path in place of the last segment of another one. -/
def merge (base : Reference) (path : List Char) : List Char :=
  if base.authority.isSome ∧ base.path.isEmpty then '/' :: path
  else (base.path.reverse.dropWhile (· != '/')).reverse ++ path

/-- The address that a reference stands for which is found at `base`. -/
def resolve (base r : Reference) : Reference :=
  if r.scheme.isSome then { r with path := withoutDots r.path }
  else if r.authority.isSome then { r with scheme := base.scheme, path := withoutDots r.path }
  else if r.path.isEmpty then
    { base with query := r.query.or base.query, fragment := r.fragment }
  else
    let path := if r.path.head? = some '/' then r.path else merge base r.path
    { base with path := withoutDots path, query := r.query, fragment := r.fragment }

/-- The address as the web reads it, without the fragment. -/
def url? (r : Reference) : Option Url :=
  let path := if r.authority.isSome && r.path.isEmpty then ['/'] else r.path
  Url.parse? (String.ofList { r with path, fragment := none }.text)

end Reference

end CleanupCourier
