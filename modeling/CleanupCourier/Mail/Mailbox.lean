import CleanupCourier.Mail.Address
import CleanupCourier.Text.Blank

/-!
Mailboxes as the headers of a mail hold them: an address, alone or in angle brackets after a name.
The first of several ways to read a part is taken for good, as far as it goes.
-/
namespace CleanupCourier

structure Mailbox where
  name : Option String
  address : MailAddress
deriving DecidableEq, Repr

namespace Mailbox

def isGap (c : Char) : Bool :=
  c == ' ' || c == '\t'

/-- A run of blanks, of which the first is kept. -/
def gap (s : List Char) : List Char × List Char :=
  (s.takeWhile isGap |>.take 1, s.dropWhile isGap)

/-- A word of atom characters after an optional gap, which belongs to it. -/
def atom? (s : List Char) : Option (List Char × List Char) :=
  let (space, rest) := gap s
  let chars := rest.takeWhile MailAddress.isAtomChar
  if chars.isEmpty then none else some (space ++ chars, rest.drop chars.length)

/-- The dots and atoms after the first atom of a dotted one. -/
def dottedRest : Nat → List Char → List Char × List Char
  | 0, s => ([], s)
  | fuel + 1, '.' :: rest =>
    let chars := rest.takeWhile MailAddress.isAtomChar
    if chars.isEmpty then ([], '.' :: rest)
    else
      let (more, after) := dottedRest fuel (rest.drop chars.length)
      ('.' :: chars ++ more, after)
  | _, s => ([], s)

def dottedAtom? (s : List Char) : Option (List Char × List Char) := do
  let (first, rest) ← atom? s
  let (more, after) := dottedRest rest.length rest
  return (first ++ more, after)

def isQuotedChar (c : Char) : Bool :=
  let n := c.toNat
  n == 33 || (35 ≤ n && n ≤ 91) || (93 ≤ n && n ≤ 126) || (1 ≤ n && n ≤ 8) || n == 11 || n == 12 ||
    (14 ≤ n && n ≤ 31) || 127 ≤ n

def isEscapable (c : Char) : Bool :=
  let n := c.toNat
  n ≤ 127 && n != 0 && n != 10 && n != 13

/-- One character between quotes, a backslash taking the next one as it is. -/
def quotedChar? : List Char → Option (Char × List Char)
  | '\\' :: c :: rest => if isEscapable c then some (c, rest) else none
  | c :: rest => if isQuotedChar c then some (c, rest) else none
  | [] => none

def quotedContent : Nat → List Char → List Char × List Char
  | 0, s => ([], s)
  | fuel + 1, s =>
    let (space, rest) := gap s
    match quotedChar? rest with
    | some (c, rest) =>
      let (more, after) := quotedContent fuel rest
      (space ++ c :: more, after)
    | none => ([], s)

/-- A text between quotes, without them. -/
def quoted? : List Char → Option (List Char × List Char)
  | '"' :: rest =>
    let (content, rest) := quotedContent rest.length rest
    match rest.dropWhile isBlank with
    | '"' :: after => some (content, after)
    | _ => none
  | _ => none

def word? (s : List Char) : Option (List Char × List Char) :=
  (quoted? s).or (atom? s)

/-- A word of a name, or a dot in it. -/
def namePart? (s : List Char) : Option (List Char × List Char) :=
  (word? s).or <| match s with
    | '.' :: rest => some (['.'], rest)
    | _ => none

/-- Further words and dots of a name. -/
def nameRest : Nat → List Char → List Char × List Char
  | 0, s => ([], s)
  | fuel + 1, s =>
    match namePart? s with
    | some (part, rest) =>
      let (more, after) := nameRest fuel rest
      (part ++ more, after)
    | none => ([], s)

def name? (s : List Char) : Option (List Char × List Char) := do
  let (first, rest) ← word? s
  let (more, after) := nameRest rest.length rest
  return (first ++ more, after)

/-- Parts with a dot between two of them. -/
def separated (part? : List Char → Option (List Char × List Char)) :
    Nat → List Char → List Char × List Char
  | 0, s => ([], s)
  | fuel + 1, '.' :: rest =>
    match part? rest with
    | some (part, rest) =>
      let (more, after) := separated part? fuel rest
      ('.' :: part ++ more, after)
    | none => ([], '.' :: rest)
  | _, s => ([], s)

def dotted? (part? : List Char → Option (List Char × List Char)) (s : List Char) :
    Option (List Char × List Char) := do
  let (first, rest) ← part? s
  let (more, after) := separated part? rest.length rest
  return (first ++ more, after)

def user? (s : List Char) : Option (List Char × List Char) :=
  (dottedAtom? s).or ((quoted? s).or (dotted? word? s))

def domain? (s : List Char) : Option (List Char × List Char) :=
  (dottedAtom? s).or (dotted? atom? s)

/-- User and domain around an at sign. -/
def address? (s : List Char) : Option ((List Char × List Char) × List Char) := do
  let (user, rest) ← user? s
  match rest with
  | '@' :: rest =>
    let (domain, after) ← domain? rest
    return ((user, domain), after)
  | _ => none

/-- An address in angle brackets, blanks around them not counting. -/
def bracketed? (s : List Char) : Option ((List Char × List Char) × List Char) := do
  match s.dropWhile isBlank with
  | '<' :: rest =>
    let (a, rest) ← address? rest
    match rest with
    | '>' :: after => return (a, after.dropWhile isBlank)
    | _ => none
  | _ => none

def named? (s : List Char) : Option ((Option (List Char) × List Char × List Char) × List Char) := do
  match name? s with
  | some (name, rest) =>
    let ((user, domain), after) ← bracketed? rest
    return ((some name, user, domain), after)
  | none =>
    let ((user, domain), after) ← bracketed? s
    return ((none, user, domain), after)

/-- What stands at the front of a text as a mailbox, with a name in front of it or without. -/
def front? (s : List Char) : Option ((Option (List Char) × List Char × List Char) × List Char) :=
  (named? s).or <| (address? s).map fun ((user, domain), after) => ((none, user, domain), after)

def make (name : Option (List Char)) (user domain : List Char) : Except AddressFault Mailbox := do
  let address ← MailAddress.make user domain
  return ⟨name.map String.ofList, address⟩

/-- Reads a whole text as a mailbox. -/
def parse (text : String) : Except AddressFault Mailbox :=
  match front? (text.toList.dropWhile isBlank) with
  | none => .error .input
  | some ((name, user, domain), after) =>
    if (after.dropWhile isBlank).isEmpty then make name user domain else .error .input

def isHeaderAtomChar (c : Char) : Bool :=
  c.toNat < 0x80 && MailAddress.isAtomChar c

/-- A name as a reader of the header sees it: in quotes if it has other characters than those of
atoms, but as it is if some of them do not print, since such a name is encoded as a whole. -/
def shownName (name : String) : String :=
  let s := name.toList
  if s.all isHeaderAtomChar || s.any (fun c => c.toNat < 0x20 || 0x7E < c.toNat) then name
  else
    let escaped := s.flatMap fun c => if c = '"' ∨ c = '\\' then ['\\', c] else [c]
    String.ofList ('"' :: escaped ++ ['"'])

def shown (m : Mailbox) : String :=
  match m.name with
  | some name => shownName name ++ " <" ++ m.address.text ++ ">"
  | none => m.address.text

end Mailbox

end CleanupCourier
