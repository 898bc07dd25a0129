import CleanupCourier.Json.Basic
import CleanupCourier.Text.Hex

/-!
Reading JSON text. The reader never fails: where the grammar does not hold it leaves a `stopped`
value in the place it had reached, after everything that it did read, and gives up the rest of the
text. `Json.read` also tells of anything but blanks after the value.
-/
namespace CleanupCourier

namespace Json

/-- A value, and the text after it unless the reading stopped. -/
abbrev Reading := Json × Option (List Char)

def Reading.stop (fault : Fault) : Reading :=
  (.stopped fault, none)

def isGap (c : Char) : Bool :=
  c == ' ' || c == '\n' || c == '\t' || c == '\r'

def skipGaps (s : List Char) : List Char :=
  s.dropWhile isGap

/-- Reads the rest of a word such as `null`. -/
def expectWord : List Char → List Char → Except Fault (List Char)
  | [], rest => .ok rest
  | _ :: _, [] => .error .truncated
  | w :: word, c :: rest => if w = c then expectWord word rest else .error .malformed

/-- Four digits of base sixteen. A text with fewer than four octets left is cut short. -/
def fourHexDigits (s : List Char) : Except Fault (Nat × List Char) :=
  match s with
  | a :: b :: c :: d :: rest =>
    match hexValue? a, hexValue? b, hexValue? c, hexValue? d with
    | some w, some x, some y, some z => .ok (((w * 16 + x) * 16 + y) * 16 + z, rest)
    | _, _, _, _ => .error .malformed
  | short =>
    .error (if short.foldl (fun n c => n + c.utf8Size) 0 < 4 then .truncated else .malformed)

theorem fourHexDigits_length_lt {s rest : List Char} {n : Nat}
    (h : fourHexDigits s = .ok (n, rest)) : rest.length < s.length := by
  unfold fourHexDigits at h
  split at h
  · split at h
    · obtain ⟨_, rfl⟩ := Prod.mk.inj (Except.ok.inj h)
      simp only [List.length_cons]
      omega
    · contradiction
  · contradiction

def isHighSurrogate (n : Nat) : Bool :=
  0xD800 ≤ n && n < 0xDC00

def isLowSurrogate (n : Nat) : Bool :=
  0xDC00 ≤ n && n < 0xE000

/-- The character that stands after a backslash for another one. -/
def simpleEscape? (c : Char) : Option Char :=
  if c = '"' then some '"'
  else if c = '\\' then some '\\'
  else if c = '/' then some '/'
  else if c = 'b' then some '\x08'
  else if c = 'f' then some '\x0c'
  else if c = 'n' then some '\n'
  else if c = 'r' then some '\r'
  else if c = 't' then some '\t'
  else none

/-- What follows `\u`: the character if there is one (half of a surrogate pair is none), and the
text after it. The second half of a pair is taken only if it fits the first. -/
def unicodeEscape (s : List Char) : Except Fault (Option Char × List Char) :=
  match fourHexDigits s with
  | .error fault => .error fault
  | .ok (n, rest) =>
    if isLowSurrogate n then .ok (none, rest)
    else if isHighSurrogate n then
      match rest with
      | '\\' :: 'u' :: more =>
        match fourHexDigits more with
        | .error fault => .error fault
        | .ok (m, after) =>
          if isLowSurrogate m then
            .ok (some (Char.ofNat (0x10000 + (n - 0xD800) * 0x400 + (m - 0xDC00))), after)
          else .ok (none, rest)
      | _ => .ok (none, rest)
    else .ok (some (Char.ofNat n), rest)

theorem unicodeEscape_length_lt {s rest : List Char} {c : Option Char}
    (h : unicodeEscape s = .ok (c, rest)) : rest.length < s.length := by
  unfold unicodeEscape at h
  split at h
  · contradiction
  · rename_i n r hr
    have hlt := fourHexDigits_length_lt hr
    split at h
    · obtain ⟨_, rfl⟩ := Prod.mk.inj (Except.ok.inj h)
      exact hlt
    · split at h
      · split at h
        · split at h
          · contradiction
          · rename_i more _ m after hm
            have hmore := fourHexDigits_length_lt hm
            simp only [List.length_cons] at hlt
            split at h
            · obtain ⟨_, rfl⟩ := Prod.mk.inj (Except.ok.inj h)
              omega
            · obtain ⟨_, rfl⟩ := Prod.mk.inj (Except.ok.inj h)
              simp only [List.length_cons]
              omega
        · obtain ⟨_, rfl⟩ := Prod.mk.inj (Except.ok.inj h)
          exact hlt
      · obtain ⟨_, rfl⟩ := Prod.mk.inj (Except.ok.inj h)
        exact hlt

/-- The characters of a string up to its closing quote, `none` for each half of a surrogate pair. -/
def stringBody (s : List Char) : Except Fault (List (Option Char) × List Char) :=
  match s with
  | [] => .error .truncated
  | '"' :: rest => .ok ([], rest)
  | ['\\'] => .error .truncated
  | '\\' :: 'u' :: rest =>
    match h : unicodeEscape rest with
    | .error fault => .error fault
    | .ok (c, after) =>
      have := unicodeEscape_length_lt h
      (stringBody after).map fun (body, tail) => (c :: body, tail)
  | '\\' :: c :: rest =>
    match simpleEscape? c with
    | none => .error .malformed
    | some e => (stringBody rest).map fun (body, tail) => (some e :: body, tail)
  | c :: rest =>
    if c.toNat < 0x20 then .error .malformed
    else (stringBody rest).map fun (body, tail) => (some c :: body, tail)
termination_by s.length

/-- Reads one digit or more; the fault tells what stands instead of the first. -/
def someDigits (s : List Char) : Except Fault (List Char × List Char) :=
  match s.span Char.isDigit with
  | ([], []) => .error .cutNumber
  | ([], _) => .error .malformed
  | (digits, rest) => .ok (digits, rest)

def wholePart (s : List Char) : Except Fault (List Char × List Char) :=
  match s with
  | '0' :: c :: rest => if c.isDigit then .error .malformed else .ok (['0'], c :: rest)
  | s => someDigits s

def fractionPart (s : List Char) : Except Fault (List Char × List Char) :=
  match s with
  | '.' :: rest => (someDigits rest).map fun (digits, after) => ('.' :: digits, after)
  | s => .ok ([], s)

def exponentPart (s : List Char) : Except Fault (List Char × List Char) :=
  let marked (mark : List Char) (rest : List Char) :=
    (someDigits rest).map fun (digits, after) => (mark ++ digits, after)
  match s with
  | 'e' :: '+' :: rest | 'E' :: '+' :: rest => marked ['e', '+'] rest
  | 'e' :: '-' :: rest | 'E' :: '-' :: rest => marked ['e', '-'] rest
  | 'e' :: rest | 'E' :: rest => marked ['e'] rest
  | s => .ok ([], s)

/-- The number at the start of a text. -/
def numberLexeme (s : List Char) : Except Fault (List Char × List Char) := do
  let (sign, s) := match s with
    | '-' :: rest => (['-'], rest)
    | s => ([], s)
  let (whole, s) ← wholePart s
  let (fraction, s) ← fractionPart s
  let (exponent, s) ← exponentPart s
  return (sign ++ whole ++ fraction ++ exponent, s)

/-- What a number or word was read as, with the text after it. -/
def Reading.ofScalar (make : List Char → Json) (r : Except Fault (List Char × List Char)) :
    Reading :=
  match r with
  | .ok (lexeme, rest) => (make lexeme, some rest)
  | .error fault => .stop fault

def Reading.ofWord (value : Json) (word rest : List Char) : Reading :=
  match expectWord word rest with
  | .ok after => (value, some after)
  | .error fault => .stop fault

def Reading.ofString (r : Except Fault (List (Option Char) × List Char)) : Reading :=
  match r with
  | .error fault => .stop fault
  | .ok (body, rest) =>
    match body.mapM id with
    | some chars => (.string (String.ofList chars), some rest)
    | none => (.unreadable .null, some rest)

/-- Members read so far, and the text after the object unless the reading stopped. -/
abbrev MembersReading := List (String × Json) × Option (List Char)

def MembersReading.stop (fault : Fault) : MembersReading :=
  ([("", .stopped fault)], none)

abbrev ItemsReading := List Json × Option (List Char)

/-- The key at the start of a text and the text after the colon. A key with half of a surrogate pair
reads as `none`. A fault comes with the key if that was read. -/
def memberKey (s : List Char) : Except (String × Fault) (Option String × List Char) :=
  match stringBody s with
  | .error fault => .error ("", fault)
  | .ok (body, rest) =>
    let key := (body.mapM id).map String.ofList
    match skipGaps rest with
    | ':' :: after => .ok (key, after)
    | [] => .error (key.getD "", .truncated)
    | _ => .error (key.getD "", .malformed)

mutual

def value : Nat → List Char → Reading
  | 0, _ => .stop .malformed
  | fuel + 1, s =>
    match skipGaps s with
    | [] => .stop .truncated
    | 'n' :: rest => .ofWord .null ['u', 'l', 'l'] rest
    | 't' :: rest => .ofWord (.bool true) ['r', 'u', 'e'] rest
    | 'f' :: rest => .ofWord (.bool false) ['a', 'l', 's', 'e'] rest
    | '"' :: rest => .ofString (stringBody rest)
    | '[' :: rest =>
      match firstItem fuel (skipGaps rest) with
      | (items, after) => (.array items, after)
    | '\x7b' :: rest =>
      match firstMember fuel (skipGaps rest) with
      | (members, after) => (.object members, after)
    | c :: rest =>
      if c = '-' ∨ c.isDigit then
        .ofScalar (fun lexeme => .number (String.ofList lexeme)) (numberLexeme (c :: rest))
      else .stop .malformed

/-- The items after an opening bracket. -/
def firstItem : Nat → List Char → ItemsReading
  | 0, _ => ([.stopped .malformed], none)
  | _ + 1, [] => ([.stopped .unclosed], none)
  | _ + 1, ']' :: rest => ([], some rest)
  | fuel + 1, s => item fuel s

/-- An item and all that follow it. -/
def item : Nat → List Char → ItemsReading
  | 0, _ => ([.stopped .malformed], none)
  | fuel + 1, s =>
    match value fuel s with
    | (j, none) => ([j], none)
    | (j, some rest) =>
      match skipGaps rest with
      | [] => ([j, .stopped .unclosed], none)
      | ']' :: after => ([j], some after)
      | ',' :: after =>
        match item fuel after with
        | (items, end?) => (j :: items, end?)
      | _ => ([j, .stopped .malformed], none)

/-- The members after an opening brace. -/
def firstMember : Nat → List Char → MembersReading
  | 0, _ => .stop .malformed
  | _ + 1, [] => .stop .truncated
  | _ + 1, '\x7d' :: rest => ([], some rest)
  | fuel + 1, s => member fuel s

/-- A member and all that follow it. -/
def member : Nat → List Char → MembersReading
  | 0, _ => .stop .malformed
  | fuel + 1, s =>
    match skipGaps s with
    | [] => .stop .truncated
    | '"' :: rest =>
      match memberKey rest with
      | .error (key, fault) => ([(key, .stopped fault)], none)
      | .ok (key?, after) =>
        let named (j : Json) : String × Json :=
          match key? with
          | some key => (key, j)
          | none => misnamed j
        match value fuel after with
        | (j, none) => ([named j], none)
        | (j, some rest) =>
          match skipGaps rest with
          | [] => ([named j, ("", .stopped .truncated)], none)
          | '\x7d' :: after => ([named j], some after)
          | ',' :: after =>
            match member fuel after with
            | (members, end?) => (named j :: members, end?)
          | _ => ([named j, ("", .stopped .malformed)], none)
    | _ => .stop .malformed

end

/-- The value a text holds, and whether anything but blanks follows it. -/
structure Document where
  value : Json
  hasMore : Bool
deriving Repr

/-- Of three steps that the reader makes in a row, one takes a character. -/
def read (text : List Char) : Document :=
  match value (3 * text.length + 3) text with
  | (j, none) => ⟨j, false⟩
  | (j, some rest) => ⟨j, !(skipGaps rest).isEmpty⟩

/-- The value that a whole text holds. -/
def parse? (text : String) : Option Json :=
  let d := read text.toList
  if d.hasMore || !d.value.isPlain then none else some d.value

end Json

end CleanupCourier
