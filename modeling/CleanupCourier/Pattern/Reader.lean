import CleanupCourier.Pattern.Class
import CleanupCourier.Text.Decimal
import CleanupCourier.Text.Hex

/-!
Reading patterns. Groups, alternatives, repetitions and bracketed sets may nest; flags change how
the rest of a group is read. Looking around, references back to groups and unknown escapes are
refused, and so is a pattern that becomes too large when its repetitions are written out.
-/
namespace CleanupCourier

namespace Pattern

structure Flags where
  caseless : Bool := false
  multiLine : Bool := false
  dotAll : Bool := false
  crlf : Bool := false
  unicode : Bool := true
  spaced : Bool := false
deriving DecidableEq, Repr

/-- Where the reading stands: the text left, the flags in force, the names of groups so far. -/
structure Cursor where
  rest : List Char
  flags : Flags
  names : List (List Char)

namespace Cursor

def drop (c : Cursor) (n : Nat) : Cursor :=
  { c with rest := c.rest.drop n }

end Cursor

/-- In spaced text, blanks and comments between parts do not count. -/
def skipSpace (flags : Flags) (s : List Char) : List Char :=
  if !flags.spaced then s
  else
    let rec skip (fuel : Nat) (s : List Char) : List Char :=
      match fuel, s with
      | 0, s => s
      | fuel + 1, '#' :: rest => skip fuel ((rest.dropWhile (· != '\n')).drop 1)
      | fuel + 1, c :: rest => if isBlank c then skip fuel rest else c :: rest
      | _, [] => []
    skip s.length s

def withCase (flags : Flags) (set : CharSet) : CharSet :=
  if flags.caseless then .caseless set else set

/-- Text is never cut inside a character, so a set without Unicode holds ASCII characters only. -/
def asciiOnly (flags : Flags) (set : CharSet) (fits : Bool) : Option CharSet :=
  if flags.unicode || fits then some set else none

/-- What an escape stands for. -/
inductive Escaped where
  | literal (c : Char)
  | set (s : CharSet)
  | anchor (a : Anchor)

def codePoint? (n : Nat) : Option Char :=
  if n ≤ 0x10FFFF ∧ ¬(0xD800 ≤ n ∧ n < 0xE000) then some (Char.ofNat n) else none

def hexNumber? (digits : List Char) : Option Nat := do
  let values ← digits.mapM hexValue?
  if values.isEmpty ∨ 8 < values.length then none
  else some (values.foldl (fun n d => n * 16 + d) 0)

/-- Digits of base sixteen in braces, or exactly `count` of them. -/
def hexEscape? (count : Nat) (s : List Char) : Option (Char × List Char) :=
  match s with
  | '\x7b' :: rest => do
    let digits := rest.takeWhile (· != '\x7d')
    if digits.length < rest.length then
      let c ← (hexNumber? digits).bind codePoint?
      return (c, rest.drop (digits.length + 1))
    else none
  | s => do
    let digits := s.take count
    if digits.length = count then
      let c ← (hexNumber? digits).bind codePoint?
      return (c, s.drop count)
    else none

/-- A property: one letter, or a name in braces, perhaps with a value. -/
def property? (negated : Bool) (s : List Char) : Option (CharSet × List Char) := do
  let negate (flip : Bool) (set : CharSet) : CharSet :=
    if negated != flip then .negated set else set
  match s with
  | '\x7b' :: rest =>
    let name := rest.takeWhile (· != '\x7d')
    if rest.length ≤ name.length then none
    else
      let after := rest.drop (name.length + 1)
      let key := name.takeWhile fun c => c != '=' && c != ':' && c != '!'
      match name.drop key.length with
      | '!' :: '=' :: value => return (negate true (← valueSet? key value), after)
      | '=' :: value | ':' :: value => return (negate false (← valueSet? key value), after)
      | [] => return (negate false (← propertySet? name), after)
      | _ => none
  | c :: rest => return (negate false (← propertySet? [c]), rest)
  | [] => none

def isBoundaryName (c : Char) : Bool :=
  c.isAlpha || c == '-'

/-- The kind of word boundary that a name in braces asks for; without a name there is none. -/
def boundary? (flags : Flags) (word : CharSet) (s : List Char) : Option (Anchor × List Char) :=
  match s with
  | '\x7b' :: rest =>
    let rest := skipSpace flags rest
    let name := rest.takeWhile isBoundaryName
    if rest.isEmpty then none
    else if name.isEmpty then some (.wordBoundary word, s)
    else
      match skipSpace flags (rest.drop name.length) with
      | '\x7d' :: after =>
        match String.ofList name with
        | "start" => some (.wordStart word, after)
        | "end" => some (.wordEnd word, after)
        | "start-half" => some (.wordStartHalf word, after)
        | "end-half" => some (.wordEndHalf word, after)
        | _ => none
      | _ => none
  | s => some (.wordBoundary word, s)

def wordSet (flags : Flags) : CharSet :=
  if flags.unicode then words else asciiWord

/-- What stands after a backslash. -/
def escape? (flags : Flags) (s : List Char) : Option (Escaped × List Char) := do
  let word := wordSet flags
  let set (unicode ascii : CharSet) (negated : Bool) (rest : List Char) :
      Option (Escaped × List Char) := do
    let base := if flags.unicode then unicode else ascii
    let s ← asciiOnly flags (if negated then .negated base else base) (!negated)
    return (.set s, rest)
  match s with
  | [] => none
  | 'd' :: rest => set digits asciiDigit false rest
  | 'D' :: rest => set digits asciiDigit true rest
  | 's' :: rest => set blanks asciiSpace false rest
  | 'S' :: rest => set blanks asciiSpace true rest
  | 'w' :: rest => set words asciiWord false rest
  | 'W' :: rest => set words asciiWord true rest
  | 'a' :: rest => return (.literal '\x07', rest)
  | 'f' :: rest => return (.literal '\x0c', rest)
  | 't' :: rest => return (.literal '\t', rest)
  | 'n' :: rest => return (.literal '\n', rest)
  | 'r' :: rest => return (.literal '\r', rest)
  | 'v' :: rest => return (.literal '\x0b', rest)
  | 'A' :: rest => return (.anchor .textStart, rest)
  | 'z' :: rest => return (.anchor .textEnd, rest)
  | 'b' :: rest =>
    let (a, rest) ← boundary? flags word rest
    return (.anchor a, rest)
  | 'B' :: rest => return (.anchor (.noWordBoundary word), rest)
  | '<' :: rest => return (.anchor (.wordStart word), rest)
  | '>' :: rest => return (.anchor (.wordEnd word), rest)
  | 'p' :: rest =>
    let (s, rest) ← property? false rest
    return (.set (withCase flags (← asciiOnly flags s false)), rest)
  | 'P' :: rest =>
    let (s, rest) ← property? true rest
    return (.set (withCase flags (← asciiOnly flags s false)), rest)
  | 'x' :: rest =>
    let (c, rest) ← hexEscape? 2 rest
    if flags.unicode || c.toNat < 0x80 then return (.literal c, rest) else none
  | 'u' :: rest =>
    let (c, rest) ← hexEscape? 4 rest
    return (.literal c, rest)
  | 'U' :: rest =>
    let (c, rest) ← hexEscape? 8 rest
    return (.literal c, rest)
  | c :: rest => if c.isAlphanum ∨ 0x80 ≤ c.toNat then none else return (.literal c, rest)

/-! Bracketed sets -/

/-- One item of a bracketed set: a character, or a set of them. -/
def setItem? (flags : Flags) (s : List Char) : Option (Escaped × List Char) :=
  match s with
  | [] => none
  | '\\' :: rest => escape? flags rest
  | c :: rest => some (.literal c, rest)

/-- An item, or a range from one character to another. -/
def setRange? (flags : Flags) (s : List Char) : Option (CharSet × List Char) := do
  let (first, rest) ← setItem? flags s
  let rest := skipSpace flags rest
  let single (rest : List Char) : Option (CharSet × List Char) :=
    match first with
    | .literal c => if flags.unicode || c.toNat < 0x80 then some (.one c, rest) else none
    | .set set => some (set, rest)
    | .anchor _ => none
  match rest with
  | [] => none
  | '-' :: after =>
    match skipSpace flags after with
    | ']' :: _ | '-' :: _ => single rest
    | after =>
      let (second, rest) ← setItem? flags after
      match first, second with
      | .literal low, .literal high =>
        if low ≤ high ∧ (flags.unicode ∨ high.toNat < 0x80) then some (.range low high, rest)
        else none
      | _, _ => none
  | _ => single rest

/-- A set of ASCII characters by its name between colons, from behind the opening bracket on. -/
def namedClass? (s : List Char) : Option (CharSet × List Char) := do
  match s with
  | ':' :: rest =>
    let (negated, rest) := match rest with
      | '^' :: rest => (true, rest)
      | rest => (false, rest)
    let name := rest.takeWhile (· != ':')
    match rest.drop name.length with
    | ':' :: ']' :: after =>
      let set ← asciiClass? (String.ofList name)
      return (if negated then .negated set else set, after)
    | _ => none
  | _ => none

/-- How the items after an operator go together with what stands before it. -/
abbrev Join := CharSet → CharSet → CharSet

/-- A bracketed set that is being read: what stands before the last operator, the operator, and the
items since. -/
structure Bracket where
  before : Option (CharSet × Join)
  items : List CharSet

def Bracket.value (b : Bracket) : CharSet :=
  let items := CharSet.unionAll b.items.reverse
  match b.before with
  | some (left, join) => join left items
  | none => items

def Bracket.add (b : Bracket) (set : CharSet) : Bracket :=
  { b with items := set :: b.items }

def Bracket.operator (b : Bracket) (join : Join) : Bracket :=
  ⟨some (b.value, join), []⟩

/-- The start of a bracketed set: whether it is negated, and the characters that stand for
themselves there. -/
def openBracket (flags : Flags) (s : List Char) : Bool × Bracket × List Char :=
  let s := skipSpace flags s
  let (negated, s) := match s with
    | '^' :: rest => (true, skipSpace flags rest)
    | s => (false, s)
  let hyphens := s.takeWhile (· == '-')
  let s := s.drop hyphens.length
  if hyphens.isEmpty then
    match s with
    | ']' :: rest => (negated, ⟨none, [.one ']']⟩, rest)
    | s => (negated, ⟨none, []⟩, s)
  else (negated, ⟨none, [.one '-']⟩, s)

/-- Reads a bracketed set to its end, from behind the bracket on. -/
def bracketed? (flags : Flags) : Nat → Bool → Bracket → List Char → Option (CharSet × List Char)
  | 0, _, _, _ => none
  | fuel + 1, negated, b, s =>
    match skipSpace flags s with
    | [] => none
    | ']' :: rest =>
      let value := withCase flags b.value
      (asciiOnly flags (if negated then .negated value else value) (!negated)).map (·, rest)
    | '[' :: rest =>
      match namedClass? rest with
      | some (set, rest) => bracketed? flags fuel negated (b.add (withCase flags set)) rest
      | none =>
        let (innerNegated, inner, rest) := openBracket flags rest
        match bracketed? flags fuel innerNegated inner rest with
        | some (set, rest) => bracketed? flags fuel negated (b.add set) rest
        | none => none
    | '&' :: '&' :: rest => bracketed? flags fuel negated (b.operator .meet) rest
    | '-' :: '-' :: rest => bracketed? flags fuel negated (b.operator .minus) rest
    | '~' :: '~' :: rest => bracketed? flags fuel negated (b.operator .either) rest
    | s =>
      match setRange? flags s with
      | some (set, rest) => bracketed? flags fuel negated (b.add (withCase flags set)) rest
      | none => none

/-! Repetitions and groups -/

/-- A decimal number, blanks around it not counting; `some none` where there are no digits. -/
def count? (s : List Char) : Option (Option Nat × List Char) :=
  let s := s.dropWhile isBlank
  let digits := s.takeWhile Char.isDigit
  let rest := (s.drop digits.length).dropWhile isBlank
  let n := digits.foldl (fun n c => n * 10 + (c.toNat - 48)) 0
  if digits.isEmpty then some (none, rest)
  else if n < wordSize 32 then some (some n, rest)
  else none

/-- The least and the greatest count of a repetition in braces, from behind the brace on. -/
def counts? (s : List Char) : Option ((Nat × Option Nat) × List Char) := do
  let (least, rest) ← count? s
  let least ← least
  match rest with
  | '\x7d' :: rest => return ((least, some least), rest)
  | ',' :: '\x7d' :: rest => return ((least, none), rest)
  | ',' :: rest =>
    let (most, rest) ← count? rest
    let most ← most
    match rest with
    | '\x7d' :: rest => if least ≤ most then return ((least, some most), rest) else none
    | _ => none
  | _ => none

/-- A question mark after a repetition asks for fewer rather than more, which changes no answer. -/
def skipLazy : List Char → List Char
  | '?' :: rest => rest
  | rest => rest

def setFlag? (on : Bool) (c : Char) (f : Flags) : Option Flags :=
  match c with
  | 'i' => some { f with caseless := on }
  | 'm' => some { f with multiLine := on }
  | 's' => some { f with dotAll := on }
  | 'R' => some { f with crlf := on }
  | 'U' => some f
  | 'u' => some { f with unicode := on }
  | 'x' => some { f with spaced := on }
  | _ => none

/-- Reads flags up to a colon or a closing parenthesis, which is left. No flag comes twice. -/
def flags? (on : Bool) (seen : List Char) (f : Flags) : List Char → Option (Flags × List Char)
  | [] => none
  | c :: rest =>
    if c = ':' ∨ c = ')' then
      if seen.head? = some '-' ∨ (c = ')' ∧ seen.isEmpty) then none else some (f, c :: rest)
    else if seen.contains c then none
    else if c = '-' then flags? false ('-' :: seen) f rest
    else
      match setFlag? on c f with
      | some f => flags? on (c :: seen) f rest
      | none => none

def isNameChar (first : Bool) (c : Char) : Bool :=
  c == '_' || c.isAlpha || (0x80 ≤ c.toNat && words.has c) ||
    (!first && (c.isDigit || c == '.' || c == '[' || c == ']'))

/-- The name of a group and the text after its closing angle bracket. -/
def groupName? (names : List (List Char)) (s : List Char) : Option (List Char × List Char) :=
  let name := s.takeWhile (· != '>')
  match name, s.drop name.length with
  | c :: more, '>' :: rest =>
    if isNameChar true c ∧ more.all (isNameChar false) ∧ !names.contains name then some (name, rest)
    else none
  | _, _ => none

/-- What an opening parenthesis starts: a group, or flags for the rest of the group around it. -/
inductive Opening where
  | group (inner : Cursor)
  | flags (after : Cursor)

def opening? (c : Cursor) : Option Opening :=
  match c.rest with
  | '?' :: '<' :: '=' :: _ | '?' :: '<' :: '!' :: _ => none
  | '?' :: 'P' :: '<' :: rest | '?' :: '<' :: rest => do
    let (name, rest) ← groupName? c.names rest
    return .group { c with rest, names := name :: c.names }
  | '?' :: rest => do
    let (f, rest) ← flags? true [] c.flags rest
    match rest with
    | ':' :: rest => return .group { c with rest, flags := f }
    | _ :: rest => return .flags { c with rest, flags := f }
    | [] => none
  | rest => some (.group { c with rest })

/-- Reads a single character that stands for itself. -/
def literal (flags : Flags) (c : Char) : Pattern :=
  .char (withCase flags (.one c))

def lineEnds (flags : Flags) : CharSet :=
  if flags.crlf then .union (.one '\r') (.one '\n') else .one '\n'

def dot? (flags : Flags) : Option Pattern :=
  let set := if flags.dotAll then anyChar else .negated (lineEnds flags)
  (asciiOnly flags set false).map .char

/-- The most deeply that groups may nest. -/
def maxDepth : Nat := 250

mutual

/-- Alternatives up to the end of a group. -/
def alternatives? : Nat → Nat → Cursor → Option (Pattern × Cursor)
  | 0, _, _ => none
  | fuel + 1, depth, c => do
    let (p, c) ← sequence? fuel depth .empty none c
    match c.rest with
    | '|' :: rest =>
      let (q, c) ← alternatives? fuel depth { c with rest }
      return (.either p q, c)
    | _ => return (p, c)

/-- The parts of one alternative. `done` is what came before the last part, which a repetition may
still take. -/
def sequence? : Nat → Nat → Pattern → Option Pattern → Cursor → Option (Pattern × Cursor)
  | 0, _, _, _, _ => none
  | fuel + 1, depth, done, last, c =>
    let all : Pattern := match last with
      | some p => .seq done p
      | none => done
    let rest := skipSpace c.flags c.rest
    let next (p : Pattern) (rest : List Char) : Option (Pattern × Cursor) :=
      sequence? fuel depth all (some p) { c with rest }
    let repeated (least : Nat) (most : Option Nat) (rest : List Char) :
        Option (Pattern × Cursor) :=
      match last with
      | some p =>
        sequence? fuel depth done (some (.loop p least most)) { c with rest := skipLazy rest }
      | none => none
    match rest with
    | [] => some (all, { c with rest := [] })
    | '|' :: _ | ')' :: _ => some (all, { c with rest })
    | '*' :: rest => repeated 0 none rest
    | '+' :: rest => repeated 1 none rest
    | '?' :: rest => repeated 0 (some 1) rest
    | '\x7b' :: rest =>
      match counts? rest with
      | some ((least, most), rest) => repeated least most rest
      | none => none
    | '(' :: rest =>
      match opening? { c with rest } with
      | some (.flags after) => sequence? fuel depth all none after
      | some (.group inner) =>
        if maxDepth ≤ depth then none
        else
          match alternatives? fuel (depth + 1) inner with
          | some (p, after) =>
            match after.rest with
            | ')' :: rest =>
              sequence? fuel depth all (some p) { c with rest, names := after.names }
            | _ => none
          | none => none
      | none => none
    | '[' :: rest =>
      let (negated, b, rest) := openBracket c.flags rest
      match bracketed? c.flags (rest.length + 1) negated b rest with
      | some (set, rest) => next (.char set) rest
      | none => none
    | '.' :: rest =>
      match dot? c.flags with
      | some p => next p rest
      | none => none
    | '^' :: rest =>
      next (.anchor (if c.flags.multiLine then .lineStart (lineEnds c.flags) else .textStart)) rest
    | '$' :: rest =>
      next (.anchor (if c.flags.multiLine then .lineEnd (lineEnds c.flags) else .textEnd)) rest
    | '\\' :: rest =>
      match escape? c.flags rest with
      | some (.literal a, rest) => next (literal c.flags a) rest
      | some (.set s, rest) => next (.char s) rest
      | some (.anchor a, rest) => next (.anchor a) rest
      | none => none
    | a :: rest => next (literal c.flags a) rest

end

/-- The largest pattern that is taken. -/
def maxSize : Nat := 327680

/-- Reads a pattern; `none` if it is none. -/
def parse? (text : String) : Option Pattern := do
  let s := text.toList
  let (p, c) ← alternatives? (3 * s.length + 3) 0 ⟨s, {}, []⟩
  if c.rest.isEmpty ∧ p.size ≤ maxSize then return p else none

end Pattern

end CleanupCourier
