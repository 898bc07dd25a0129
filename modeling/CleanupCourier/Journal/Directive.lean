import CleanupCourier.Journal.Event
import CleanupCourier.Pattern.Reader
import CleanupCourier.Text.Alphanumeric
import CleanupCourier.Text.Blank
import CleanupCourier.Text.Decimal

/-!
Directives for what to log, as text: a level, a target with or without a level, and between them a
span in brackets that the directive is about, by name or by a field. Levels are counted from zero
for nothing to five for all.
-/
namespace CleanupCourier

/-- How much is logged: zero for nothing, else all levels up to this rank. -/
abbrev Verbosity := Nat

namespace Verbosity

def error : Verbosity := 1

def all : Verbosity := 5

def names : List (String × Verbosity) :=
  [("off", 0), ("error", 1), ("warn", 2), ("info", 3), ("debug", 4), ("trace", 5)]

/-- Reads a name in any case, or a number. -/
def parse? (s : List Char) : Option Verbosity :=
  let number := (boundedNumber (wordSize 64 - 1) s).toOption.filter (· ≤ all)
  number.or (names.lookup (String.ofList (s.map Char.toLower)))

end Verbosity

/-- What the value of a field is compared with. -/
inductive FieldTest where
  | number (n : Nat)
  | pattern (p : Pattern)
  /-- Holds of no value of a span: a truth value, a number below zero or with a fraction. -/
  | never

namespace FieldTest

/-- Number texts that are no whole numbers from zero on. -/
def isOtherNumber (s : List Char) : Bool :=
  let unsigned := match s with
    | '-' :: rest => rest
    | '+' :: rest => rest
    | rest => rest
  let mantissa := unsigned.takeWhile fun c => c != 'e' && c != 'E'
  let exponent := (unsigned.drop mantissa.length).drop 1
  let digits := match exponent with
    | '-' :: rest => rest
    | '+' :: rest => rest
    | rest => rest
  let isNumber := mantissa.any Char.isDigit && mantissa.count '.' ≤ 1 &&
    mantissa.all fun c => c.isDigit || c == '.'
  let isExponent :=
    unsigned.length = mantissa.length || (!digits.isEmpty && digits.all Char.isDigit)
  (isNumber && isExponent) ||
    ["inf", "infinity", "nan"].contains (String.ofList (unsigned.map Char.toLower))

def parse? (s : List Char) : Option FieldTest :=
  let text := String.ofList s
  if text = "true" ∨ text = "false" then some .never
  else match boundedNumber (wordSize 64 - 1) s with
    | .ok n => some (.number n)
    | .error _ => if isOtherNumber s then some .never else (Pattern.parse? text).map .pattern

/-- A pattern has to match up to the end of a text. -/
def holds : FieldTest → FieldValue → Bool
  | .number n, .number m => n == m
  | .pattern p, .text s =>
    let chars := s.toList.toArray
    (p.ends chars (List.range (chars.size + 1))).contains chars.size
  | _, _ => false

end FieldTest

/-- A field that a span has to have, and what its value has to be, if anything. -/
structure FieldCondition where
  name : String
  test : Option FieldTest := none

structure Directive where
  verbosity : Verbosity := Verbosity.all
  target : Option String := none
  span : Option String := none
  fields : List FieldCondition := []

namespace Directive

/-- A directive about spans, not about targets alone. -/
def isAboutSpans (d : Directive) : Bool :=
  d.span.isSome || !d.fields.isEmpty

/-- The length of the text before the first of some characters, and the text from there on. -/
def upTo (stops : List Char) (s : List Char) : Nat × List Char :=
  let before := s.takeWhile (!stops.contains ·)
  (before.length, s.drop before.length)

def fieldCondition? (s : List Char) : Option FieldCondition := do
  let (n, rest) := upTo ['='] s
  let name := String.ofList (s.take n)
  match rest with
  | [] => return { name }
  | _ :: rest =>
    let test ← FieldTest.parse? (rest.takeWhile (· != '='))
    return { name, test := some test }

/-- The text that directives are cut from; places in it are counted as if it had no blanks around
it. -/
structure Source where
  text : List Char

namespace Source

def cut (source : Source) (start stop : Nat) : List Char :=
  (source.text.drop start).take (stop - start)

/-- The level from a place on; none at all stands for everything. -/
def level? (source : Source) (start : Nat) : Option Verbosity :=
  let text := source.text.drop start
  if text.isEmpty then some Verbosity.all else Verbosity.parse? text

/-- What follows the brackets of a span. -/
def afterSpan? (source : Source) (place : Nat) (rest : List Char) (d : Directive) :
    Option Directive :=
  match rest with
  | [] => some d
  | '=' :: _ => do return { d with verbosity := ← source.level? (place + 1) }
  | _ => none

/-- What follows the opening bracket of a span. -/
def span? (source : Source) (place : Nat) (rest : List Char) (d : Directive) : Option Directive :=
  let (n, rest) := upTo [']', '\x7b'] rest
  let name := String.ofList (source.cut place (place + n))
  match rest with
  | ']' :: rest => source.afterSpan? (place + n + 1) rest { d with span := some name }
  | '\x7b' :: rest => do
    let start := place + n + 1
    let (m, rest) := upTo ['\x7d'] rest
    let field := source.cut start (start + m)
    match rest with
    | '\x7d' :: ']' :: rest =>
      if field.isEmpty then none
      else
        let span := if name.isEmpty then none else some name
        let fields := [← fieldCondition? field]
        source.afterSpan? (start + m + 2) rest { d with span, fields }
    | _ => none
  | _ => none

/-- A text without any mark is a level, or else a target. -/
def levelOrTarget (source : Source) : Directive :=
  match Verbosity.parse? source.text with
  | some verbosity => { verbosity }
  | none => { target := some (String.ofList source.text) }

end Source

def mayStart (c : Char) : Bool :=
  c == '-' || c == ':' || c == '_' || isAlphanumeric c

def parse? (text : String) : Option Directive :=
  let source : Source := ⟨text.toList⟩
  match trimBoth isBlank text.toList with
  | [] => none
  | '[' :: rest => source.span? 1 rest {}
  | first :: rest =>
    if !mayStart first then none
    else
      let (n, rest) := upTo ['=', '['] rest
      let d : Directive := { target := some (String.ofList (source.cut 0 (n + 1))) }
      match rest with
      | '=' :: _ => do return { d with verbosity := ← source.level? (n + 2) }
      | '[' :: rest => source.span? (n + 2) rest d
      | _ => some source.levelOrTarget

/-- The items of a list of directives; empty ones do not count. -/
def items (text : String) : List String :=
  (text.splitOn ",").filter (!·.isEmpty)

/-- All directives of a list, if each item is one. -/
def listOf? (text : String) : Option (List Directive) :=
  (items text).mapM parse?

/-- The directives of a list, other items left out. -/
def listOf (text : String) : List Directive :=
  (items text).filterMap parse?

end Directive

end CleanupCourier
