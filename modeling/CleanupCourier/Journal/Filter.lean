import CleanupCourier.Journal.Directive
import CleanupCourier.Settings

/-!
Which events are logged, and with which of their spans. Of the rules for targets the most specific
one decides. A directive about a span applies to all that happens inside the span, wherever it comes
from; it never takes away what a rule for targets allows.
-/
namespace CleanupCourier

/-- Applies to targets that start with the given one, and to events that have the given fields. -/
structure TargetRule where
  target : Option String
  fields : List String
  verbosity : Verbosity
deriving DecidableEq, Repr

namespace TargetRule

/-- Longer targets are more specific, then more fields; a missing target is least so. -/
def isAtMost (a b : TargetRule) : Bool :=
  let size (r : TargetRule) : Nat := match r.target with
    | some target => target.utf8ByteSize + 1
    | none => 0
  if size a ≠ size b then size a < size b
  else if a.fields.length ≠ b.fields.length then a.fields.length < b.fields.length
  else ",".intercalate a.fields ≤ ",".intercalate b.fields

def fits (r : TargetRule) (target : String) : Bool :=
  r.target.all (target.startsWith ·)

/-- The most specific rule, the last of equals. -/
def mostSpecific? (rules : List TargetRule) : Option TargetRule :=
  rules.foldl (fun best r =>
    match best with
    | some b => if b.isAtMost r then some r else some b
    | none => some r) none

end TargetRule

structure LogFilter where
  rules : List TargetRule
  /-- The directives about spans. -/
  spans : List Directive

namespace LogFilter

def ruleOf? (d : Directive) : Option TargetRule :=
  if d.span.isSome || d.fields.any (·.test.isSome) then none
  else some ⟨d.target, d.fields.map (·.name), d.verbosity⟩

/-- Without any directive only errors are logged. -/
def ofDirectives (directives : List Directive) : LogFilter :=
  if directives.isEmpty then ⟨[⟨none, [], Verbosity.error⟩], []⟩
  else
    let (about, plain) := directives.partition (·.isAboutSpans)
    ⟨plain.filterMap ruleOf? ++ about.filterMap ruleOf?, about⟩

/-- The filter of a process: what its environment asks for, if that can be read, else the level of
the settings for this program and warnings for all else. -/
def ofProcess (environment : Option String) (s : Settings) : LogFilter :=
  let level := String.ofList (s.logLevel.toList.map Char.toLower)
  match environment.bind Directive.listOf? with
  | some directives => ofDirectives directives
  | none => ofDirectives (Directive.listOf ("warn," ++ logTarget [] ++ "=" ++ level))

def most (l : List Verbosity) : Verbosity :=
  l.foldl max 0

def spanMost (f : LogFilter) : Verbosity :=
  most (f.spans.map (·.verbosity))

/-- The most that is ever logged; a test of a value may come to apply to any span. -/
def overall (f : LogFilter) : Verbosity :=
  if f.spans.any fun d => d.fields.any (·.test.isSome) then Verbosity.all
  else max (most (f.rules.map (·.verbosity))) f.spanMost

/-- Whether a directive is about a span, its values apart. -/
def isAbout (d : Directive) (s : Span) : Bool :=
  d.target.all (s.target.startsWith ·) && d.span.all (· == s.name) &&
    d.fields.all fun c => s.fields.any (·.1 == c.name)

/-- Whether the values of a span are as a directive wants them. -/
def valuesHold (d : Directive) (s : Span) : Bool :=
  d.fields.all fun c =>
    match c.test with
    | none => true
    | some test => s.fields.any fun (name, value) => name == c.name && test.holds value

/-- How much is logged inside a span by the directives about it, if there are any. -/
def inside? (f : LogFilter) (s : Span) : Option Verbosity :=
  let about := f.spans.filter (isAbout · s)
  if about.isEmpty then none
  else some (most ((about.filter (valuesHold · s)).map (·.verbosity)))

/-- Whether the rules for targets allow a level, for those whose fields fit. -/
def rulesAllow (f : LogFilter) (target : String) (fieldsFit : TargetRule → Bool) (rank : Nat) :
    Bool :=
  match TargetRule.mostSpecific? (f.rules.filter fun r => r.fits target && fieldsFit r) with
  | some r => rank ≤ r.verbosity
  | none => false

/-- The spans around an event that are logged, and how much each one lets through that a directive
is about. -/
def enter (f : LogFilter) (state : List Span × List Verbosity) (s : Span) :
    List Span × List Verbosity :=
  let (shown, around) := state
  let rank := Level.info.rank
  let inside := f.inside? s
  let isShown := rank ≤ f.overall && (inside.isSome || around.any (rank ≤ ·) ||
    f.rulesAllow s.target (fun _ => true) rank)
  if isShown then (shown ++ [s], around ++ inside.toList) else state

/-- The event as it is logged: with the spans that are, or not at all. -/
def pass? (f : LogFilter) (e : Event) : Option Event :=
  let (shown, around) := e.spans.foldl f.enter ([], [])
  let rank := e.level.rank
  let hasFields (r : TargetRule) : Bool := r.fields.all (· == "message")
  if rank ≤ f.overall && (around.any (rank ≤ ·) || f.rulesAllow e.target hasFields rank) then
    some { e with spans := shown }
  else none

end LogFilter

end CleanupCourier
