import CleanupCourier.Pattern.Basic
import CleanupCourier.Pattern.Category
import CleanupCourier.Pattern.Property
import CleanupCourier.Pattern.Script
import CleanupCourier.Text.Blank

/-!
The sets of characters that patterns name.
-/
namespace CleanupCourier

namespace Pattern

/-- A name in small letters, without blanks, hyphens and underscores. -/
def looseName (s : List Char) : String :=
  let kept := (s.filter fun c => c != ' ' && c != '-' && c != '_').map Char.toLower
  match kept with
  | 'i' :: 's' :: rest =>
    if rest = ['c'] ∨ rest.isEmpty then String.ofList kept else String.ofList rest
  | _ => String.ofList kept

def lookUp (entries : List (List String × String)) (name : String) : Option CharSet :=
  (entries.find? (·.1.contains name)).map fun entry => .table (CodeRanges.ofSteps entry.2)

def anyChar : CharSet :=
  .negated .none

def ascii : CharSet :=
  .range '\x00' '\x7f'

def categoryOrScript? (name : String) : Option CharSet :=
  if name = "any" then some anyChar
  else if name = "assigned" then (lookUp categories "cn").map .negated
  else if name = "ascii" then some ascii
  else (lookUp categories name).or (lookUp scripts name)

/-- The set that a property name stands for. -/
def propertySet? (name : List Char) : Option CharSet :=
  let name := looseName name
  (lookUp properties name).or (categoryOrScript? name)

/-- The set that a property with a value stands for. -/
def valueSet? (property value : List Char) : Option CharSet :=
  let value := looseName value
  match looseName property with
  | "gc" | "generalcategory" =>
    if value = "any" ∨ value = "assigned" ∨ value = "ascii" then categoryOrScript? value
    else lookUp categories value
  | "sc" | "script" | "scx" | "scriptextensions" => lookUp scripts value
  | _ => none

def asciiDigit : CharSet := .range '0' '9'

def asciiWord : CharSet :=
  .unionAll [.range 'a' 'z', .range 'A' 'Z', asciiDigit, .one '_']

def asciiSpace : CharSet :=
  .union (.range '\t' '\r') (.one ' ')

def digits : CharSet :=
  (lookUp categories "nd").getD .none

def blanks : CharSet :=
  (lookUp properties "whitespace").getD .none

def words : CharSet :=
  .table wordChars

/-- The sets of ASCII characters that brackets with colons name. -/
def asciiClass? (name : String) : Option CharSet :=
  match name with
  | "alnum" => some (.unionAll [.range '0' '9', .range 'A' 'Z', .range 'a' 'z'])
  | "alpha" => some (.union (.range 'A' 'Z') (.range 'a' 'z'))
  | "ascii" => some ascii
  | "blank" => some (.union (.one '\t') (.one ' '))
  | "cntrl" => some (.union (.range '\x00' '\x1f') (.one '\x7f'))
  | "digit" => some asciiDigit
  | "graph" => some (.range '!' '~')
  | "lower" => some (.range 'a' 'z')
  | "print" => some (.range ' ' '~')
  | "punct" =>
    some (.unionAll [.range '!' '/', .range ':' '@', .range '[' '`', .range '\x7b' '~'])
  | "space" => some asciiSpace
  | "upper" => some (.range 'A' 'Z')
  | "word" => some asciiWord
  | "xdigit" => some (.unionAll [asciiDigit, .range 'A' 'F', .range 'a' 'f'])
  | _ => none

end Pattern

end CleanupCourier
