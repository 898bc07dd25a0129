import CleanupCourier.Json.Basic

/-!
JSON values as YAML in block style: one line for each scalar, two spaces for each level, and the
items of a list no deeper than the key above them. A text of several lines keeps its lines.
-/
namespace CleanupCourier

namespace Yaml

/-- Characters that a plain text may start with. -/
def startsPlain (c : Char) : Bool :=
  c.isAlpha || c == '.' || c == '/' || c == '_'

/-- Texts that stand for something else when they are written plain. -/
def reserved : List String :=
  ["true", "false", "null", "True", "False", "Null", "TRUE", "FALSE", "NULL", ".inf", ".nan"]

/-- Whether a text of one line may be written without quotes. -/
def isPlain (s : String) : Bool :=
  let chars := s.toList
  chars.head?.any startsPlain && chars.getLast? != some ' ' && chars.getLast? != some ':' &&
    !reserved.contains s && (chars.zip chars.tail).all fun (a, b) =>
      !(a == ':' && b == ' ') && !(a == ' ' && b == '#')

def quotedText (s : String) : String :=
  "'" ++ s.replace "'" "''" ++ "'"

def indent (depth : Nat) (line : String) : String :=
  if line.isEmpty then "" else "".pushn ' ' depth ++ line

/-- A text after the lead of its line: its key, or the mark of an item. -/
def textLines (lead : String) (depth : Nat) (s : String) : List String :=
  if s.contains '\n' then
    (lead ++ " |-") :: (s.splitOn "\n").map (indent depth)
  else if isPlain s then [lead ++ " " ++ s]
  else [lead ++ " " ++ quotedText s]

mutual

/-- The lines of a value, each below its lead; what stands deeper is indented by `depth` spaces. -/
def lines (lead : String) (depth : Nat) : Json → List String
  | .null => [lead ++ " null"]
  | .bool b => [lead ++ " " ++ (if b then "true" else "false")]
  | .number lexeme => [lead ++ " " ++ lexeme]
  | .string s => textLines lead depth s
  | .array [] => [lead ++ " []"]
  | .object [] => [lead ++ " \x7b\x7d"]
  | .array (item :: items) => lead :: itemLines (depth - 2) (item :: items)
  | .object ((key, j) :: members) => lead :: memberLines depth ((key, j) :: members)
  | .stopped _ => []
  | .unreadable _ => []

/-- An object that is an item starts in the line of the item's mark. -/
def itemLines (depth : Nat) : List Json → List String
  | [] => []
  | .object ((key, j) :: members) :: rest =>
    let first := lines (indent depth "- " ++ key ++ ":") (depth + 4) j
    first ++ memberLines (depth + 2) members ++ itemLines depth rest
  | item :: rest => lines (indent depth "-") (depth + 2) item ++ itemLines depth rest

def memberLines (depth : Nat) : List (String × Json) → List String
  | [] => []
  | (key, j) :: rest =>
    lines (indent depth (key ++ ":")) (depth + 2) j ++ memberLines depth rest

end

/-- The lines of an object as a document of its own. -/
def document : Json → List String
  | .object members => memberLines 0 members
  | _ => []

end Yaml

end CleanupCourier
