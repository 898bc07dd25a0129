import CleanupCourier.Domain.Composition
import CleanupCourier.Domain.DirectionTable
import CleanupCourier.Domain.MappingTable
import CleanupCourier.Domain.Punycode

/-!
The ASCII form of a domain name as it stands in an address. Characters are mapped and composed, then
each label is checked by itself: for characters it may not have, for joiners out of place, and, in a
name with right-to-left characters, for mixed directions. Labels beyond ASCII are written after the
mark `xn--`.
-/
namespace CleanupCourier

namespace Domain

/-- ASCII characters that no label has. -/
def isDenied (c : Char) : Bool :=
  let n := c.toNat
  n ≤ 0x20 || n == 0x7F || "%#/:<>?@[\\]^|".toList.contains c

def mapChar? (c : Char) : Option (List Char) :=
  if validChars.has c then some [c]
  else if ignoredChars.has c then some []
  else (mappedChars.find? c.toNat).map (·.map Char.ofNat)

/-- The mark of a label that is written in ASCII for one that goes beyond it. -/
def mark : List Char := ['x', 'n', '-', '-']

def isAscii (label : List Char) : Bool :=
  label.all (·.toNat < 0x80)

/-- Whether a joiner with the characters `before` it, nearest first, stands in its place. -/
def joinerFits (joiner : Char) (before after : List Char) : Bool :=
  match before with
  | [] => false
  | c :: _ =>
    if combiningClass c = 9 then true
    else if joiner = '\u200C' then
      match before.dropWhile transparent.has, after.dropWhile transparent.has with
      | a :: _, b :: _ => joiningLeft.has a && joiningRight.has b
      | _, _ => false
    else false

def joinersFit (before : List Char) : List Char → Bool
  | [] => true
  | c :: rest =>
    (if c = '\u200C' ∨ c = '\u200D' then joinerFits c before rest else true) &&
      joinersFit (c :: before) rest

/-- What a label may hold once it is mapped and composed. -/
def isSound (label : List Char) : Bool :=
  label.all (fun c => !isDenied c && validChars.has c && !('A' ≤ c && c ≤ 'Z')) &&
    !(label.head?.any marks.has) && joinersFit [] label

def isRightToLeft (c : Char) : Bool :=
  rightToLeft.has c || arabicNumbers.has c

/-- Whether the directions in a label of a right-to-left name go together. -/
def directionsFit (label : List Char) : Bool :=
  let ending := (label.reverse.dropWhile nonspacingMarks.has).head?
  match label with
  | [] => true
  | c :: _ =>
    if rightToLeft.has c then
      label.all (fun d => rightToLeft.has d || arabicNumbers.has d || europeanNumbers.has d ||
        neutrals.has d || nonspacingMarks.has d) &&
      ending.any (fun d => rightToLeft.has d || europeanNumbers.has d || arabicNumbers.has d) &&
      !(label.any europeanNumbers.has && label.any arabicNumbers.has)
    else if leftToRight.has c then
      label.all (fun d => leftToRight.has d || europeanNumbers.has d || neutrals.has d ||
        nonspacingMarks.has d) &&
      ending.any (fun d => leftToRight.has d || europeanNumbers.has d)
    else false

/-- The label that a mapped label stands for, if it is sound. -/
def readLabel? (label : List Char) : Option (List Char) :=
  if mark.isPrefixOf label then
    match Punycode.decode? (label.drop 4) with
    | none => none
    | some decoded =>
      if isAscii decoded || composed decoded != decoded || !isSound decoded then none
      else some decoded
  else if isSound label then some label
  else none

def writeLabel (label : List Char) : List Char :=
  if isAscii label then label else mark ++ Punycode.encode label

/-- Blanks and controls. Each of them is mapped to itself and composes with nothing, so a name with
one of them has it still where labels are checked, and is refused there at the latest. -/
def isBlankOrControl (c : Char) : Bool :=
  c.toNat ≤ 0x20

/-- The ASCII form of a name; `none` if it is not allowed. -/
def ascii? (name : List Char) : Option (List Char) :=
  if name.any isBlankOrControl then none
  else do
    let mapped ← name.mapM mapChar?
    let labels ← ((composed mapped.flatten).splitOn '.').mapM readLabel?
    if labels.any (·.any isRightToLeft) && !labels.all directionsFit then none
    else some (['.'].intercalate (labels.map writeLabel))

end Domain

end CleanupCourier
