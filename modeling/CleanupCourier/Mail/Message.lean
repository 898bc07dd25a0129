import CleanupCourier.Mail.Mailbox
import CleanupCourier.Text.Utf8

/-!
A mail: its headers and body, and both as the one who receives them sees them. The octets that a
relay takes are not written out here. What is stated is what is left when the encoded words of a
header and the transfer encoding of a body are undone again; of the encodings themselves only that
counts which does not come back, such as blanks between encoded words and bare line feeds.
-/
namespace CleanupCourier

structure MailMessage where
  sender : Mailbox
  recipients : List Mailbox
  subject : String
  isHtml : Bool
  body : String
deriving DecidableEq, Repr

namespace MailMessage

/-- Characters that a header holds as they are. -/
def isHeaderChar (c : Char) : Bool :=
  let n := c.toNat
  n != 0 && n != 10 && n != 13 && n ≤ 127

/-- A part of a header: text as it is, or text that is encoded. -/
structure HeaderRun where
  encoded : Bool
  text : List Char

/-- The words of a text, each with the space after it. -/
def words : List Char → List (List Char)
  | [] => []
  | c :: rest =>
    if c = ' ' then [c] :: words rest
    else match words rest with
      | [] => [[c]]
      | w :: more => (c :: w) :: more

/-- Runs of words that are encoded together, and plain ones. -/
def runs (s : List Char) : List HeaderRun :=
  (words s).foldr (fun word done =>
    let encoded := !word.all isHeaderChar
    match done with
    | r :: rest =>
      if r.encoded = encoded then ⟨encoded, word ++ r.text⟩ :: rest
      else ⟨encoded, word⟩ :: r :: rest
    | [] => [⟨encoded, word⟩]) []

/-- Spaces at the end of an encoded run stand after it as they are. -/
def spread (r : HeaderRun) : List HeaderRun :=
  if r.encoded then
    let text := (r.text.reverse.dropWhile (· == ' ')).reverse
    [⟨true, text⟩, ⟨false, r.text.drop text.length⟩]
  else [r]

/-- Joins plain runs that stand side by side. -/
def joinPlain : List HeaderRun → List HeaderRun
  | [] => []
  | r :: rest =>
    match joinPlain rest with
    | q :: more =>
      if !r.encoded && !q.encoded then ⟨false, r.text ++ q.text⟩ :: more
      else if !r.encoded && r.text.isEmpty then q :: more
      else r :: q :: more
    | [] => if r.text.isEmpty && !r.encoded then [] else [r]

/-- Blanks between two encoded runs are lost. -/
def dropBetween : List HeaderRun → List HeaderRun
  | a :: b :: c :: rest =>
    if a.encoded && !b.encoded && c.encoded && b.text.all isBlank then a :: dropBetween (c :: rest)
    else a :: dropBetween (b :: c :: rest)
  | rest => rest
termination_by l => l.length

/-- Blanks around a header's text are not part of it. -/
def trimOuter (l : List HeaderRun) : List HeaderRun :=
  let front (l : List HeaderRun) : List HeaderRun := match l with
    | r :: rest => if r.encoded then l else ⟨false, r.text.dropWhile isBlank⟩ :: rest
    | [] => []
  let back (r : HeaderRun) : HeaderRun := { r with text := r.text.reverse }
  ((front ((front l).reverse.map back)).reverse).map back

/-- The text of a header as it is read back. -/
def shownText (text : String) : String :=
  let parts := trimOuter (joinPlain ((runs text.toList).flatMap spread))
  String.ofList ((dropBetween parts).flatMap (·.text))

/-- The line ends of a text that is sent as lines: a bare line feed gets a carriage return. -/
def withLineEnds : Option Char → List Char → List Char
  | _, [] => []
  | before, '\n' :: rest =>
    if before = some '\r' then '\n' :: withLineEnds (some '\n') rest
    else '\r' :: '\n' :: withLineEnds (some '\n') rest
  | _, c :: rest => c :: withLineEnds (some c) rest

/-- The longest line that is sent as it is. -/
def maxLine : Nat := 998

/-- Whether a body is sent in base 64: not if it is ASCII in short lines, and not if at most a third
of its octets need an escape. -/
def isBase64 (body : List Char) : Bool :=
  let bytes := Utf8.encode body
  let isPlain := body.all (·.toNat < 0x80) && (body.splitOn '\n').all (·.length ≤ maxLine)
  let escapes := (bytes.filter fun b => !(b.toNat == 9 || (32 ≤ b.toNat && b.toNat ≤ 126))).length
  !isPlain && bytes.length / 3 < escapes

/-- The body as it arrives, its transfer encoding undone: base 64 gives it back as it is, every other
encoding sends it as lines. -/
def shownBody (m : MailMessage) : String :=
  let body := m.body.toList
  if isBase64 body then m.body else String.ofList (withLineEnds none body)

/-- The headers as they are read back. -/
def shownHeaders (m : MailMessage) : List (String × String) :=
  let recipients := if m.recipients.isEmpty then []
    else [("To", ", ".intercalate (m.recipients.map Mailbox.shown))]
  [("From", m.sender.shown), ("Subject", shownText m.subject),
    ("Content-Type", if m.isHtml then "text/html; charset=utf-8" else "text/plain; charset=utf-8")]
    ++ recipients

end MailMessage

end CleanupCourier
