import CleanupCourier.Domain.Ascii
import CleanupCourier.Text.Alphanumeric
import CleanupCourier.Url.Host

/-!
Mail addresses: a user and a domain. Characters beyond ASCII may stand in both.
-/
namespace CleanupCourier

/-- Why a text is no mail address. -/
inductive AddressFault where
  | input
  | user
  | domain
deriving DecidableEq, Repr

def AddressFault.message : AddressFault → String
  | .input => "Invalid input"
  | .user => "Invalid email user"
  | .domain => "Invalid email domain"

structure MailAddress where
  user : String
  domain : String
deriving DecidableEq, Repr

namespace MailAddress

def text (a : MailAddress) : String :=
  a.user ++ "@" ++ a.domain

/-- Characters of atoms, the plain words that addresses are made of. -/
def isAtomChar (c : Char) : Bool :=
  c.isAlphanum || "!#$%&'*+-/=?^_`\x7b|\x7d~".toList.contains c || 0x80 ≤ c.toNat

def isAtom (s : List Char) : Bool :=
  !s.isEmpty && s.all isAtomChar

def isDottedAtom (s : List Char) : Bool :=
  (s.splitOn '.').all isAtom

def octetCount (s : List Char) : Nat :=
  s.foldl (fun n c => n + c.utf8Size) 0

/-- What stands between the quotes of a quoted user: no quote or backslash without one before it. -/
def isQuotedContent : List Char → Bool
  | [] => true
  | '\\' :: c :: rest =>
    (c == ' ' || c == '\t' || 0x21 ≤ c.toNat && c.toNat ≤ 0x7E) && isQuotedContent rest
  | ['\\'] => false
  | c :: rest => c != '"' && 0x20 ≤ c.toNat && c.toNat != 0x7F && isQuotedContent rest

def isUser (s : List Char) : Bool :=
  if s.isEmpty || 64 < octetCount s then false
  else if s.head? == some '"' && s.getLast? == some '"' then
    2 < s.length && isQuotedContent (s.drop 1).dropLast
  else isDottedAtom s

def isDomainLabel (label : List Char) : Bool :=
  label.head?.any isAlphanumeric && label.getLast?.any isAlphanumeric && octetCount label ≤ 63 &&
    isAtom label

def isDomainName (s : List Char) : Bool :=
  !s.isEmpty && octetCount s ≤ 254 && (s.splitOn '.').all isDomainLabel

/-- A machine by its number: four decimal parts, or pieces of base sixteen. -/
def isMachine (s : List Char) : Bool :=
  (Host.dottedPieces? s).isSome || (Host.ipv6? s).isSome

def isPlainDomain (s : List Char) : Bool :=
  isDomainName s || isMachine s

/-- A domain is good as it is, or in its ASCII form. -/
def isDomain (s : List Char) : Bool :=
  isPlainDomain s || (Domain.ascii? s).any isPlainDomain

def make (user domain : List Char) : Except AddressFault MailAddress :=
  if !isUser user then .error .user
  else if !isDomain domain then .error .domain
  else .ok ⟨String.ofList user, String.ofList domain⟩

end MailAddress

end CleanupCourier
