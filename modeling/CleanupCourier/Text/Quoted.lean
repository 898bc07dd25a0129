import CleanupCourier.Text.Hex
import CleanupCourier.Text.Unprintable

/-!
Text quoted for a message to people: between double quotes, with quotes, backslashes and line ends
escaped and every character that does not print by itself given by its code point.
-/
namespace CleanupCourier

namespace Quoted

def escape (c : Char) : List Char :=
  if c = '\x00' then ['\\', '0']
  else if c = '\t' then ['\\', 't']
  else if c = '\r' then ['\\', 'r']
  else if c = '\n' then ['\\', 'n']
  else if c = '\\' then ['\\', '\\']
  else if c = '"' then ['\\', '"']
  else if isUnprintable c then ['\\', 'u', '\x7b'] ++ hexDigits c.toNat ++ ['\x7d']
  else [c]

def chars (s : List Char) : List Char :=
  '"' :: (s.flatMap escape ++ ['"'])

end Quoted

def quoted (s : String) : String :=
  String.ofList (Quoted.chars s.toList)

end CleanupCourier
