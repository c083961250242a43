import Concordance.Text.Printable

/-!
# Quoted texts

A text as it is quoted in a message: between quotation marks, with backslashes
before quotation marks and backslashes, and with a name or a number for every
character that could not be seen.
-/

namespace Concordance.Text

/-- The number of a character, in braces. -/
def numberEscape (c : Char) : List Char :=
  ['\\', 'u', '\x7b'] ++ Nat.toDigits 16 c.toNat ++ ['\x7d']

def quotedChar (c : Char) : List Char :=
  if c = '"' ∨ c = '\\' then ['\\', c]
  else if c = '\n' then ['\\', 'n']
  else if c = '\r' then ['\\', 'r']
  else if c = '\t' then ['\\', 't']
  else if c = '\x00' then ['\\', '0']
  else if isPrintable c then [c]
  else numberEscape c

def quoted (text : String) : String := .ofList ('"' :: text.toList.flatMap quotedChar ++ ['"'])

end Concordance.Text
