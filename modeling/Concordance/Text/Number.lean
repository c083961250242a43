/-!
# Whole numbers in text

A whole number is written in decimal digits, perhaps with a plus sign before
them; zeros at the front do not count. The digits are taken from the left, so
of a character that is no digit and a number grown too large the one further
left is what is wrong with the text.
-/

namespace Concordance.Text

/-- Why a text is no number. -/
inductive NumberFault where
  | empty
  | notADigit
  | tooLarge
deriving DecidableEq, Repr

def NumberFault.message : NumberFault → String
  | empty => "cannot parse integer from empty string"
  | notADigit => "invalid digit found in string"
  | tooLarge => "number too large to fit in target type"

/-- The largest number that is counted with. -/
def mostCount : Nat := 0xFFFFFFFFFFFFFFFF

/-- Goes on with a number at its next digits. -/
def readDigits (most value : Nat) : List Char → Except NumberFault Nat
  | [] => .ok value
  | c :: rest =>
    if c.isDigit then
      let next := value * 10 + (c.toNat - '0'.toNat)
      if next ≤ most then readDigits most next rest else .error .tooLarge
    else .error .notADigit

/-- The number that a text stands for, if it is at most `most`. -/
def readNumber (most : Nat) : List Char → Except NumberFault Nat
  | [] => .error .empty
  | ['+'] => .error .notADigit
  | '+' :: digits => readDigits most 0 digits
  | digits => readDigits most 0 digits

end Concordance.Text
