/-!
# Blanks

The characters with the Unicode property White_Space. They separate words
and are trimmed from both ends of a line, a link and a title. The zero-width
space is not one of them.
-/

namespace Concordance.Text

/-- Whether a character is a blank. -/
def isBlank (c : Char) : Bool :=
  let code := c.toNat
  code == 0x20 || (0x09 ≤ code && code ≤ 0x0D) || code == 0x85 || code == 0xA0 ||
    code == 0x1680 || (0x2000 ≤ code && code ≤ 0x200A) || code == 0x2028 || code == 0x2029 ||
    code == 0x202F || code == 0x205F || code == 0x3000

/-- What is left of `cs` without the blanks at both ends. -/
def trim (cs : List Char) : List Char :=
  ((cs.dropWhile isBlank).reverse.dropWhile isBlank).reverse

/-- What is left of `s` without the blanks at both ends. -/
def trimBlanks (s : String) : String := .ofList (trim s.toList)

theorem isBlank_space : isBlank ' ' = true := rfl

/-- A property of all characters of a text is decided by going through the text, and not through
all characters there are, though these are finitely many too. -/
instance decidableAllChars {P : Char → Prop} [DecidablePred P] (cs : List Char) :
    Decidable (∀ c ∈ cs, P c) :=
  List.decidableBAll P cs

end Concordance.Text
