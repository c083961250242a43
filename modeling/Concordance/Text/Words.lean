import Concordance.Text.Blank
import Concordance.Text.Canonical
import Concordance.Text.Cased
import Concordance.Text.Letter
import Concordance.Text.LowerCase

/-!
# Words of a text

A text is cleaned before it is cut into words: it is decomposed, everything
but letters and blanks is deleted, and what is left is put in lower case.
Deletion joins what it stands between, so a hyphen or a digit inside a word
vanishes without a trace. The words are then the maximal runs of characters
that are not blanks.

Lower case is taken one character at a time but for the Greek capital sigma,
whose small form depends on whether the word ends there.
-/

namespace Concordance.Text

/-! ## Lower case -/

/-- Whether the first character that is not case-ignorable is cased. -/
def casedAhead (cs : List Char) : Bool :=
  match cs.dropWhile isCaseIgnorable with
  | c :: _ => isCased c
  | [] => false

/-- Lower case of `cs`, which follows the text whose characters are `before`,
the nearest first. A capital sigma that ends a word becomes a final sigma. -/
def lowerAfter (before : List Char) : List Char → List Char
  | [] => []
  | c :: rest =>
    (if c = 'Σ' then [if casedAhead before && !casedAhead rest then 'ς' else 'σ']
      else lowerChar c) ++ lowerAfter (c :: before) rest

/-- Lower case of a text. -/
def lower (cs : List Char) : List Char := lowerAfter [] cs

/-! ## Cleaning and cutting -/

/-- Decomposed, cut down to letters and blanks, and in lower case. -/
def clean (cs : List Char) : List Char :=
  lower ((canonical cs).filter fun c => isLetter c || isBlank c)

/-- Adds a character in front of a text that begins with the word `w`, which is
empty when the text begins with a blank, and goes on with the words `ws`. -/
def consChar (c : Char) : List Char × List (List Char) → List Char × List (List Char)
  | (w, ws) =>
    if isBlank c then ([], if w.isEmpty then ws else w :: ws) else (c :: w, ws)

/-- The word at the front of a text, empty if a blank stands there, and the
words behind it. -/
def frontWord (cs : List Char) : List Char × List (List Char) := cs.foldr consChar ([], [])

/-- The words of a text: its maximal runs of characters that are not blanks. -/
def words (cs : List Char) : List (List Char) :=
  match frontWord cs with
  | (w, ws) => if w.isEmpty then ws else w :: ws

/-! ## A blank separates -/

theorem frontWord_append_blank {b : Char} (hb : isBlank b = true) (xs ys : List Char) :
    frontWord (xs ++ b :: ys) = ((frontWord xs).1, (frontWord xs).2 ++ words ys) := by
  unfold frontWord
  induction xs with
  | nil => simp [consChar, hb, words, frontWord]
  | cons x xs ih =>
    simp only [List.cons_append, List.foldr_cons, ih, consChar]
    by_cases hx : isBlank x = true
    · simp only [hx, if_true]
      by_cases hw : (xs.foldr consChar ([], [])).1.isEmpty = true <;> simp [hw]
    · simp [hx]

/-- The words around a blank are the words before it and those after it. -/
theorem words_append_blank {b : Char} (hb : isBlank b = true) (xs ys : List Char) :
    words (xs ++ b :: ys) = words xs ++ words ys := by
  rw [words, frontWord_append_blank hb]
  conv => rhs; rw [words]
  by_cases hw : (frontWord xs).1.isEmpty = true <;> simp [hw]

end Concordance.Text
