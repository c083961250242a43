import Concordance.Text.CombiningClass
import Concordance.Text.Decomposition

/-!
# Canonical decomposition of a text

Every character is decomposed, and then each run of accents is put in the
order of their combining classes. Accents of one class keep their order, and
nothing moves across a character of class zero, so the order of a text is
settled between any two such characters on its own
(`canonicalOrder_append`).
-/

namespace Concordance.Text

/-- Puts `c` in front of `rest`, behind the accents it has to follow: those at
the front of `rest` whose class is lower but not zero. -/
def insertMark (c : Char) : List Char → List Char
  | [] => [c]
  | d :: rest =>
    if combiningClass c = 0 ∨ combiningClass d = 0 ∨ combiningClass c ≤ combiningClass d then
      c :: d :: rest
    else d :: insertMark c rest

/-- Sorts each run of accents by class, keeping equals in order. -/
def canonicalOrder (cs : List Char) : List Char := cs.foldr insertMark []

/-- The canonical decomposition of a text. -/
def canonical (cs : List Char) : List Char := canonicalOrder (cs.flatMap decompose)

/-! ## Nothing comes and goes -/

theorem perm_insertMark (c : Char) (run : List Char) :
    (insertMark c run).Perm (c :: run) := by
  induction run with
  | nil => exact List.Perm.refl _
  | cons d run ih =>
    rw [insertMark]
    split
    · exact List.Perm.refl _
    · exact (ih.cons d).trans (List.Perm.swap c d run)

theorem perm_canonicalOrder (run : List Char) : (canonicalOrder run).Perm run := by
  induction run with
  | nil => exact List.Perm.refl _
  | cons c run ih => exact (perm_insertMark c _).trans (ih.cons c)

/-! ## Where the order is settled

A character of class zero takes its place at once and lets nothing pass, so
what follows it is ordered without regard to what comes before. -/

theorem insertMark_of_class_zero {c : Char} (h : combiningClass c = 0) (rest : List Char) :
    insertMark c rest = c :: rest := by
  cases rest with
  | nil => rfl
  | cons d rest => simp [insertMark, h]

theorem insertMark_append {c d : Char} (hd : combiningClass d = 0) (run rest : List Char) :
    insertMark c (run ++ d :: rest) = insertMark c run ++ d :: rest := by
  induction run with
  | nil => simp [insertMark, hd]
  | cons e run ih =>
    simp only [List.cons_append, insertMark]
    split
    · rfl
    · rw [ih, List.cons_append]

theorem canonicalOrder_append {d : Char} (hd : combiningClass d = 0) (run rest : List Char) :
    canonicalOrder (run ++ d :: rest) = canonicalOrder run ++ d :: canonicalOrder rest := by
  unfold canonicalOrder
  induction run with
  | nil => simp [insertMark_of_class_zero hd]
  | cons e run ih =>
    simp only [List.cons_append, List.foldr_cons, ih]
    exact insertMark_append hd _ _

end Concordance.Text
