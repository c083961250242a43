import Mathlib.Data.String.Basic
import Concordance.Text.Utf8

/-!
# Texts in the order of their bytes

Texts are compared character by character, while what is stored and searched
in the end are bytes. For UTF-8 the two come to the same: of two different
characters the one with the smaller code has the encoding that is smaller at
the first byte at which they differ, and they do differ before either is at
its end. So texts are in the order of their encodings (`compare_encode`), and
one text begins with another if its encoding does (`encode_prefix_iff`).
-/

namespace Concordance.Text.Utf8

open Std (TransCmp OrientedCmp ReflCmp)

/-! ## Two characters -/

/-- Of two byte sequences the first byte decides, unless it is the same. -/
theorem compare_cons_eq_lt {m n : Nat} (hm : m < 256) (hn : n < 256)
    (xs ys : List UInt8) :
    compare (m.toUInt8 :: xs) (n.toUInt8 :: ys) = .lt ↔
      m < n ∨ m = n ∧ compare xs ys = .lt := by
  have hbyte : ∀ {k : Nat}, k < 256 → k.toUInt8.toNat = k :=
    fun hk => UInt8.toNat_ofNat_of_lt' hk
  rw [List.compare_cons_cons, Ordering.then_eq_lt,
    UInt8.compare_eq_toNat_compare_toNat, hbyte hm, hbyte hn,
    Nat.compare_eq_lt, Nat.compare_eq_eq]

/-- The encodings of two characters differ before either ends, and there the
smaller character has the smaller byte. -/
theorem compare_encodeChar {c d : Char} (h : c < d) (xs ys : List UInt8) :
    compare (encodeChar c ++ xs) (encodeChar d ++ ys) = .lt := by
  have hlt : c.toNat < d.toNat := h
  have hd : d.toNat < 0x110000 := by
    rcases d.valid with hlow | hhigh
    · exact Nat.lt_trans hlow (by decide)
    · exact hhigh.2
  unfold encodeChar
  generalize c.toNat = n at hlt
  generalize d.toNat = m at hlt hd
  dsimp only
  -- By the numbers of bytes. More bytes begin with a larger one, and as many
  -- bytes are the digits of the code, from the highest on.
  split_ifs
  all_goals
    simp (disch := omega) only [List.cons_append, List.nil_append,
      compare_cons_eq_lt]
    omega

theorem compare_append_left (bytes xs ys : List UInt8) :
    compare (bytes ++ xs) (bytes ++ ys) = compare xs ys := by
  induction bytes with
  | nil => rfl
  | cons byte bytes ih =>
      have hself : compare byte byte = .eq := ReflCmp.compare_self
      rw [List.cons_append, List.cons_append, List.compare_cons_cons, hself, ih]
      rfl

theorem encodeChar_ne_nil (c : Char) : encodeChar c ≠ [] := by
  unfold encodeChar
  dsimp only
  split_ifs <;> exact List.cons_ne_nil _ _

/-! ## Two texts -/

theorem encode_cons (c : Char) (cs : List Char) :
    encode (c :: cs) = encodeChar c ++ encode cs :=
  List.flatMap_cons

theorem encode_append (cs ds : List Char) :
    encode (cs ++ ds) = encode cs ++ encode ds :=
  List.flatMap_append

theorem compare_encode_of_lt {cs ds : List Char} (h : cs < ds) :
    compare (encode cs) (encode ds) = .lt := by
  induction h with
  | @nil d ds =>
      obtain ⟨byte, bytes, hd⟩ := List.exists_cons_of_ne_nil
        (encodeChar_ne_nil d)
      rw [encode_cons, hd]
      rfl
  | @cons c cs ds _ ih =>
      rw [encode_cons, encode_cons, compare_append_left]
      exact ih
  | @rel c cs d ds hlt =>
      rw [encode_cons, encode_cons]
      exact compare_encodeChar hlt _ _

/-- Two texts are in the order of their encodings. -/
theorem compare_encode (s t : String) :
    compare s t = compare (encode s.toList) (encode t.toList) := by
  rcases lt_trichotomy s t with hlt | rfl | hgt
  · rw [compare_lt_iff_lt.mpr hlt,
      compare_encode_of_lt (String.lt_iff_toList_lt.mp hlt)]
  · exact ReflCmp.compare_self.trans ReflCmp.compare_self.symm
  · rw [compare_gt_iff_gt.mpr hgt, OrientedCmp.gt_iff_lt.mpr
      (compare_encode_of_lt (String.lt_iff_toList_lt.mp hgt))]

/-- A text begins with the characters of another where its encoding begins with
the bytes of the other's. -/
theorem encode_prefix_iff {cs ds : List Char} :
    encode cs <+: encode ds ↔ cs <+: ds := by
  constructor
  · induction cs generalizing ds with
    | nil => exact fun _ => List.nil_prefix
    | cons c cs ih =>
        rintro ⟨rest, hrest⟩
        rw [encode_cons, List.append_assoc] at hrest
        cases ds with
        | nil =>
            have hnil := (List.append_eq_nil_iff.mp hrest).1
            exact absurd hnil (encodeChar_ne_nil c)
        | cons d ds =>
            rw [encode_cons] at hrest
            have hsame : compare (encodeChar c ++ (encode cs ++ rest))
                (encodeChar d ++ encode ds) = .eq := by
              rw [hrest]
              exact ReflCmp.compare_self
            rcases lt_trichotomy c d with hlt | rfl | hgt
            · rw [compare_encodeChar hlt] at hsame
              cases hsame
            · have htail := List.append_cancel_left hrest
              exact (List.prefix_cons_inj c).mpr (ih ⟨rest, htail⟩)
            · rw [OrientedCmp.gt_iff_lt.mpr (compare_encodeChar hgt _ _)]
                at hsame
              cases hsame
  · rintro ⟨rest, rfl⟩
    exact ⟨encode rest, (encode_append cs rest).symm⟩

end Concordance.Text.Utf8
