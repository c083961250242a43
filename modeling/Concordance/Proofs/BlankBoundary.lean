import Mathlib.Data.List.Basic
import Concordance.Proofs.StemWords

/-!
# Nothing is read across a blank

What cleaning makes of a character can depend on its neighbours. An accent moves
in front of another one, what is no letter goes and lets its neighbours join,
and a capital sigma becomes small in one of two ways by what stands around it.
None of this reaches across a blank. A blank decomposes into one blank, over
which no accent moves; it is kept; and it is neither cased nor looked through.

So a text is cleaned apart on the two sides of a blank (`clean_append_blank`),
and its terms are those of the two sides. Cutting a text before it is cleaned
and again after makes no difference then (`words_clean`).
-/

namespace Concordance

namespace Text

/-! ## Blanks -/

/-- The codes of the blanks. -/
def blankCodes : List Nat :=
  [0x09, 0x0A, 0x0B, 0x0C, 0x0D, 0x20, 0x85, 0xA0, 0x1680, 0x2000, 0x2001,
    0x2002, 0x2003, 0x2004, 0x2005, 0x2006, 0x2007, 0x2008, 0x2009, 0x200A,
    0x2028, 0x2029, 0x202F, 0x205F, 0x3000]

theorem toNat_mem_blankCodes {c : Char} (h : isBlank c = true) :
    c.toNat ∈ blankCodes := by
  simp only [isBlank, Bool.or_eq_true, Bool.and_eq_true, beq_iff_eq,
    decide_eq_true_eq] at h
  simp only [blankCodes, List.mem_cons, List.not_mem_nil, or_false]
  omega

/-- A character that is read by itself: no accent moves over it, a sigma does not
see through it, and it is one blank in whatever form. -/
structure Apart (c : Char) : Prop where
  starter : combiningClass c = 0
  seen : isCaseIgnorable c = false
  caseless : isCased c = false
  lower : lowerChar c = [c]
  ne_sigma : c ≠ 'Σ'
  decomposed : ∃ d, decompose c = [d] ∧ isBlank d = true

variable {c d : Char}

theorem apart_of_blank (h : isBlank c = true) : Apart c := by
  have hall : ∀ code ∈ blankCodes,
      combiningClass (Char.ofNat code) = 0 ∧
        isCaseIgnorable (Char.ofNat code) = false ∧
        isCased (Char.ofNat code) = false ∧
        lowerChar (Char.ofNat code) = [Char.ofNat code] ∧
        Char.ofNat code ≠ 'Σ' ∧
        (decompose (Char.ofNat code)).length = 1 ∧
        (decompose (Char.ofNat code)).all isBlank = true := by decide +kernel
  have hc := hall c.toNat (toNat_mem_blankCodes h)
  rw [Char.ofNat_toNat] at hc
  obtain ⟨hclass, hseen, hcased, hlower, hsigma, hlength, hblank⟩ := hc
  obtain ⟨d, hd⟩ := List.length_eq_one_iff.mp hlength
  rw [hd, List.all_cons, List.all_nil, Bool.and_true] at hblank
  exact ⟨hclass, hseen, hcased, hlower, hsigma, d, hd, hblank⟩

/-! ## Cleaning -/

theorem canonical_append_blank (hd : decompose c = [d])
    (h : isBlank d = true) (xs ys : List Char) :
    canonical (xs ++ c :: ys) = canonical xs ++ d :: canonical ys := by
  rw [canonical, List.flatMap_append, List.flatMap_cons, hd,
    List.singleton_append, canonicalOrder_append (apart_of_blank h).starter]
  rfl

theorem casedAhead_append_blank (h : isBlank c = true) (xs ys : List Char) :
    casedAhead (xs ++ c :: ys) = casedAhead xs := by
  have hseen := (apart_of_blank h).seen
  unfold casedAhead
  rw [List.dropWhile_append, List.dropWhile_cons_of_neg (by simp [hseen])]
  cases xs.dropWhile isCaseIgnorable with
  | nil => exact (apart_of_blank h).caseless
  | cons x rest => rfl

/-- A sigma behind a blank does not see what is in front of the blank. -/
theorem lowerAfter_behind_blank (h : isBlank c = true)
    (before ys : List Char) : ∀ line : List Char,
    lowerAfter (line ++ c :: before) ys = lowerAfter line ys := by
  induction ys with
  | nil => exact fun line => rfl
  | cons y ys ih =>
      intro line
      rw [lowerAfter, lowerAfter, casedAhead_append_blank h]
      exact congrArg _ (ih (y :: line))

theorem lowerAfter_append_blank (h : isBlank c = true) (xs ys : List Char) :
    ∀ before : List Char, lowerAfter before (xs ++ c :: ys) =
      lowerAfter before xs ++ c :: lower ys := by
  induction xs with
  | nil =>
      intro before
      have hblank : lowerAfter before (c :: ys) =
          c :: lowerAfter (c :: before) ys := by
        rw [lowerAfter, if_neg (apart_of_blank h).ne_sigma,
          (apart_of_blank h).lower]
        rfl
      exact hblank.trans
        (congrArg (c :: ·) (lowerAfter_behind_blank h before ys []))
  | cons x xs ih =>
      intro before
      rw [List.cons_append, lowerAfter, lowerAfter, casedAhead_append_blank h,
        ih, List.append_assoc]

/-- The sides of a blank are cleaned apart. -/
theorem clean_append_blank (hd : decompose c = [d]) (h : isBlank d = true)
    (xs ys : List Char) : clean (xs ++ c :: ys) = clean xs ++ d :: clean ys := by
  have hkept : (isLetter d || isBlank d) = true := by rw [h, Bool.or_true]
  rw [clean, canonical_append_blank hd h, List.filter_append, List.filter_cons,
    if_pos hkept]
  exact lowerAfter_append_blank h _ _ []

/-! ## Words -/

theorem words_clean_append_blank (h : isBlank c = true) (xs ys : List Char) :
    words (clean (xs ++ c :: ys)) = words (clean xs) ++ words (clean ys) := by
  obtain ⟨d, hd, hblank⟩ := (apart_of_blank h).decomposed
  rw [clean_append_blank hd hblank, words_append_blank hblank]

/-- What holds of texts without a blank, and of a text if it holds on the sides of
a blank in it, holds of every text. -/
theorem induction_blank {P : List Char → Prop}
    (solid : ∀ cs, Solid cs → P cs)
    (blank : ∀ xs c ys, isBlank c = true → P xs → P ys → P (xs ++ c :: ys))
    (cs : List Char) : P cs := by
  induction hlength : cs.length using Nat.strongRecOn
    generalizing cs with
  | _ length ih =>
      by_cases hsolid : Solid cs
      · exact solid cs hsolid
      · obtain ⟨c, hmem, hblank⟩ : ∃ c ∈ cs, isBlank c = true := by
          by_contra hnone
          exact hsolid fun c hc =>
            Bool.eq_false_iff.mpr fun hblank => hnone ⟨c, hc, hblank⟩
        obtain ⟨xs, ys, rfl⟩ := List.append_of_mem hmem
        rw [List.length_append, List.length_cons] at hlength
        exact blank xs c ys hblank (ih xs.length (by omega) xs rfl)
          (ih ys.length (by omega) ys rfl)

/-- A text without a blank is one word or none. -/
theorem words_of_solid {cs : List Char} (h : Solid cs) :
    words cs = if cs = [] then [] else [cs] := by
  split
  · next hnil => rw [hnil]; rfl
  · next hne => exact words_of_isWord ⟨hne, h⟩

/-- A text may be cut into words before it is cleaned. -/
theorem words_clean (cs : List Char) :
    words (clean cs) = (words cs).flatMap fun w => words (clean w) := by
  induction cs using induction_blank with
  | solid cs hsolid =>
      rw [words_of_solid hsolid]
      split
      · next hnil => rw [hnil]; rfl
      · rw [List.flatMap_singleton]
  | blank xs c ys hblank hxs hys =>
      rw [words_clean_append_blank hblank, words_append_blank hblank,
        List.flatMap_append, hxs, hys]

/-- The characters of the words of a text stand in the text. -/
theorem subset_of_mem_words {cs w : List Char} (h : w ∈ words cs) :
    w ⊆ cs := by
  induction cs using induction_blank with
  | solid cs hsolid =>
      rw [words_of_solid hsolid] at h
      split at h
      · cases h
      · rw [List.mem_singleton.mp h]
        exact List.Subset.refl cs
  | blank xs c ys hblank hxs hys =>
      rw [words_append_blank hblank] at h
      rcases List.mem_append.mp h with hmem | hmem
      · exact List.subset_append_of_subset_left _ (hxs hmem)
      · exact List.subset_append_of_subset_right _
          (List.subset_cons_of_subset c (hys hmem))

end Text

/-- The stems on the sides of a blank, one after the other. -/
theorem stems_append_blank {c : Char} (h : Text.isBlank c = true)
    (xs ys : List Char) : stems (xs ++ c :: ys) = stems xs ++ stems ys := by
  rw [stems, Text.words_clean_append_blank h, List.map_append]
  rfl

end Concordance
