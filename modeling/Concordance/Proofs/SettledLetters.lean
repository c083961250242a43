import Concordance.Proofs.BlankBoundary
import Concordance.Proofs.EncodedText

/-!
# What is left of a text is left of it again

The parts of a character have no parts themselves. The small letter of a capital
that has no parts has none either, and is its own small letter. So the letters of
a clean word are settled: cleaned once more, each of them is left as it is.

The word as a whole need not be. What stood between two of its accents may have
been deleted, and now they are put in order. That is all that happens to it
(`clean_of_settled`).

Whether letters are settled is read off the tables, row by row.
-/

namespace Concordance

namespace Text

open Stem (Spelled)

/-- A letter that cleaning leaves as it is. -/
structure Settled (c : Char) : Prop where
  decomposed : decompose c = [c]
  small : lowerChar c = [c]
  letter : isLetter c = true
  ne_sigma : c ≠ 'Σ'

instance (c : Char) : Decidable (Settled c) :=
  decidable_of_iff (decompose c = [c] ∧ lowerChar c = [c] ∧
    isLetter c = true ∧ c ≠ 'Σ')
    ⟨fun ⟨hparts, hsmall, hletter, hne⟩ => ⟨hparts, hsmall, hletter, hne⟩,
      fun h => ⟨h.decomposed, h.small, h.letter, h.ne_sigma⟩⟩

variable {c d : Char} {cs w : List Char}

/-! ## Parts -/

theorem decompose_jamo {code : Nat} (hlow : 0x1100 ≤ code)
    (hhigh : code < 0x1200) :
    decompose (Char.ofNat code) = [Char.ofNat code] := by
  have hgap : ∀ row ∈ decompositionRows, row.1 < 0x1100 ∨ 0x1200 ≤ row.1 := by
    decide +kernel
  have hcode : (Char.ofNat code).toNat = code :=
    Utf8.toNat_ofNat (.inl (by omega))
  rcases decompose_cases (Char.ofNat code) with hself | ⟨hhangul, -, -⟩ |
    ⟨row, hrow, hrowcode, -⟩
  · exact hself
  · omega
  · have := hgap row hrow
    omega

theorem decompose_of_row : ∀ row ∈ decompositionRows, ∀ part ∈ row.2,
    decompose (Char.ofNat part) = [Char.ofNat part] := by
  decide +kernel

/-- The parts of a character have no parts. -/
theorem decompose_of_mem_decompose (h : d ∈ decompose c) :
    decompose d = [d] := by
  rcases decompose_cases c with hself | ⟨hlow, hhigh, hparts⟩ |
    ⟨row, hrow, -, hparts⟩
  · rw [hself, List.mem_singleton] at h
    rw [h, hself]
  · rw [hparts] at h
    obtain ⟨code, hmem, rfl⟩ := List.mem_map.mp h
    obtain ⟨hfirst, hlast⟩ := jamo_of_mem_decomposeHangul hlow hhigh hmem
    exact decompose_jamo hfirst hlast
  · rw [hparts] at h
    obtain ⟨part, hpart, rfl⟩ := List.mem_map.mp h
    exact decompose_of_row row hrow part hpart

/-! ## Small letters -/

theorem settled_toLower : ∀ code < 0x80, isLetter (Char.ofNat code) = true →
    Settled (Char.ofNat code).toLower := by
  decide +kernel

/-- A capital of a row has parts, or its small letter is settled. The second is
tried first, for it is so most of the time. -/
theorem settled_of_row : ∀ row ∈ lowerCaseRows, ∀ k < row.2.1 + 1 - row.1,
    k % row.2.2.1 = 0 →
      Settled (Char.ofNat ((row.1 + k : Nat) + row.2.2.2).toNat) ∨
        decompose (Char.ofNat (row.1 + k)) ≠ [Char.ofNat (row.1 + k)] := by
  decide +kernel

/-- Small letters are settled, if their capitals have no parts. -/
theorem settled_of_mem_lowerChar (hparts : decompose c = [c])
    (hletter : isLetter c = true) (hsigma : c ≠ 'Σ') (h : d ∈ lowerChar c) :
    Settled d := by
  rcases lowerChar_cases c with hself | ⟨hcode, hlower⟩ | ⟨hcode, -⟩ |
    ⟨row, hrow, hfirst, hlast, hstep, hlower⟩
  · rw [hself, List.mem_singleton] at h
    rw [h]
    exact ⟨hparts, hself, hletter, hsigma⟩
  · rw [hlower, List.mem_singleton] at h
    have hsettled := settled_toLower c.toNat hcode
    rw [Char.ofNat_toNat] at hsettled
    rw [h]
    exact hsettled hletter
  · -- The dotted capital I has parts.
    have hdotted : decompose (Char.ofNat 0x130) ≠ [Char.ofNat 0x130] := by
      decide +kernel
    rw [← hcode, Char.ofNat_toNat] at hdotted
    exact absurd hparts hdotted
  · rw [hlower, List.mem_singleton] at h
    have hsettled := settled_of_row row hrow (c.toNat - row.1) (by omega) hstep
    rw [Nat.add_sub_cancel' hfirst, Char.ofNat_toNat, ← h] at hsettled
    exact hsettled.resolve_right (not_not_intro hparts)

/-! ## Clean words -/

/-- A small letter is that of a letter, or one of the two small sigmas. -/
theorem mem_lowerAfter : ∀ {before : List Char}, d ∈ lowerAfter before cs →
    ∃ c ∈ cs, if c = 'Σ' then d = 'ς' ∨ d = 'σ' else d ∈ lowerChar c := by
  induction cs with
  | nil => exact fun h => by cases h
  | cons c cs ih =>
      intro before h
      rw [lowerAfter] at h
      rcases List.mem_append.mp h with hhead | htail
      · refine ⟨c, List.mem_cons_self, ?_⟩
        split at hhead
        · next hsigma =>
            rw [if_pos hsigma]
            split at hhead
            · exact .inl (List.mem_singleton.mp hhead)
            · exact .inr (List.mem_singleton.mp hhead)
        · next hsigma => rwa [if_neg hsigma]
      · obtain ⟨e, he, hd⟩ := ih htail
        exact ⟨e, List.mem_cons_of_mem _ he, hd⟩

theorem settled_of_mem_clean (h : d ∈ clean cs) (hsolid : isBlank d = false) :
    Settled d := by
  obtain ⟨c, hc, hd⟩ := mem_lowerAfter h
  obtain ⟨hmem, hkept⟩ := List.mem_filter.mp hc
  have hparts : decompose c = [c] := by
    have hpart := (perm_canonicalOrder _).mem_iff.mp hmem
    obtain ⟨_, -, hpart⟩ := List.mem_flatMap.mp hpart
    exact decompose_of_mem_decompose hpart
  split at hd
  · have hsigmas : Settled 'ς' ∧ Settled 'σ' := by decide +kernel
    rcases hd with rfl | rfl
    · exact hsigmas.1
    · exact hsigmas.2
  · next hsigma =>
      rcases (Bool.or_eq_true _ _).mp hkept with hletter | hblank
      · exact settled_of_mem_lowerChar hparts hletter hsigma hd
      · rw [(apart_of_blank hblank).lower, List.mem_singleton] at hd
        rw [hd, hblank] at hsolid
        cases hsolid

/-- The letters of what is left of a text are settled. -/
theorem settled_of_mem_words (h : w ∈ words (clean cs)) :
    Spelled Settled w := fun c hc =>
  settled_of_mem_clean (subset_of_mem_words h hc)
    ((isWord_of_mem_words h).solid c hc)

theorem lowerAfter_of_settled (h : Spelled Settled cs) :
    ∀ before : List Char, lowerAfter before cs = cs := by
  induction cs with
  | nil => exact fun before => rfl
  | cons c cs ih =>
      intro before
      have hc := h c List.mem_cons_self
      rw [lowerAfter, if_neg hc.ne_sigma, hc.small,
        ih (h.subset (List.subset_cons_self ..))]
      rfl

/-- Of settled letters all are left, with accents put in order. -/
theorem clean_of_settled (h : Spelled Settled cs) :
    clean cs = canonicalOrder cs := by
  have hparts : cs.flatMap decompose = cs := by
    induction cs with
    | nil => rfl
    | cons c cs ih =>
        rw [List.flatMap_cons, (h c List.mem_cons_self).decomposed,
          ih (h.subset (List.subset_cons_self ..))]
        rfl
  have hordered : Spelled Settled (canonicalOrder cs) :=
    h.subset (perm_canonicalOrder cs).subset
  have hkept : (canonicalOrder cs).filter (fun c => isLetter c || isBlank c) =
      canonicalOrder cs := by
    apply List.filter_eq_self.mpr
    intro c hc
    rw [(hordered c hc).letter]
    rfl
  rw [clean, canonical, hparts, hkept]
  exact lowerAfter_of_settled hordered []

/-- A word of settled letters is left as one word. -/
theorem words_clean_of_settled (hword : IsWord w) (h : Spelled Settled w) :
    words (clean w) = [canonicalOrder w] := by
  rw [clean_of_settled h]
  apply words_of_isWord
  constructor
  · intro hnil
    have hperm := perm_canonicalOrder w
    rw [hnil] at hperm
    exact hword.ne_nil hperm.nil_eq.symm
  · exact hword.solid.subset (perm_canonicalOrder w).subset

end Text

/-- The letters of terms are settled. -/
theorem settled_of_mem_terms {text : String} {term : Term}
    (h : term ∈ terms text) : Stem.Spelled Text.Settled term.toList := by
  obtain ⟨stemmed, hmem, rfl⟩ := List.mem_map.mp h
  obtain ⟨word, hword, rfl⟩ := List.mem_map.mp hmem
  have hsmall : ∀ c ∈ Stem.smallLetters, Text.Settled c := by decide +kernel
  have hmade : Stem.Made Text.Settled word :=
    ⟨(Text.isWord_of_mem_words hword).ne_nil, Text.settled_of_mem_words hword⟩
  rw [String.toList_ofList]
  exact (Stem.made_stem hsmall hmade).spelled

end Concordance
