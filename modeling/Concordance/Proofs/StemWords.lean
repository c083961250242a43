import Mathlib.Data.List.Basic
import Concordance.Term

/-!
# Words and their stems

A word is not empty and has no blank in it. What a text is cut into are words,
and a word is cut into itself. Stems are words again, which is less plain:
every step of stemming takes letters away, and some put nothing in their place.
But a step that takes a suffix and puts nothing there asks for a region that
begins behind the first letter, or for a vowel, in front of it. So something is
left each time.
-/

namespace Concordance

namespace Text

/-- Without blanks. -/
def Solid (cs : List Char) : Prop := ∀ c ∈ cs, isBlank c = false

instance (cs : List Char) : Decidable (Solid cs) :=
  inferInstanceAs (Decidable (∀ c ∈ cs, _))

structure IsWord (cs : List Char) : Prop where
  ne_nil : cs ≠ []
  solid : Solid cs

theorem Solid.subset {xs ys : List Char} (h : Solid ys) (hsub : xs ⊆ ys) :
    Solid xs :=
  fun c hc => h c (hsub hc)

/-! ## Cutting a text -/

theorem isWord_of_mem_frontWord (cs : List Char) :
    Solid (frontWord cs).1 ∧ ∀ w ∈ (frontWord cs).2, IsWord w := by
  induction cs with
  | nil => exact ⟨by decide, by simp [frontWord]⟩
  | cons c cs ih =>
      obtain ⟨hfront, hrest⟩ := ih
      show Solid (consChar c (frontWord cs)).1 ∧
        ∀ w ∈ (consChar c (frontWord cs)).2, IsWord w
      generalize frontWord cs = front at hfront hrest
      obtain ⟨w, ws⟩ := front
      by_cases hc : isBlank c = true
      · rw [consChar, if_pos hc]
        refine ⟨fun _ hd => (by cases hd), ?_⟩
        intro v hv
        dsimp only at hv
        split at hv
        · exact hrest v hv
        · next hne =>
            rcases List.mem_cons.mp hv with rfl | hv
            · exact ⟨by simpa using hne, hfront⟩
            · exact hrest v hv
      · rw [consChar, if_neg hc]
        refine ⟨?_, hrest⟩
        intro d hd
        rcases List.mem_cons.mp hd with rfl | hd
        · exact Bool.eq_false_iff.mpr hc
        · exact hfront d hd

/-- What a text is cut into are words. -/
theorem isWord_of_mem_words {cs w : List Char} (h : w ∈ words cs) :
    IsWord w := by
  obtain ⟨hfront, hrest⟩ := isWord_of_mem_frontWord cs
  unfold words at h
  generalize frontWord cs = front at h hfront hrest
  obtain ⟨v, vs⟩ := front
  dsimp only at h
  split at h
  · exact hrest w h
  · next hne =>
      rcases List.mem_cons.mp h with rfl | h
      · exact ⟨by simpa using hne, hfront⟩
      · exact hrest w h

theorem frontWord_of_solid {cs : List Char} (h : Solid cs) :
    frontWord cs = (cs, []) := by
  induction cs with
  | nil => rfl
  | cons c cs ih =>
      have hc := h c (List.mem_cons_self ..)
      have hcs := ih (h.subset (List.subset_cons_self ..))
      show consChar c (frontWord cs) = _
      rw [hcs, consChar, hc, if_neg Bool.false_ne_true]

/-- A word is cut into itself. -/
theorem words_of_isWord {w : List Char} (h : IsWord w) : words w = [w] := by
  rw [words, frontWord_of_solid h.solid]
  simp [h.ne_nil]

/-- A text of blanks has no words. -/
theorem words_of_blank {cs : List Char} (h : ∀ c ∈ cs, isBlank c = true) :
    words cs = [] := by
  have hfront : frontWord cs = ([], []) := by
    induction cs with
    | nil => rfl
    | cons c cs ih =>
        have hc := h c (List.mem_cons_self ..)
        have hcs := ih fun d hd => h d (List.mem_cons_of_mem _ hd)
        show consChar c (frontWord cs) = _
        rw [hcs, consChar, hc, if_pos rfl]
        rfl
  rw [words, hfront]
  rfl

end Text

namespace Stem

open Text (Solid IsWord isBlank)

/-! ## What stems are made of

A stem is made of letters of its word and of small letters that stand in place of
a suffix. So what all letters of a word have in common, the letters of its stem
have in common too, if only small letters have it. -/

/-- Of characters that have a property. -/
def Spelled (P : Char → Prop) (cs : List Char) : Prop := ∀ c ∈ cs, P c

/-- Not empty, and of characters that have a property. -/
structure Made (P : Char → Prop) (cs : List Char) : Prop where
  ne_nil : cs ≠ []
  spelled : Spelled P cs

/-- The letters that stand in place of a suffix are among these. -/
def smallLetters : List Char := "abcdefghijklmnopqrstuvwxyz".toList

variable {P : Char → Prop} {word stem : List Char}

theorem Spelled.subset {xs ys : List Char} (h : Spelled P ys)
    (hsub : xs ⊆ ys) : Spelled P xs :=
  fun c hc => h c (hsub hc)

theorem Spelled.append {xs ys : List Char} (hxs : Spelled P xs)
    (hys : Spelled P ys) : Spelled P (xs ++ ys) := by
  intro c hc
  rcases List.mem_append.mp hc with h | h
  · exact hxs c h
  · exact hys c h

theorem Spelled.cons {c : Char} {cs : List Char} (hc : P c)
    (hcs : Spelled P cs) : Spelled P (c :: cs) := by
  intro d hd
  rcases List.mem_cons.mp hd with rfl | hd
  · exact hc
  · exact hcs d hd

/-- A word comes of adding letters behind what is left of one. -/
theorem Spelled.made_append {xs ys : List Char} (hxs : Spelled P xs)
    (hys : Made P ys) : Made P (xs ++ ys) :=
  ⟨List.append_ne_nil_of_right_ne_nil _ hys.ne_nil, hxs.append hys.spelled⟩

theorem eq_of_stripSuffix? {suffix : String}
    (h : stripSuffix? suffix word = some stem) :
    word = stem ++ suffix.toList := by
  unfold stripSuffix? at h
  split at h
  · next hsuffix =>
      cases h
      obtain ⟨front, rfl⟩ := List.isSuffixOf_iff_suffix.mp hsuffix
      rw [List.length_append, Nat.add_sub_cancel, List.take_left]
  · cases h

theorem spelled_of_stripSuffix? {suffix : String} (hword : Spelled P word)
    (h : stripSuffix? suffix word = some stem) : Spelled P stem := by
  rw [eq_of_stripSuffix? h] at hword
  exact hword.subset (List.subset_append_left ..)

theorem ne_nil_of_any {p : Char → Bool} {cs : List Char}
    (h : cs.any p = true) : cs ≠ [] := by
  rintro rfl
  cases h

/-! ## Regions -/

theorem length_behindVowelConsonant (cs : List Char) :
    (behindVowelConsonant cs).length ≤ cs.length - 1 := by
  have hfirst := (List.dropWhile_sublist (!isVowel ·) (l := cs)).length_le
  have hsecond := (List.dropWhile_sublist isVowel
    (l := cs.dropWhile (!isVowel ·))).length_le
  rw [behindVowelConsonant, List.length_drop]
  omega

theorem length_firstRegion (cs : List Char) :
    (firstRegion cs).length ≤ cs.length - 1 := by
  unfold firstRegion
  split
  · next beginning hfind =>
      have hlong : ∀ short ∈ shortBeginnings, 1 ≤ short.length := by decide
      have hone := hlong beginning (List.mem_of_find?_eq_some hfind)
      rw [List.length_drop]
      omega
  · exact length_behindVowelConsonant cs

/-- Both regions begin behind the first letter. -/
structure Regions.Inner (regions : Regions) : Prop where
  first : 1 ≤ regions.first
  second : 1 ≤ regions.second

theorem inner_ofWord {cs : List Char} (h : cs ≠ []) :
    (Regions.ofWord cs).Inner := by
  have hlength : 1 ≤ cs.length := List.length_pos_iff.mpr h
  have hfirst := length_firstRegion cs
  have hsecond := length_behindVowelConsonant (firstRegion cs)
  constructor
  · show 1 ≤ cs.length - (firstRegion cs).length
    omega
  · show 1 ≤ cs.length - (behindVowelConsonant (firstRegion cs)).length
    omega

/-- In front of a suffix that may be cut off there is something. -/
theorem ne_nil_of_holds {regions : Regions} {guard : Guard}
    (hinner : regions.Inner) (h : guard.holds regions stem = true) :
    stem ≠ [] := by
  have hfirst := hinner.first
  have hsecond := hinner.second
  rintro rfl
  cases guard with
  | first =>
      have hle : regions.first ≤ 0 := of_decide_eq_true h
      omega
  | second =>
      have hle : regions.second ≤ 0 := of_decide_eq_true h
      omega
  | firstAfter letters =>
      have hle : regions.first ≤ 0 :=
        of_decide_eq_true ((Bool.and_eq_true _ _).mp h).1
      omega
  | secondAfter letters =>
      have hle : regions.second ≤ 0 :=
        of_decide_eq_true ((Bool.and_eq_true _ _).mp h).1
      omega

/-! ## The steps of stemming -/

section

variable (hsmall : Spelled P smallLetters)
include hsmall

theorem made_ending {ending : List Char} (hne : ending ≠ [])
    (h : ∀ c ∈ ending, c ∈ smallLetters) : Made P ending :=
  ⟨hne, hsmall.subset h⟩

theorem made_dropPlural (h : Made P word) : Made P (dropPlural word) := by
  have hi : Made P ['i'] := made_ending hsmall (by simp) (by decide)
  have hie : Made P ['i', 'e'] := made_ending hsmall (by simp) (by decide)
  have hss : Made P ['s', 's'] := made_ending hsmall (by simp) (by decide)
  unfold dropPlural
  split
  · next hstem =>
      exact (spelled_of_stripSuffix? h.spelled hstem).made_append hss
  · split
    · next stem hstem =>
        have hspelled : Spelled P stem := by
          cases hied : stripSuffix? "ied" word with
          | some front =>
              rw [hied] at hstem
              cases hstem
              exact spelled_of_stripSuffix? h.spelled hied
          | none =>
              rw [hied] at hstem
              exact spelled_of_stripSuffix? h.spelled hstem
        split
        · exact hspelled.made_append hi
        · exact hspelled.made_append hie
    · split
      · exact h
      · split
        · next stem hstem =>
            split
            · next hvowel =>
                refine ⟨?_, spelled_of_stripSuffix? h.spelled hstem⟩
                rintro rfl
                cases hvowel
            · exact h
        · exact h

theorem made_repairEnd {regions : Regions} (h : Made P stem) :
    Made P (repairEnd regions stem) := by
  have he : Made P ['e'] := made_ending hsmall (by simp) (by decide)
  unfold repairEnd
  dsimp only
  split
  · exact h.spelled.made_append he
  · split
    · next hdouble =>
        refine ⟨?_, h.spelled.subset (List.dropLast_subset _)⟩
        intro hnil
        -- Two letters at the end are more than one.
        have hlength : stem.length ≤ 1 := by
          have := congrArg List.length hnil
          rw [List.length_dropLast, List.length_nil] at this
          omega
        obtain ⟨suffix, hmem, hsuffix⟩ := List.any_eq_true.mp hdouble
        have hle := (List.isSuffixOf_iff_suffix.mp hsuffix).length_le
        have htwo : ∀ double ∈ ["bb", "dd", "ff", "gg", "mm", "nn", "pp", "rr",
            "tt"], 2 ≤ double.toList.length := by decide
        have hlong := htwo suffix hmem
        omega
    · split
      · exact h.spelled.made_append he
      · exact h

theorem made_dropParticiple {regions : Regions} (h : Made P word) :
    Made P (dropParticiple regions word) := by
  have hcut : ∀ {suffix : String} {stem : List Char},
      stripSuffix? suffix word = some stem →
      Made P (if stem.any isVowel then repairEnd regions stem else word) := by
    intro suffix stem hstem
    split
    · next hvowel =>
        exact made_repairEnd hsmall
          ⟨ne_nil_of_any hvowel, spelled_of_stripSuffix? h.spelled hstem⟩
    · exact h
  have hagree : ∀ {suffix : String} {stem : List Char},
      stripSuffix? suffix word = some stem →
      Made P (if regions.first ≤ stem.length then stem ++ ['e', 'e']
        else word) := by
    intro suffix stem hstem
    split
    · exact (spelled_of_stripSuffix? h.spelled hstem).made_append
        (made_ending hsmall (by simp) (by decide))
    · exact h
  unfold dropParticiple
  dsimp only
  split
  · next hstem => exact hagree hstem
  · split
    · next hstem => exact hcut hstem
    · split
      · next hstem => exact hcut hstem
      · split
        · next hstem => exact hagree hstem
        · split
          · next hstem => exact hcut hstem
          · split
            · next hstem => exact hcut hstem
            · exact h

theorem made_softenY (h : Made P word) : Made P (softenY word) := by
  unfold softenY
  split
  · next y c b rest hreverse =>
      have hword : word = (y :: c :: b :: rest).reverse := by
        rw [← hreverse, List.reverse_reverse]
      split
      · have hspelled := h.spelled
        rw [hword] at hspelled
        have hi : Spelled P ['i'] := hsmall.subset (by decide)
        have hc : Made P [c, 'i'] :=
          ⟨by simp, .cons (hspelled c (by simp)) hi⟩
        apply Spelled.made_append _ hc
        exact hspelled.subset fun d hd => by
          rw [List.mem_reverse] at hd ⊢
          exact List.mem_cons_of_mem _ (List.mem_cons_of_mem _ hd)
      · exact h
  · exact h

theorem made_applyRules {regions : Regions} (hinner : regions.Inner)
    (h : Made P word) {rules : List SuffixRule}
    (hrules : ∀ rule ∈ rules,
      ∀ c ∈ rule.replacement.toList, c ∈ smallLetters) :
    Made P (applyRules regions word rules) := by
  induction rules with
  | nil => exact h
  | cons rule rules ih =>
      unfold applyRules
      split
      · exact ih fun other hother =>
          hrules other (List.mem_cons_of_mem _ hother)
      · next stem hstem =>
          split
          · next hholds =>
              refine ⟨?_, (spelled_of_stripSuffix? h.spelled hstem).append
                (hsmall.subset (hrules rule (List.mem_cons_self ..)))⟩
              exact List.append_ne_nil_of_left_ne_nil
                (ne_nil_of_holds hinner hholds) _
          · exact h

omit hsmall in
theorem made_dropFinal {regions : Regions} (hinner : regions.Inner)
    (h : Made P word) : Made P (dropFinal regions word) := by
  have hfirst := hinner.first
  have hsecond := hinner.second
  unfold dropFinal
  split
  · next stem hstem =>
      split
      · next hfar =>
          refine ⟨?_, spelled_of_stripSuffix? h.spelled hstem⟩
          rintro rfl
          simp only [List.length_nil, Bool.or_eq_true, Bool.and_eq_true,
            decide_eq_true_eq] at hfar
          omega
      · exact h
  · split
    · next stem hstem =>
        split
        · next hfar =>
            refine ⟨?_, spelled_of_stripSuffix? h.spelled hstem⟩
            rintro rfl
            simp only [List.length_nil, Bool.and_eq_true,
              decide_eq_true_eq] at hfar
            omega
        · exact h
    · exact h

theorem made_dropDerivation {regions : Regions} (hinner : regions.Inner)
    (h : Made P word) : Made P (dropDerivation regions word) := by
  have hderivation : ∀ rule ∈ derivationRules,
      ∀ c ∈ rule.replacement.toList, c ∈ smallLetters := by decide
  have hadjective : ∀ rule ∈ adjectiveRules,
      ∀ c ∈ rule.replacement.toList, c ∈ smallLetters := by decide
  have hnoun : ∀ rule ∈ nounRules,
      ∀ c ∈ rule.replacement.toList, c ∈ smallLetters := by decide
  apply made_dropFinal hinner
  apply made_applyRules hsmall hinner _ hnoun
  apply made_applyRules hsmall hinner _ hadjective
  apply made_applyRules hsmall hinner _ hderivation
  exact made_softenY hsmall (made_dropParticiple hsmall h)

end

/-! ## Letters that act as others

While it is stemmed, a word can hold a `Y` that none of its letters is. -/

theorem spelled_markConsonantY (hY : P 'Y') (word : List Char)
    (h : Spelled P word) : Spelled P (markConsonantY word) := by
  induction word using markConsonantY.induct with
  | case1 => exact h
  | case2 c => exact h
  | case3 c d rest hmark ih =>
      rw [markConsonantY, if_pos hmark]
      refine .cons (h c (by simp)) (.cons hY (ih ?_))
      exact h.subset fun x hx =>
        List.mem_cons_of_mem _ (List.mem_cons_of_mem _ hx)
  | case4 c d rest hmark ih =>
      rw [markConsonantY, if_neg hmark]
      exact .cons (h c (by simp)) (ih (h.subset (List.subset_cons_self ..)))

theorem markConsonantY_ne_nil (h : word ≠ []) : markConsonantY word ≠ [] := by
  induction word using markConsonantY.induct with
  | case1 => exact h
  | case2 c => exact h
  | case3 c d rest hY => rw [markConsonantY, if_pos hY]; simp
  | case4 c d rest hY => rw [markConsonantY, if_neg hY]; simp

theorem made_markY (hY : P 'Y') (h : Made P word) : Made P (markY word) := by
  unfold markY
  split
  · next rest =>
      refine ⟨markConsonantY_ne_nil (by simp), spelled_markConsonantY hY _ ?_⟩
      exact .cons hY (h.spelled.subset (List.subset_cons_self ..))
  · exact ⟨markConsonantY_ne_nil h.ne_nil,
      spelled_markConsonantY hY _ h.spelled⟩

theorem made_unmarkY (hy : P 'y') (h : Made (fun c => P c ∨ c = 'Y') word) :
    Made P (unmarkY word) := by
  refine ⟨fun hnil => h.ne_nil (List.map_eq_nil_iff.mp hnil), ?_⟩
  intro c hc
  obtain ⟨d, hd, rfl⟩ := List.mem_map.mp hc
  split
  · exact hy
  · next hne => exact (h.spelled d hd).resolve_right fun heq => hne (by simp [heq])

/-- The letters of a stem are like those of the word and small ones. -/
theorem made_stem (hsmall : Spelled P smallLetters) (h : Made P word) :
    Made P (Stem.stem word) := by
  unfold Stem.stem
  split
  · next pair hfind =>
      have hlisted : ∀ listed ∈ irregular, listed.2.toList ≠ [] ∧
          ∀ c ∈ listed.2.toList, c ∈ smallLetters := by decide
      obtain ⟨hne, hletters⟩ := hlisted _ (List.mem_of_find?_eq_some hfind)
      exact made_ending hsmall hne hletters
  · split
    · exact h
    · have hmay : Spelled (fun c => P c ∨ c = 'Y') smallLetters :=
        fun c hc => .inl (hsmall c hc)
      have hword : Made (fun c => P c ∨ c = 'Y') word :=
        ⟨h.ne_nil, fun c hc => .inl (h.spelled c hc)⟩
      have hmarked := made_markY (.inr rfl) hword
      have hsingular := made_dropPlural hmay hmarked
      have hy := hsmall 'y' (by decide)
      dsimp only
      split
      · exact made_unmarkY hy hsingular
      · exact made_unmarkY hy (made_dropDerivation hmay
          (inner_ofWord hmarked.ne_nil) hsingular)

/-- The stem of a word is a word. -/
theorem isWord_stem (h : IsWord word) : IsWord (Stem.stem word) := by
  have hsmall : Solid smallLetters := by decide
  have hword : Made (isBlank · = false) word := ⟨h.ne_nil, h.solid⟩
  obtain ⟨hne, hsolid⟩ := made_stem hsmall hword
  exact ⟨hne, hsolid⟩

end Stem

/-- The terms of a text are words. -/
theorem isWord_of_mem_terms {text : String} {term : Term}
    (h : term ∈ terms text) : Text.IsWord term.toList := by
  obtain ⟨stemmed, hmem, rfl⟩ := List.mem_map.mp h
  obtain ⟨word, hword, rfl⟩ := List.mem_map.mp hmem
  rw [String.toList_ofList]
  exact Stem.isWord_stem (Text.isWord_of_mem_words hword)

end Concordance
