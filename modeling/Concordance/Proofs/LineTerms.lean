import Mathlib.Data.List.TakeWhile
import Concordance.Files.Build
import Concordance.Proofs.AnsweredLines
import Concordance.Proofs.BlankBoundary

/-!
# The terms of a file are those of its text

A file is read line by line, and its terms are those of its lines one after the
other. But a line feed is a byte of its own and no part of a character, so lines
are well formed if all of the file is. And it is a blank, so no term is read
across it. Hence the terms of a file are those of its whole text
(`lineTerms?_byteLines`).
-/

namespace Concordance

namespace Text

namespace Utf8

/-! ## Reading -/

/-- A character under way waits for a byte that is not ASCII. -/
def Pending.Waits (p : Pending) : Prop := 0x80 ≤ p.least

theorem waits_of_start {b : UInt8} {p : Pending} (h : start b = .pending p) :
    p.Waits := by
  unfold start at h
  repeat' split at h
  all_goals first
    | (cases h; done)
    | (cases h; unfold Pending.Waits; dsimp only; decide)

theorem waits_of_next {p q : Pending} {b : UInt8} (h : p.next b = .pending q) :
    q.Waits := by
  unfold Pending.next at h
  dsimp only at h
  repeat' split at h
  all_goals first
    | (cases h; done)
    | (cases h; unfold Pending.Waits; dsimp only; decide)

theorem Pending.Waits.next {p : Pending} (h : p.Waits) {b : UInt8}
    (hb : b < 0x80) : p.next b = .invalid := by
  have hleast : ¬p.least ≤ b := fun hle =>
    UInt8.not_le.mpr hb (UInt8.le_trans h hle)
  rw [Pending.next, decide_eq_false hleast]
  rfl

section

variable {b : UInt8} (hb : b < 0x80)
include hb

theorem decodeFrom?_append_ascii (line rest : List UInt8) :
    ∀ underWay : Option Pending, (∀ p, underWay = some p → p.Waits) →
      decodeFrom? underWay (line ++ b :: rest) =
        (decodeFrom? underWay line).bind fun text =>
          (decode? rest).map (text ++ Char.ofNat b.toNat :: ·) := by
  induction line with
  | nil =>
      intro underWay hwaits
      cases underWay with
      | none => exact decode?_ascii hb rest
      | some p =>
          have hnone : decodeFrom? (some p) (b :: rest) = none := by
            rw [decodeFrom?, Option.elim_some, (hwaits p rfl).next hb]
          exact hnone
  | cons a line ih =>
      intro underWay hwaits
      rw [List.cons_append, decodeFrom?, decodeFrom?]
      cases hstart : underWay.elim (start a) (·.next a) with
      | char c =>
          dsimp only
          rw [ih none fun p hp => by cases hp]
          cases decodeFrom? none line with
          | none => rfl
          | some text =>
              dsimp only [Option.bind_some, Option.map_some]
              rw [Option.map_map]
              rfl
      | pending q =>
          refine ih (some q) fun p hp => ?_
          cases hp
          cases underWay with
          | none => exact waits_of_start hstart
          | some p => exact waits_of_next hstart
      | invalid => rfl

/-- What stands on the sides of an ASCII byte is well formed on its own. -/
theorem decode?_append_ascii (line rest : List UInt8) :
    decode? (line ++ b :: rest) = (decode? line).bind fun text =>
      (decode? rest).map (text ++ Char.ofNat b.toNat :: ·) :=
  decodeFrom?_append_ascii hb line rest none fun p hp => by cases hp

end

end Utf8

end Text

/-! ## Lines -/

/-- The terms of the lines of a file are the terms of its text. -/
theorem lineTerms?_byteLines (content : List UInt8) :
    lineTerms? (Text.byteLines content) =
      (Text.Utf8.decode? content).map fun text =>
        (stems text).map String.ofList := by
  induction hlength : content.length using Nat.strong_induction_on
    generalizing content with
  | _ length ih =>
      by_cases hfeed : 0x0A ∈ content
      · obtain ⟨line, rest, rfl, hline⟩ := List.eq_append_cons_of_mem hfeed
        have hrest := ih rest.length
          (by rw [← hlength, List.length_append, List.length_cons]; omega) rest
          rfl
        rw [Text.byteLines_append hline, lineTerms?, hrest,
          Text.Utf8.decode?_append_ascii (by decide)]
        cases Text.Utf8.decode? line with
        | none => rfl
        | some text =>
            dsimp only [Option.bind_some]
            rw [Option.map_map, Option.map_map]
            refine congrArg (Option.map · _) (funext fun behind => ?_)
            rw [Function.comp_apply, Function.comp_apply, stems_append_blank rfl,
              List.map_append]
      · by_cases hne : content = []
        · rw [hne]
          rfl
        · rw [Text.byteLines_of_no_feed hfeed hne, lineTerms?]
          cases Text.Utf8.decode? content with
          | none => rfl
          | some text =>
              show some (_ ++ []) = some _
              rw [List.append_nil]

/-- A file that can be read to its end has the terms of its text, if it is one. -/
theorem Tree.terms?_of_read? {tree : Tree} {path : String}
    {content : List UInt8} (h : tree.read? path = .ok content) :
    tree.terms? path = match Text.Utf8.decode? content with
      | some text => .ok ((stems text).map String.ofList)
      | none => .error .invalidData := by
  unfold read? at h
  split at h
  · cases h
  · cases h
  · next hopen =>
      cases h
      rw [terms?, hopen]
      dsimp only [Reading.lines]
      rw [lineTerms?_byteLines]
      cases Text.Utf8.decode? content <;> rfl

/-! ## How many terms there are

A word more takes a blank more. Blanks are never made of anything else, and a
character is at most one of them. So there are about as many terms as bytes at
most, and no total runs over for a file that there can be. -/

namespace Text

theorem length_of_decodeFrom? {bytes : List UInt8} :
    ∀ {underWay : Option Utf8.Pending} {text : List Char},
      Utf8.decodeFrom? underWay bytes = some text →
        text.length ≤ bytes.length := by
  induction bytes with
  | nil =>
      intro underWay text h
      cases underWay with
      | none =>
          cases h
          exact Nat.le_refl _
      | some p => cases h
  | cons b bytes ih =>
      intro underWay text h
      rw [Utf8.decodeFrom?] at h
      split at h
      · obtain ⟨rest, hrest, rfl⟩ := Option.map_eq_some_iff.mp h
        exact Nat.succ_le_succ (ih hrest)
      · exact Nat.le_succ_of_le (ih h)
      · cases h

/-- The number of blanks in a text. -/
def blanks (cs : List Char) : Nat := cs.countP isBlank

theorem blanks_append (xs ys : List Char) :
    blanks (xs ++ ys) = blanks xs + blanks ys :=
  List.countP_append

theorem length_words_le (cs : List Char) :
    (words cs).length ≤ blanks cs + 1 := by
  have hfront : (frontWord cs).2.length ≤ blanks cs := by
    induction cs with
    | nil => exact Nat.le_refl _
    | cons c cs ih =>
        show (consChar c (frontWord cs)).2.length ≤ _
        rw [consChar, blanks, List.countP_cons]
        by_cases hc : isBlank c = true
        · rw [if_pos hc, if_pos hc]
          dsimp only
          split
          · exact Nat.le_succ_of_le ih
          · exact Nat.succ_le_succ ih
        · rw [if_neg hc, if_neg hc]
          exact ih
  rw [words]
  dsimp only
  split
  · exact Nat.le_succ_of_le hfront
  · exact Nat.succ_le_succ hfront

/-- What is made of the code of no blank is no blank. -/
theorem blanks_ofNat {code : Nat} (h : code ∉ blankCodes) :
    blanks [Char.ofNat code] = 0 := by
  apply List.countP_eq_zero.mpr
  intro c hc hblank
  rw [List.mem_singleton.mp hc] at hblank
  have hmem := toNat_mem_blankCodes hblank
  by_cases hvalid : code.isValidChar
  · rw [Char.ofNat, dif_pos hvalid] at hmem
    exact h hmem
  · rw [Char.ofNat, dif_neg hvalid] at hmem
    exact absurd hmem (by decide)

/-- The runs of small letters have no blanks between them. -/
theorem not_mem_blankCodes_of_row : ∀ row ∈ lowerCaseRows,
    ∀ blank ∈ blankCodes, (blank : Int) < row.1 + row.2.2.2 ∨
      row.2.1 + row.2.2.2 < (blank : Int) := by
  decide +kernel

theorem blanks_lowerChar_le (c : Char) :
    blanks (lowerChar c) ≤ blanks [c] := by
  have hascii : ∀ code < 0x80, blanks [(Char.ofNat code).toLower] ≤
      blanks [Char.ofNat code] := by decide +kernel
  rcases lowerChar_cases c with hself | ⟨hcode, hlower⟩ | ⟨-, hlower⟩ |
    ⟨row, hrow, hfirst, hlast, -, hlower⟩
  · rw [hself]
  · have h := hascii c.toNat hcode
    rwa [Char.ofNat_toNat, ← hlower] at h
  · rw [hlower]
    exact Nat.zero_le _
  · rw [hlower, blanks_ofNat]
    · exact Nat.zero_le _
    · intro hblank
      have hpos : ∀ blank ∈ blankCodes, 0 < blank := by decide
      have hcode := hpos _ hblank
      have happart := not_mem_blankCodes_of_row row hrow _ hblank
      omega

theorem blanks_decompose_le (c : Char) : blanks (decompose c) ≤ 1 := by
  have hrows : ∀ row ∈ decompositionRows,
      blanks (row.2.map Char.ofNat) ≤ 1 := by decide +kernel
  rcases decompose_cases c with hself | ⟨hlow, hhigh, hparts⟩ |
    ⟨row, hrow, -, hparts⟩
  · rw [hself]
    exact List.countP_le_length
  · -- The jamo stand between two blanks.
    have hnone : ∀ code, 0xA0 < code → code < 0x1680 →
        isBlank (Char.ofNat code) = false := by
      intro code hlow hhigh
      rw [Bool.eq_false_iff]
      apply (List.countP_eq_zero.mp (blanks_ofNat _)) _ List.mem_cons_self
      intro hmem
      have hgap : ∀ blank ∈ blankCodes, blank ≤ 0xA0 ∨ 0x1680 ≤ blank := by
        decide
      have hblank := hgap code hmem
      omega
    have hzero : blanks (decompose c) = 0 := by
      apply List.countP_eq_zero.mpr
      intro d hd
      rw [hparts] at hd
      obtain ⟨code, hmem, rfl⟩ := List.mem_map.mp hd
      obtain ⟨hjamo, hjamo'⟩ := jamo_of_mem_decomposeHangul hlow hhigh hmem
      rw [hnone code (by omega) (by omega)]
      exact Bool.false_ne_true
    exact (Nat.le_of_eq hzero).trans (Nat.zero_le 1)
  · rw [hparts]
    exact hrows row hrow

theorem blanks_lowerAfter_le (cs : List Char) : ∀ before : List Char,
    blanks (lowerAfter before cs) ≤ blanks cs := by
  induction cs with
  | nil => exact fun before => Nat.le_refl _
  | cons c cs ih =>
      intro before
      have hhead : ∀ final : Bool, blanks (if c = 'Σ' then
          [if final then 'ς' else 'σ'] else lowerChar c) ≤ blanks [c] := by
        intro final
        split
        · cases final <;> exact Nat.zero_le _
        · exact blanks_lowerChar_le c
      rw [lowerAfter, blanks_append]
      show _ ≤ blanks ([c] ++ cs)
      rw [blanks_append]
      exact Nat.add_le_add (hhead _) (ih _)

theorem blanks_canonical_le (cs : List Char) :
    blanks (canonical cs) ≤ cs.length := by
  have hparts : blanks (cs.flatMap decompose) ≤ cs.length := by
    induction cs with
    | nil => exact Nat.le_refl _
    | cons c cs ih =>
        rw [List.flatMap_cons, blanks_append, List.length_cons, Nat.add_comm]
        exact Nat.add_le_add ih (blanks_decompose_le c)
  rw [canonical, blanks, (perm_canonicalOrder _).countP_eq]
  exact hparts

theorem blanks_clean_le (cs : List Char) : blanks (clean cs) ≤ cs.length := by
  have hfilter : blanks ((canonical cs).filter fun c =>
      isLetter c || isBlank c) ≤ blanks (canonical cs) :=
    List.Sublist.countP_le List.filter_sublist
  exact (blanks_lowerAfter_le _ []).trans
    (hfilter.trans (blanks_canonical_le cs))

end Text

/-- A file has no more terms than bytes and one. -/
theorem length_stems_le {content : List UInt8} {text : List Char}
    (h : Text.Utf8.decode? content = some text) :
    (stems text).length ≤ content.length + 1 := by
  rw [stems, List.length_map]
  exact (Text.length_words_le _).trans (Nat.succ_le_succ
    ((Text.blanks_clean_le text).trans (Text.length_of_decodeFrom? h)))

end Concordance
