import Mathlib.Data.List.Sort
import Mathlib.Data.Set.Basic
import Concordance.Proofs.ExactHits
import Concordance.Proofs.HitOrder
import Concordance.Proofs.PartialHits

/-!
# A hit depends on nothing but its own document

All documents share one map of terms, so recording a token anywhere may change
what a search walks through: terms come in between those with a beginning, and
locations between those of a term. What it does not change is what the index
tells of another location (`recordAll_elsewhere`). And from that alone it
follows which hit there is at the location, if any: a term that does not occur
there adds nothing, so all that counts are the terms that do
(`AgreeAt.get?_countMatches`).

The ranking compares two hits by what they are. Hence the hits at the locations
that were left alone are not only the same, they stand in the same order, with
more or fewer others between them.
-/

namespace Concordance

/-! ## What edits add -/

mutual

theorem Edit.prefix_records (before : List Record) (edit : Edit) :
    before <+: edit.records before := by
  match edit with
  | .add _ _ _ | .addAll _ _ _ | .merge _ | .mergeSelf =>
      rw [Edit.records]
      exact List.prefix_append _ _

theorem Edit.prefix_allRecords (before : List Record) (edits : List Edit) :
    before <+: Edit.allRecords before edits := by
  match edits with
  | [] => rw [Edit.allRecords]
  | edit :: edits =>
      rw [Edit.allRecords]
      exact (Edit.prefix_records before edit).trans
        (Edit.prefix_allRecords _ edits)

end

/-- What edits record, given the records before them. -/
def Edit.added (before : List Record) (edits : List Edit) : List Record :=
  (Edit.allRecords before edits).drop before.length

theorem Edit.allRecords_eq (before : List Record) (edits : List Edit) :
    Edit.allRecords before edits = before ++ Edit.added before edits :=
  List.prefix_iff_eq_append.mp (Edit.prefix_allRecords before edits) |>.symm

namespace Index

/-! ## One location of two indexes -/

/-- The terms of a location, sorted. -/
def wordsAt (index : Index) (location : Location) : List Term :=
  index.words.filter (index.containsAt · location)

theorem lists_wordsAt (index : Index) (location : Location) :
    Lists (index.wordsAt location)
      fun word => index.containsAt word location = true where
  rising := (SortedMap.pairwise_keys index.postings).imp
    compare_lt_iff_lt.mp |>.filter _
  mem_iff word := by
    rw [wordsAt, List.mem_filter, and_iff_right_iff_imp]
    intro hat
    rw [words, SortedMap.mem_keys, SortedMap.contains]
    rw [containsAt, occurrences] at hat
    cases hget : index.postings.get? word with
    | none =>
        rw [hget] at hat
        cases hat
    | some _ => rfl

/-- Of the terms with a property those count that occur at the location. -/
theorem sum_words_filter (index : Index) (location : Location)
    (p : Term → Bool) :
    ((index.words.filter p).map (index.positionCount · location)).sum =
      (((index.wordsAt location).filter p).map
        (index.positionCount · location)).sum := by
  have hzero : ∀ word, ¬index.containsAt word location = true →
      index.positionCount word location = 0 := by
    intro word hat
    rw [containsAt, SortedMap.contains, Option.not_isSome_iff_eq_none] at hat
    rw [positionCount, positionSet, hat]
    rfl
  rw [wordsAt]
  induction index.words with
  | nil => rfl
  | cons word words ih =>
      by_cases hat : index.containsAt word location = true
      · rw [List.filter_cons_of_pos (p := (index.containsAt · location)) hat]
        by_cases hp : p word = true
        · rw [List.filter_cons_of_pos hp, List.filter_cons_of_pos hp,
            List.map_cons, List.map_cons, List.sum_cons, List.sum_cons, ih]
        · rw [List.filter_cons_of_neg hp, List.filter_cons_of_neg hp, ih]
      · rw [List.filter_cons_of_neg (p := (index.containsAt · location)) hat]
        by_cases hp : p word = true
        · rw [List.filter_cons_of_pos hp, List.map_cons, List.sum_cons,
            hzero word hat, Nat.zero_add, ih]
        · rw [List.filter_cons_of_neg hp, ih]

/-- Two indexes tell the same of a location. -/
structure AgreeAt (index other : Index) (location : Location) : Prop where
  occurrences : ∀ term, (index.occurrences term).get? location =
    (other.occurrences term).get? location
  totals : index.totals.get? location = other.totals.get? location

section

variable {index other : Index} {location : Location}

theorem AgreeAt.containsAt (h : AgreeAt index other location) (term : Term) :
    index.containsAt term location = other.containsAt term location := by
  rw [Index.containsAt, SortedMap.contains, h.occurrences]
  rfl

theorem AgreeAt.positionCount (h : AgreeAt index other location)
    (term : Term) :
    index.positionCount term location = other.positionCount term location := by
  rw [Index.positionCount, Index.positionSet, h.occurrences]
  rfl

theorem AgreeAt.total (h : AgreeAt index other location) :
    index.total location = other.total location := by
  rw [Index.total, h.totals]
  rfl

theorem AgreeAt.wordsAt (h : AgreeAt index other location) :
    index.wordsAt location = other.wordsAt location := by
  have hwords := index.lists_wordsAt location
  have hothers := other.lists_wordsAt location
  refine hwords.rising.eq_of_mem_iff hothers.rising fun {word} => ?_
  rw [hwords.mem_iff, hothers.mem_iff, h.containsAt]

/-- Then every search has as many matches there in the one as in the other. -/
theorem AgreeAt.get?_countMatches (h : AgreeAt index other location)
    (mode : Mode) (sought : List Term) :
    (index.countMatches mode sought).get? location =
      (other.countMatches mode sought).get? location := by
  cases mode with
  | exactly =>
      rw [get?_countMatches_exactly, get?_countMatches_exactly]
      simp only [h.containsAt, h.positionCount]
  | partially =>
      have hat : ∀ (index : Index) beginning,
          (∃ word ∈ index.words, BeginsWith word beginning ∧
            index.containsAt word location = true) ↔
          ∃ word ∈ index.wordsAt location, BeginsWith word beginning := by
        intro index beginning
        simp only [Index.wordsAt, List.mem_filter]
        constructor
        · rintro ⟨word, hword, hbegins, hat⟩
          exact ⟨word, ⟨hword, hat⟩, hbegins⟩
        · rintro ⟨word, ⟨hword, hat⟩, hbegins⟩
          exact ⟨word, hword, hbegins, hat⟩
      have hsum : ∀ beginning,
          ((index.words.filter fun word => BeginsWith word beginning).map
            (index.positionCount · location)).sum =
          ((other.words.filter fun word => BeginsWith word beginning).map
            (other.positionCount · location)).sum := by
        intro beginning
        rw [sum_words_filter, sum_words_filter, h.wordsAt]
        simp only [h.positionCount]
      rw [get?_countMatches_partially, get?_countMatches_partially]
      simp only [hat, hsum, h.wordsAt]

theorem AgreeAt.mem_search {hit : Hit}
    (h : AgreeAt index other hit.location) {mode : Mode}
    {sought : SortedSet Term} :
    hit ∈ index.search mode sought ↔ hit ∈ other.search mode sought := by
  rw [Index.mem_search, Index.mem_search, h.get?_countMatches, h.total]

/-- Indexes that agree at some locations have the same hits there, in the same
order. -/
theorem filter_search_eq {here : Set Location} [DecidablePred (· ∈ here)]
    (h : ∀ location ∈ here, AgreeAt index other location) (mode : Mode)
    (sought : SortedSet Term) :
    (index.search mode sought).filter (·.location ∈ here) =
      (other.search mode sought).filter (·.location ∈ here) := by
  have hnodup : ∀ index : Index,
      ((index.search mode sought).filter (·.location ∈ here)).Nodup :=
    fun index => (List.Nodup.of_map _ (index.nodup_search mode sought)).filter _
  apply Hit.InOrder.unique ((Hit.inOrder_ranked _).filter _)
    ((Hit.inOrder_ranked _).filter _)
  refine (List.perm_ext_iff_of_nodup (hnodup index) (hnodup other)).mpr ?_
  intro hit
  rw [List.mem_filter, List.mem_filter, decide_eq_true_eq]
  exact and_congr_left fun hhere => (h hit.location hhere).mem_search

end

/-! ## Recording elsewhere -/

/-- Edits that record nothing at some locations leave the hits there as they
were, whatever is sought and in either mode: they count as many matches, have
the same share, and stand in the same order. -/
theorem filter_search_applyAll {edits more : List Edit} {here : Set Location}
    [DecidablePred (· ∈ here)]
    (h : ∀ r ∈ Edit.added (Edit.allRecords [] edits) more, r.location ∉ here)
    (mode : Mode) (sought : SortedSet Term) :
    ((Edit.applyAll (ofEdits edits) more).search mode sought).filter
        (·.location ∈ here) =
      ((ofEdits edits).search mode sought).filter (·.location ∈ here) := by
  apply filter_search_eq
  intro location hlocation
  rw [ofEdits_eq, Edit.applyAll_recordAll, Edit.allRecords_eq, recordAll_append]
  obtain ⟨hoccurrences, htotals⟩ := recordAll_elsewhere
    (fun r hr (heq : r.location = location) => h r hr (heq ▸ hlocation))
    (Index.empty.recordAll (Edit.allRecords [] edits))
  exact ⟨hoccurrences, htotals⟩

/-- Two documents, of which the second is better. -/
def oldShelf : List Edit :=
  [.addAll ["car", "dog", "sun"] "x" 1, .addAll ["car", "cat"] "y" 1]

/-- A document that comes between the two, with a term between theirs, recorded
aside and merged with itself. -/
def newcomer : List Edit :=
  [.merge [.addAll ["cart"] "z" 1, .mergeSelf]]

theorem filter_search_newcomer :
    (∀ r ∈ Edit.added (Edit.allRecords [] oldShelf) newcomer,
      r.location ∉ ({"x", "y"} : Set Location)) ∧
    (((Edit.applyAll (ofEdits oldShelf) newcomer).search .partially
      (.ofList ["ca"])).map (·.location) = ["y", "z", "x"]) ∧
    ((Edit.applyAll (ofEdits oldShelf) newcomer).search .partially
      (.ofList ["ca"])).filter (·.location ∈ ({"x", "y"} : Set Location)) =
      [⟨2, Rank.share 2 2, "y"⟩, ⟨1, Rank.share 1 3, "x"⟩] := by
  have h : ∀ r ∈ Edit.added (Edit.allRecords [] oldShelf) newcomer,
      r.location ∉ ({"x", "y"} : Set Location) := by decide
  refine ⟨h, by decide +kernel, ?_⟩
  rw [filter_search_applyAll h .partially (.ofList ["ca"])]
  decide +kernel

end Index

end Concordance
