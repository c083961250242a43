import Mathlib.Data.List.TakeWhile
import Concordance.Proofs.BlankBoundary
import Concordance.Proofs.SortedMerge
import Concordance.Query.Line

/-!
# What a key says of its query

A key is the terms of its query in rising order with a blank between them, and
terms are words. Cut into words, a key gives its terms back. So two queries
with one key are one query, and whatever is kept under a key belongs to one
query only.

And of a line of blanks there is no query, since words are cleaned one by one
as well as together, and it has none.
-/

namespace Concordance

namespace Text

theorem blank_of_trim {cs : List Char} (h : trim cs = []) :
    ∀ c ∈ cs, isBlank c = true := by
  have hback : ∀ d ∈ cs.dropWhile isBlank, isBlank d = true := by
    intro d hd
    rw [trim, List.reverse_eq_nil_iff, List.dropWhile_eq_nil_iff] at h
    exact h d (List.mem_reverse.mpr hd)
  intro c hc
  rw [← List.takeWhile_append_dropWhile (p := isBlank) (l := cs)] at hc
  rcases List.mem_append.mp hc with hfront | hrest
  · exact List.mem_takeWhile_imp hfront
  · exact hback c hrest

end Text

namespace SortedSet

/-- The set of a list has the members of the list. -/
theorem mem_toList_ofList {x : String} {xs : List String} :
    x ∈ (SortedSet.ofList xs).toList ↔ x ∈ xs := by
  have hfold : ∀ (xs : List String) (set : SortedSet String),
      (xs.foldl add set).contains x = true ↔
        x ∈ xs ∨ SortedMap.contains set x = true := by
    intro xs
    induction xs with
    | nil => intro set; simp
    | cons y xs ih =>
        intro set
        rw [List.foldl_cons, ih, add, SortedMap.insert,
          SortedMap.contains_update, List.mem_cons, or_assoc, or_left_comm]
  show x ∈ SortedMap.keys _ ↔ _
  rw [SortedMap.mem_keys]
  refine (hfold xs _).trans (or_iff_left ?_)
  exact Bool.false_ne_true

theorem isEmpty_iff {set : SortedSet String} :
    SortedMap.isEmpty set = true ↔ set.toList = [] := by
  rw [SortedMap.isEmpty, List.isEmpty_iff]
  exact List.map_eq_nil_iff.symm

/-- A set is what its elements are. -/
theorem ext_mem {set other : SortedSet String}
    (h : ∀ x, x ∈ set.toList ↔ x ∈ other.toList) : set = other := by
  apply SortedMap.ext_contains
  intro x
  rw [Bool.eq_iff_iff, ← SortedMap.mem_keys, ← SortedMap.mem_keys]
  exact h x

end SortedSet

namespace Query

/-- A line of blanks is no query. -/
theorem ofLine?_of_blank {line : String} (h : Text.trim line.toList = []) :
    ofLine? line = none := by
  have hterms : Concordance.terms line = [] := by
    rw [Concordance.terms, stems, Text.words_clean,
      Text.words_of_blank (Text.blank_of_trim h)]
    rfl
  rw [ofLine?, termSet, hterms]
  rfl

/-- A query has the terms of its line. -/
theorem terms_of_ofLine? {line : String} {query : Query}
    (h : ofLine? line = some query) : query.terms = termSet line := by
  unfold ofLine? at h
  dsimp only at h
  generalize termSet line = set at h ⊢
  split at h
  · cases h
  · cases h
    rfl

theorem terms_ne_nil {line : String} {query : Query}
    (h : ofLine? line = some query) : query.terms.toList ≠ [] := by
  intro hnil
  rw [terms_of_ofLine? h] at hnil
  rw [ofLine?, if_pos (SortedSet.isEmpty_iff.mpr hnil)] at h
  cases h

/-- A line of which there are terms is a query. -/
theorem ofLine?_of_ne_nil {line : String}
    (h : Concordance.terms line ≠ []) : ofLine? line = some ⟨termSet line⟩ := by
  rw [ofLine?, if_neg]
  intro hempty
  have hnil := SortedSet.isEmpty_iff.mp hempty
  apply h
  apply List.eq_nil_iff_forall_not_mem.mpr
  intro term hterm
  have hmem := SortedSet.mem_toList_ofList.mpr hterm
  rw [← termSet, hnil] at hmem
  cases hmem

theorem mem_terms_iff {line : String} {query : Query}
    (h : ofLine? line = some query) {term : Term} :
    term ∈ query.terms.toList ↔ term ∈ Concordance.terms line := by
  rw [terms_of_ofLine? h]
  exact SortedSet.mem_toList_ofList

/-- The terms of a query are words. -/
theorem isWord_of_mem_terms {line : String} {query : Query}
    (h : ofLine? line = some query) {term : Term}
    (hterm : term ∈ query.terms.toList) : Text.IsWord term.toList :=
  Concordance.isWord_of_mem_terms ((mem_terms_iff h).mp hterm)

/-- Words with a blank between them are cut into these words. -/
theorem words_intercalate {terms : List Term}
    (h : ∀ term ∈ terms, Text.IsWord term.toList) :
    Text.words (" ".intercalate terms).toList = terms.map String.toList := by
  induction terms with
  | nil => rfl
  | cons term terms ih =>
      have hrest := ih fun other hother =>
        h other (List.mem_cons_of_mem _ hother)
      have hterm := Text.words_of_isWord (h term (List.mem_cons_self ..))
      cases terms with
      | nil =>
          rw [String.intercalate_singleton, hterm]
          rfl
      | cons next terms =>
          rw [String.intercalate_cons_cons, String.toList_append,
            String.toList_append, List.append_assoc,
            show " ".toList = [' '] from rfl, List.singleton_append,
            Text.words_append_blank Text.isBlank_space, hterm, hrest]
          rfl

/-- Two queries with one key are the same query. -/
theorem eq_of_key {line other : String} {query found : Query}
    (hquery : ofLine? line = some query) (hfound : ofLine? other = some found)
    (hkey : found.key = query.key) : found = query := by
  have hwords := congrArg (fun key => Text.words key.toList) hkey
  dsimp only [key] at hwords
  rw [words_intercalate fun term => isWord_of_mem_terms hfound,
    words_intercalate fun term => isWord_of_mem_terms hquery] at hwords
  have hterms : found.terms.toList = query.terms.toList :=
    List.map_injective_iff.mpr (fun _ _ => String.toList_inj.mp) hwords
  exact congrArg Query.mk (SortedSet.ext_mem fun term => by rw [hterms])

end Query

end Concordance
