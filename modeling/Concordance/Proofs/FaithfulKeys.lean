import Concordance.Proofs.ByteOrder
import Concordance.Proofs.QueryKey

/-!
# A key stands for the terms of a line

A query has at least one term, and its terms are words. So its key, cut at each
space, gives the terms back, in the order of their bytes and each once. Two
queries have one key if they have the same terms, and only then; and a line is
no query only if no word is left of it.

The terms of a line depend on which words it has, not on how often it has them
and in what order, nor on the blanks between them: words are cleaned one by one
as well as together. So lines of the same words are one query
(`Query.key_faithful`).
-/

namespace Concordance

open Text (clean words)

variable {line other : String}

theorem mem_terms {term : Term} : term ∈ terms line ↔
    ∃ w ∈ words (clean line.toList), String.ofList (Stem.stem w) = term := by
  rw [terms, stems, List.map_map, List.mem_map]
  rfl

theorem terms_eq_nil_iff :
    terms line = [] ↔ words (clean line.toList) = [] := by
  rw [terms, stems, List.map_eq_nil_iff, List.map_eq_nil_iff]

/-- Of the words that are left of a line it does not matter where they stand. -/
theorem termSet_congr (h : ∀ w, w ∈ words (clean line.toList) ↔
    w ∈ words (clean other.toList)) : termSet line = termSet other := by
  apply SortedSet.ext_mem
  intro term
  rw [termSet, termSet, SortedSet.mem_toList_ofList,
    SortedSet.mem_toList_ofList, mem_terms, mem_terms]
  exact exists_congr fun w => and_congr_left fun _ => h w

/-- What is left of a line is left of its words. -/
theorem mem_words_clean_congr {cs ds : List Char}
    (h : ∀ w, w ∈ words cs ↔ w ∈ words ds) (w : List Char) :
    w ∈ words (clean cs) ↔ w ∈ words (clean ds) := by
  rw [Text.words_clean cs, Text.words_clean ds, List.mem_flatMap,
    List.mem_flatMap]
  exact exists_congr fun v => and_congr_left fun _ => h v

namespace Query

theorem ofLine?_eq_none_iff :
    ofLine? line = none ↔ words (clean line.toList) = [] := by
  have hempty : (termSet line).isEmpty = true ↔
      Concordance.terms line = [] := by
    rw [SortedSet.isEmpty_iff, List.eq_nil_iff_forall_not_mem,
      List.eq_nil_iff_forall_not_mem]
    exact forall_congr' fun term => not_congr SortedSet.mem_toList_ofList
  rw [← terms_eq_nil_iff, ← hempty, ofLine?]
  split
  · next h => exact iff_of_true rfl h
  · next h => exact iff_of_false (by simp) h

theorem ofLine?_congr (h : ∀ w, w ∈ words (clean line.toList) ↔
    w ∈ words (clean other.toList)) : ofLine? line = ofLine? other := by
  rw [ofLine?, ofLine?, termSet_congr h]

/-- What the key of a line's query tells of it. -/
structure Faithful (query : Query) (line : String) : Prop where
  ne_nil : query.terms.toList ≠ []
  isWord : ∀ term ∈ query.terms.toList, Text.IsWord term.toList
  mem_iff : ∀ term, term ∈ query.terms.toList ↔ term ∈ Concordance.terms line
  splitOn_key : query.key.toList.splitOn ' ' =
    query.terms.toList.map String.toList
  /-- So none is there twice. -/
  ascending : query.terms.toList.Pairwise fun term next =>
    compare (Text.Utf8.encode term.toList) (Text.Utf8.encode next.toList) = .lt

theorem faithful_of_ofLine? {query : Query}
    (h : ofLine? line = some query) : query.Faithful line := by
  have hwords : ∀ term ∈ query.terms.toList, Text.IsWord term.toList :=
    fun term => isWord_of_mem_terms h
  have hne := terms_ne_nil h
  constructor
  case ne_nil => exact hne
  case isWord => exact hwords
  case mem_iff => exact fun term => mem_terms_iff h
  case splitOn_key =>
    rw [key, String.toList_intercalate]
    apply List.splitOn_intercalate
    · intro word hword hspace
      obtain ⟨term, hterm, rfl⟩ := List.mem_map.mp hword
      have hsolid := (hwords term hterm).solid ' ' hspace
      rw [Text.isBlank_space] at hsolid
      cases hsolid
    · rwa [ne_eq, List.map_eq_nil_iff]
  case ascending =>
    -- A set is in the order of characters, which is that of their bytes.
    apply (SortedMap.pairwise_keys query.terms).imp
    intro term next hlt
    rwa [← Text.Utf8.compare_encode]

/-- Keys are for their terms: they tell which they are, and nothing else of the
line. -/
theorem key_faithful :
    (∀ {line : String} {query : Query}, ofLine? line = some query →
      query.Faithful line) ∧
    (∀ {line other : String} {query found : Query},
      ofLine? line = some query → ofLine? other = some found →
      (query.key = found.key ↔ query.terms = found.terms)) ∧
    (∀ line : String, ofLine? line = none ↔ words (clean line.toList) = []) ∧
    ∀ {line other : String},
      (∀ w, w ∈ words line.toList ↔ w ∈ words other.toList) ∨
        (∀ w, w ∈ words (clean line.toList) ↔
          w ∈ words (clean other.toList)) →
      ofLine? line = ofLine? other := by
  refine ⟨faithful_of_ofLine?, ?_, fun line => ofLine?_eq_none_iff, ?_⟩
  · intro line other query found hquery hfound
    constructor
    · intro hkey
      rw [eq_of_key hfound hquery hkey]
    · intro hterms
      rw [key, key, hterms]
  · rintro line other (hsame | hsame)
    · exact ofLine?_congr (mem_words_clean_congr hsame)
    · exact ofLine?_congr hsame

/-- Two lines of the same words, with other blanks between them, and a line
without words. -/
theorem key_petLines : ∃ query found,
    ofLine? "Cats, cat-nap" = some query ∧
    ofLine? "cat-nap\u2003Cats,\tcat-nap " = some found ∧
    query = found ∧ query.key = "cat catnap" ∧
    query.Faithful "Cats, cat-nap" ∧
    (query.key = found.key ↔ query.terms = found.terms) ∧
    ofLine? "4 + 2" = none := by
  have hquery : ofLine? "Cats, cat-nap" = some _ := rfl
  have hwords : words "Cats, cat-nap".toList =
      ["Cats,".toList, "cat-nap".toList] := by decide +kernel
  have hother : words "cat-nap\u2003Cats,\tcat-nap ".toList =
      ["cat-nap".toList, "Cats,".toList, "cat-nap".toList] := by decide +kernel
  have hsame : ∀ w, w ∈ words "Cats, cat-nap".toList ↔
      w ∈ words "cat-nap\u2003Cats,\tcat-nap ".toList := by
    intro w
    rw [hwords, hother]
    simp only [List.mem_cons, List.not_mem_nil, or_false]
    tauto
  obtain ⟨hfaithful, hkeys, hnone, hcongr⟩ := key_faithful
  have hfound := (hcongr (.inl hsame)).symm.trans hquery
  refine ⟨_, _, hquery, hfound, rfl, ?_, hfaithful hquery,
    hkeys hquery hfound, (hnone _).mpr ?_⟩
  · decide +kernel
  · decide +kernel

end Query

end Concordance
