import Mathlib.Algebra.GroupWithZero.Nat
import Concordance.Index.Search
import Concordance.Proofs.SortedMerge

/-!
# Adding up the matches of a search

A search goes through the terms that match, one after the other, and adds to the
number of matches at each location the number of positions of the term there. So
a location is among the matches if one of the terms occurs there, and then it
has as many as all of them have positions together: `get?_countMatches`. Which
terms match, and how often each is gone through, is a matter of the mode.
-/

namespace Concordance

namespace Occurrences

/-- At each location, the number of positions. -/
def counts (occurrences : Occurrences) : Index.Matches where
  entries := occurrences.entries.map fun (location, positions) =>
    (location, positions.size)
  sorted := List.pairwise_map.mpr occurrences.sorted

theorem get?_counts (occurrences : Occurrences) (location : Location) :
    occurrences.counts.get? location =
      (occurrences.get? location).map SortedMap.size := by
  apply Option.ext
  intro count
  rw [SortedMap.get?_eq_some_iff, Option.map_eq_some_iff]
  constructor
  · intro h
    obtain ⟨⟨found, positions⟩, hmem, heq⟩ := List.mem_map.mp h
    cases heq
    exact ⟨positions, SortedMap.get?_eq_some_iff.mpr hmem, rfl⟩
  · rintro ⟨positions, hget, rfl⟩
    exact List.mem_map.mpr
      ⟨(location, positions), SortedMap.get?_eq_some_iff.mp hget, rfl⟩

/-- The number of positions at a location. -/
def countAt (occurrences : Occurrences) (location : Location) : Nat :=
  ((occurrences.get? location).getD .empty).size

end Occurrences

namespace Index

/-- Adding matches is merging their counts. -/
theorem addMatches_eq (found : Matches) (occurrences : Occurrences) :
    addMatches found occurrences = found.merge (· + ·) occurrences.counts := by
  rw [addMatches, SortedMap.merge, Occurrences.counts, List.foldl_map]
  refine congrArg (fun step => List.foldl step found occurrences.entries) ?_
  funext found entry
  refine congrArg (found.update entry.1) (funext fun count => ?_)
  cases count with
  | none => exact Nat.zero_add _
  | some count => rfl

theorem get?_addMatches (found : Matches) (occurrences : Occurrences)
    (location : Location) :
    (addMatches found occurrences).get? location =
      if occurrences.contains location = true then
        some ((found.get? location).getD 0 + occurrences.countAt location)
      else found.get? location := by
  rw [addMatches_eq, SortedMap.get?_merge, Occurrences.get?_counts,
    SortedMap.contains, Occurrences.countAt]
  cases occurrences.get? location with
  | none => cases found.get? location <;> rfl
  | some positions =>
      cases found.get? location with
      | none => exact congrArg some (Nat.zero_add _).symm
      | some count => rfl

theorem get?_foldl_addMatches (location : Location)
    (entries : List (Term × Occurrences)) : ∀ found : Matches,
    (entries.foldl (fun found entry => addMatches found entry.2) found).get?
        location =
      if (found.get? location).isSome = true ∨
          ∃ entry ∈ entries, entry.2.contains location = true then
        some ((found.get? location).getD 0 +
          (entries.map (·.2.countAt location)).sum)
      else none := by
  induction entries with
  | nil =>
      intro found
      cases hfound : found.get? location <;> simp [hfound]
  | cons entry entries ih =>
      intro found
      rw [List.foldl_cons, ih, get?_addMatches]
      rw [List.map_cons, List.sum_cons]
      by_cases hentry : entry.2.contains location = true
      · rw [if_pos hentry, Option.getD_some, Nat.add_assoc]
        simp only [Option.isSome_some, true_or, if_true,
          List.exists_mem_cons_iff, hentry, or_true]
      · have hzero : entry.2.countAt location = 0 := by
          rw [SortedMap.contains, Option.not_isSome_iff_eq_none] at hentry
          rw [Occurrences.countAt, hentry]
          rfl
        rw [if_neg hentry, hzero, Nat.zero_add]
        simp only [List.exists_mem_cons_iff, hentry, Bool.false_eq_true,
          false_or]

/-- A location is among the matches of a search if a term that matches occurs
there, with as many matches as they all have positions. -/
theorem get?_countMatches (index : Index) (mode : Mode) (terms : List Term)
    (location : Location) :
    (index.countMatches mode terms).get? location =
      if ∃ term ∈ terms, ∃ entry ∈ index.matching mode term,
          entry.2.contains location = true then
        some (terms.map fun term =>
          ((index.matching mode term).map (·.2.countAt location)).sum).sum
      else none := by
  have hsum : ((terms.flatMap (index.matching mode)).map
      (·.2.countAt location)).sum =
      (terms.map fun term =>
        ((index.matching mode term).map (·.2.countAt location)).sum).sum := by
    rw [List.map_flatMap, List.flatMap_def, List.sum_flatten, List.map_map]
    rfl
  have hexists : (∃ entry ∈ terms.flatMap (index.matching mode),
      entry.2.contains location = true) ↔
      ∃ term ∈ terms, ∃ entry ∈ index.matching mode term,
        entry.2.contains location = true := by
    simp only [List.mem_flatMap]
    constructor
    · rintro ⟨entry, ⟨term, hterm, hentry⟩, hat⟩
      exact ⟨term, hterm, entry, hentry, hat⟩
    · rintro ⟨term, hterm, entry, hentry, hat⟩
      exact ⟨entry, ⟨term, hterm, hentry⟩, hat⟩
  rw [countMatches, get?_foldl_addMatches, SortedMap.get?_empty, hsum]
  simp only [Option.isSome_none, Bool.false_eq_true, false_or,
    Option.getD_none, Nat.zero_add, hexists]

end Index

end Concordance
