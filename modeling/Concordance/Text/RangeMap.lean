/-!
# Maps on ranges of code points

A character property is data: a list of disjoint ranges of code points in
rising order, each with a value. `RangeMap` keeps such a list as a search
tree, so that a look-up costs the depth of the tree and not the length of
the list. The property modules beside this one hold their rows as plain
lists and look them up here.

Main statement: whatever a look-up finds is the value of one of the rows,
and the code point lies in that row's range (`mem_of_find?_ofRows`). A fact
that holds of every row therefore holds of every look-up.
-/

namespace Concordance.Text

universe u

/-- A row: the first and the last code point of a range, and its value. -/
abbrev RangeRow (α : Type u) := Nat × Nat × α

/-- A finite map on disjoint ranges of code points, as a search tree. -/
inductive RangeMap (α : Type u) where
  | leaf
  | node (below : RangeMap α) (row : RangeRow α) (above : RangeMap α)

namespace RangeMap

variable {α : Type u}

/-- The value of the range that holds `n`, if one does. -/
def find? (n : Nat) : RangeMap α → Option α
  | leaf => none
  | node below (first, last, value) above =>
    if n < first then below.find? n
    else if last < n then above.find? n
    else some value

/-- The rows of the tree, in order. -/
def rows : RangeMap α → List (RangeRow α)
  | leaf => []
  | node below row above => below.rows ++ row :: above.rows

/-- Whether some range holds `n`. -/
def contains (n : Nat) (map : RangeMap α) : Bool := (map.find? n).isSome

/-- Builds a tree of at most `depth` levels from the front of `rows`, and
returns the rows that did not fit. -/
def build : (depth : Nat) → (rows : List (RangeRow α)) → RangeMap α × List (RangeRow α)
  | 0, rows => (leaf, rows)
  | depth + 1, rows =>
    match build depth rows with
    | (below, []) => (below, [])
    | (below, row :: rest) =>
      let (above, rest) := build depth rest
      (node below row above, rest)

/-- The tree of a list of rows. A tree of `d` levels holds `2 ^ d - 1` rows,
so one level more than the logarithm of their number takes them all. -/
def ofRows (rows : List (RangeRow α)) : RangeMap α :=
  (build (rows.length.log2 + 1) rows).1

/-! ## What a look-up can find -/

theorem rows_build (depth : Nat) (rs : List (RangeRow α)) :
    (build depth rs).1.rows ++ (build depth rs).2 = rs := by
  induction depth generalizing rs with
  | zero => rfl
  | succ depth ih =>
    have h := ih rs
    unfold build
    split
    · rename_i below heq
      rw [heq] at h
      simpa using h
    · rename_i below row rest heq
      rw [heq] at h
      have h' := ih rest
      simp only [rows, List.append_assoc, List.cons_append, h', h]

theorem mem_of_find? {n : Nat} {v : α} {map : RangeMap α} (h : map.find? n = some v) :
    ∃ first last, (first, last, v) ∈ map.rows ∧ first ≤ n ∧ n ≤ last := by
  induction map with
  | leaf => simp [find?] at h
  | node below row above ihb iha =>
    obtain ⟨first, last, value⟩ := row
    simp only [find?] at h
    simp only [rows, List.mem_append, List.mem_cons]
    split at h
    · obtain ⟨f, l, hm, hle⟩ := ihb h
      exact ⟨f, l, .inl hm, hle⟩
    · split at h
      · obtain ⟨f, l, hm, hle⟩ := iha h
        exact ⟨f, l, .inr (.inr hm), hle⟩
      · cases h
        exact ⟨first, last, .inr (.inl rfl), by omega, by omega⟩

/-- A look-up answers with the value of a row whose range holds the code
point. -/
theorem mem_of_find?_ofRows {n : Nat} {v : α} {rs : List (RangeRow α)}
    (h : (ofRows rs).find? n = some v) :
    ∃ first last, (first, last, v) ∈ rs ∧ first ≤ n ∧ n ≤ last := by
  obtain ⟨f, l, hm, hle⟩ := mem_of_find? h
  have hrows := rows_build (rs.length.log2 + 1) rs
  refine ⟨f, l, ?_, hle⟩
  rw [← hrows]
  exact List.mem_append_left _ hm

end RangeMap

/-- A set of code points, as disjoint ranges. -/
abbrev RangeSet := RangeMap Unit

/-- The set of the given ranges, each by its first and last code point. -/
def RangeSet.ofRanges (ranges : List (Nat × Nat)) : RangeSet :=
  RangeMap.ofRows (ranges.map fun (first, last) => (first, last, ()))

end Concordance.Text
