/-!
# Sorted maps and sets

A finite map kept as a list of entries in strictly rising key order. The
order is part of the type, so a map has one representation: two maps with
the same look-ups are equal (`ext_get?`), and what is written or searched in
key order needs no sorting. A set is a map to `Unit`.

Main statements: what `update` does to each look-up (`get?_update`), and
extensionality.
-/

namespace Concordance

universe u v

open Std (TransOrd LawfulEqOrd)

/-- A finite map whose entries are in strictly rising key order. -/
structure SortedMap (α : Type u) (β : Type v) [Ord α] where
  entries : List (α × β)
  sorted : entries.Pairwise fun a b => compare a.1 b.1 = .lt

namespace SortedMap

variable {α : Type u} {β : Type v} [Ord α]

/-- The value at `key` in a list of entries in rising order. -/
def lookup (key : α) : List (α × β) → Option β
  | [] => none
  | (k, v) :: rest =>
    match compare key k with
    | .lt => none
    | .eq => some v
    | .gt => lookup key rest

/-- Replaces the value at `key`, or adds one where there was none. -/
def change (key : α) (f : Option β → β) : List (α × β) → List (α × β)
  | [] => [(key, f none)]
  | (k, v) :: rest =>
    match compare key k with
    | .lt => (key, f none) :: (k, v) :: rest
    | .eq => (k, f (some v)) :: rest
    | .gt => (k, v) :: change key f rest

def empty : SortedMap α β := ⟨[], .nil⟩

instance : Inhabited (SortedMap α β) := ⟨empty⟩

instance : EmptyCollection (SortedMap α β) := ⟨empty⟩

/-- The value at `key`, if there is one. -/
def get? (map : SortedMap α β) (key : α) : Option β := lookup key map.entries

/-- Whether there is a value at `key`. -/
def contains (map : SortedMap α β) (key : α) : Bool := (map.get? key).isSome

/-- The keys, in rising order. -/
def keys (map : SortedMap α β) : List α := map.entries.map (·.1)

/-- The number of entries. -/
def size (map : SortedMap α β) : Nat := map.entries.length

def isEmpty (map : SortedMap α β) : Bool := map.entries.isEmpty

/-- The entries from the first key that is not below `key`, in rising order. -/
def entriesFrom (map : SortedMap α β) (key : α) : List (α × β) :=
  map.entries.dropWhile fun entry => compare entry.1 key == .lt

/-! ## Order is kept -/

theorem mem_change {key k : α} {f : Option β → β} {v : β} {entries : List (α × β)}
    (h : (k, v) ∈ change key f entries) : k = key ∨ ∃ w, (k, w) ∈ entries := by
  induction entries with
  | nil => simp only [change, List.mem_singleton, Prod.mk.injEq] at h; exact .inl h.1
  | cons entry rest ih =>
    obtain ⟨k', v'⟩ := entry
    simp only [change] at h
    split at h
    · rcases List.mem_cons.mp h with h | h
      · exact .inl (congrArg Prod.fst h)
      · exact .inr ⟨v, h⟩
    · rcases List.mem_cons.mp h with h | h
      · exact .inr ⟨v', by simp [(Prod.mk.inj h).1]⟩
      · exact .inr ⟨v, List.mem_cons_of_mem _ h⟩
    · rcases List.mem_cons.mp h with h | h
      · exact .inr ⟨v, by simp [h]⟩
      · rcases ih h with h | ⟨w, h⟩
        · exact .inl h
        · exact .inr ⟨w, List.mem_cons_of_mem _ h⟩

section

variable [TransOrd α]

theorem pairwise_change (key : α) (f : Option β → β) {entries : List (α × β)}
    (h : entries.Pairwise fun a b => compare a.1 b.1 = .lt) :
    (change key f entries).Pairwise fun a b => compare a.1 b.1 = .lt := by
  induction entries with
  | nil => simp [change]
  | cons entry rest ih =>
    obtain ⟨k, v⟩ := entry
    have hrest := (List.pairwise_cons.mp h).1
    simp only [change]
    split
    · rename_i hlt
      refine List.pairwise_cons.mpr ⟨fun b hb => ?_, h⟩
      rcases List.mem_cons.mp hb with rfl | hb
      · exact hlt
      · exact Std.TransCmp.lt_trans hlt (hrest b hb)
    · exact List.pairwise_cons.mpr ⟨fun b hb => hrest b hb, (List.pairwise_cons.mp h).2⟩
    · rename_i hgt
      refine List.pairwise_cons.mpr ⟨fun b hb => ?_, ih (List.pairwise_cons.mp h).2⟩
      rcases mem_change (v := b.2) hb with hk | ⟨w, hw⟩
      · simpa [hk] using Std.OrientedCmp.gt_iff_lt.mp hgt
      · exact hrest (b.1, w) hw

/-- Replaces the value at `key`, or adds one where there was none. -/
def update (map : SortedMap α β) (key : α) (f : Option β → β) : SortedMap α β :=
  ⟨change key f map.entries, pairwise_change key f map.sorted⟩

/-- Sets the value at `key`. -/
def insert (map : SortedMap α β) (key : α) (value : β) : SortedMap α β :=
  map.update key fun _ => value

/-- The map of the given pairs; of two values at one key the later one stays. -/
def ofList (pairs : List (α × β)) : SortedMap α β :=
  pairs.foldl (fun map (key, value) => map.insert key value) empty

/-- Takes in every entry of `other`. Where both maps have a value, `combine`
makes one of the two. -/
def merge (combine : β → β → β) (map other : SortedMap α β) : SortedMap α β :=
  other.entries.foldl
    (fun map (key, value) => map.update key fun old => old.elim value (combine · value)) map

end

/-! ## Look-ups -/

@[simp] theorem get?_empty (key : α) : (empty : SortedMap α β).get? key = none := rfl

theorem lookup_eq_none_of_lt {key : α} {entries : List (α × β)}
    (h : ∀ entry ∈ entries, compare key entry.1 = .lt) : lookup key entries = none := by
  cases entries with
  | nil => rfl
  | cons entry rest => simp [lookup, h entry (by simp)]

section

variable [TransOrd α] [LawfulEqOrd α]

theorem lookup_change [DecidableEq α] (key k : α) (f : Option β → β) {entries : List (α × β)}
    (h : entries.Pairwise fun a b => compare a.1 b.1 = .lt) :
    lookup k (change key f entries) =
      if k = key then some (f (lookup key entries)) else lookup k entries := by
  induction entries with
  | nil =>
    simp only [change, lookup]
    split <;> rename_i hc
    · have hne : k ≠ key := fun heq => by simp [heq] at hc
      simp [hne]
    · have heq := Std.LawfulEqCmp.eq_of_compare hc
      simp [heq]
    · have hne : k ≠ key := fun heq => by simp [heq] at hc
      simp [hne]
  | cons entry rest ih =>
    obtain ⟨k', v⟩ := entry
    have ih := ih (List.pairwise_cons.mp h).2
    cases hkey : compare key k' with
    | lt =>
      simp only [change, lookup, hkey]
      cases hk : compare k key with
      | lt =>
        have hne : k ≠ key := fun heq => by simp [heq] at hk
        simp only [hne, if_false]
        rw [Std.TransCmp.lt_trans hk hkey]
      | eq => simp [Std.LawfulEqCmp.eq_of_compare hk]
      | gt =>
        have hne : k ≠ key := fun heq => by simp [heq] at hk
        simp [hne]
    | eq =>
      have heq := Std.LawfulEqCmp.eq_of_compare hkey
      subst heq
      simp only [change, lookup, hkey]
      cases hk : compare k key with
      | lt =>
        have hne : k ≠ key := fun heq => by simp [heq] at hk
        simp [hne]
      | eq => simp [Std.LawfulEqCmp.eq_of_compare hk]
      | gt =>
        have hne : k ≠ key := fun heq => by simp [heq] at hk
        simp [hne]
    | gt =>
      simp only [change, lookup, hkey, ih]
      by_cases heq : k = key
      · subst heq; simp [hkey]
      · simp [heq]

/-- After an update, the changed key has the new value and all others are as
they were. -/
theorem get?_update [DecidableEq α] (map : SortedMap α β) (key k : α) (f : Option β → β) :
    (map.update key f).get? k = if k = key then some (f (map.get? key)) else map.get? k :=
  lookup_change key k f map.sorted

theorem get?_insert [DecidableEq α] (map : SortedMap α β) (key k : α) (value : β) :
    (map.insert key value).get? k = if k = key then some value else map.get? k :=
  get?_update map key k _

theorem lookup_eq_some_iff {key : α} {value : β} {entries : List (α × β)}
    (h : entries.Pairwise fun a b => compare a.1 b.1 = .lt) :
    lookup key entries = some value ↔ (key, value) ∈ entries := by
  induction entries with
  | nil => simp [lookup]
  | cons entry rest ih =>
    obtain ⟨k, v⟩ := entry
    have hrest := (List.pairwise_cons.mp h).1
    have ih := ih (List.pairwise_cons.mp h).2
    have below : ∀ w, (key, w) ∈ rest → compare key k = .gt := fun w hw =>
      Std.OrientedCmp.gt_iff_lt.mpr (hrest _ hw)
    simp only [lookup, List.mem_cons, Prod.mk.injEq]
    cases hk : compare key k with
    | lt =>
      have hne : key ≠ k := fun heq => by simp [heq] at hk
      simp only [reduceCtorEq, hne, false_and, false_or, false_iff]
      intro hmem
      simp [below _ hmem] at hk
    | eq =>
      have heq := Std.LawfulEqCmp.eq_of_compare hk
      simp only [Option.some.injEq, heq, true_and]
      refine ⟨fun hv => .inl hv.symm, fun hv => ?_⟩
      rcases hv with hv | hmem
      · exact hv.symm
      · rw [← heq] at hmem
        simp [below _ hmem] at hk
    | gt =>
      have hne : key ≠ k := fun heq => by simp [heq] at hk
      simp [hne, ih]

theorem get?_eq_some_iff {map : SortedMap α β} {key : α} {value : β} :
    map.get? key = some value ↔ (key, value) ∈ map.entries :=
  lookup_eq_some_iff map.sorted

theorem entries_ext {xs ys : List (α × β)}
    (hx : xs.Pairwise fun a b => compare a.1 b.1 = .lt)
    (hy : ys.Pairwise fun a b => compare a.1 b.1 = .lt)
    (h : ∀ key, lookup key xs = lookup key ys) : xs = ys := by
  induction xs generalizing ys with
  | nil =>
    cases ys with
    | nil => rfl
    | cons entry rest => simpa [lookup] using h entry.1
  | cons x xs ih =>
    cases ys with
    | nil => simpa [lookup] using h x.1
    | cons y ys =>
      obtain ⟨k, v⟩ := x
      obtain ⟨l, w⟩ := y
      have hx' := List.pairwise_cons.mp hx
      have hy' := List.pairwise_cons.mp hy
      have heads : k = l ∧ v = w := by
        have hk := h k
        have hl := h l
        cases hkl : compare k l with
        | lt => simp [lookup, hkl] at hk
        | eq =>
          have heq := Std.LawfulEqCmp.eq_of_compare hkl
          subst heq
          simp only [lookup, Std.ReflCmp.compare_self, Option.some.injEq] at hk
          exact ⟨rfl, hk⟩
        | gt =>
          have hlk : compare l k = .lt := Std.OrientedCmp.gt_iff_lt.mp hkl
          simp [lookup, hlk] at hl
      obtain ⟨rfl, rfl⟩ := heads
      congr 1
      refine ih hx'.2 hy'.2 fun key => ?_
      have hkey := h key
      cases hc : compare key k with
      | lt =>
        rw [lookup_eq_none_of_lt fun e he => Std.TransCmp.lt_trans hc (hx'.1 e he),
          lookup_eq_none_of_lt fun e he => Std.TransCmp.lt_trans hc (hy'.1 e he)]
      | eq =>
        have heq := Std.LawfulEqCmp.eq_of_compare hc
        subst heq
        rw [lookup_eq_none_of_lt hx'.1, lookup_eq_none_of_lt hy'.1]
      | gt => simpa [lookup, hc] using hkey

/-- Maps with the same look-ups are equal. -/
theorem ext_get? {map other : SortedMap α β} (h : ∀ key, map.get? key = other.get? key) :
    map = other := by
  obtain ⟨xs, hx⟩ := map
  obtain ⟨ys, hy⟩ := other
  congr 1
  exact entries_ext hx hy h

end

end SortedMap

/-- A finite set, as the map of its elements to the one value of `Unit`. -/
abbrev SortedSet (α : Type u) [Ord α] := SortedMap α Unit

namespace SortedSet

variable {α : Type u} [Ord α]

/-- The elements, in rising order. -/
def toList (set : SortedSet α) : List α := set.keys

variable [TransOrd α]

/-- The set with `x` in it. -/
def add (set : SortedSet α) (x : α) : SortedSet α := SortedMap.insert set x ()

/-- The set of the elements of a list. -/
def ofList (xs : List α) : SortedSet α := xs.foldl add SortedMap.empty

/-- The elements of either set. -/
def union (set other : SortedSet α) : SortedSet α := SortedMap.merge (fun _ _ => ()) set other

end SortedSet

end Concordance
