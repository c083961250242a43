import Mathlib.Data.Finset.Card
import Mathlib.Data.Finset.Dedup
import Mathlib.Data.String.Basic
import Concordance.SortedMap

/-!
# Merging sorted maps, one update at a time

A map is only ever changed by `update` and `merge`, and the second is a run
of the first. What makes an index independent of the order in which it was
filled is therefore two laws about `update` alone: where it stands against a
merge, and where it stands against another update. Both are read off the
look-ups, since maps with the same look-ups are equal.

The laws ask something of the function that makes the new value. It must not
matter whether it comes before or after the values are combined, or before or
after the other function. The maps inside an index are nested, so a law at one
level is the side condition of the same law one level up.
-/

namespace Concordance

universe u v

open Std (TransOrd LawfulEqOrd)

namespace SortedMap

variable {α : Type u} {β : Type v} [Ord α]

/-! ## What a merged map holds

Entries of the second map are taken in by rising key. Each key is met at most
once, so the value there is combined at most once, which is `Option.merge`. -/

section

variable [TransOrd α] [LawfulEqOrd α]

theorem lookup_eq_none_of_head_le {key k : α} {v : β} {rest : List (α × β)}
    (h : ((k, v) :: rest).Pairwise fun a b => compare a.1 b.1 = .lt)
    (hle : compare key k ≠ .gt) : lookup key rest = none := by
  have hrest := (List.pairwise_cons.mp h).1
  apply lookup_eq_none_of_lt
  intro entry hentry
  cases hc : compare key k with
  | lt => exact Std.TransCmp.lt_trans hc (hrest entry hentry)
  | eq =>
      rw [Std.LawfulEqCmp.eq_of_compare hc]
      exact hrest entry hentry
  | gt => exact absurd hc hle

variable [DecidableEq α]

theorem get?_foldl_update (combine : β → β → β) (key : α) :
    ∀ {entries : List (α × β)},
      entries.Pairwise (fun a b => compare a.1 b.1 = .lt) →
      ∀ map : SortedMap α β,
        (entries.foldl (fun map (entry : α × β) =>
          map.update entry.1 fun old =>
            old.elim entry.2 (combine · entry.2)) map).get? key =
        Option.merge combine (map.get? key) (lookup key entries) := by
  intro entries
  induction entries with
  | nil =>
      intro _ map
      cases hm : map.get? key <;> simp [lookup, hm]
  | cons entry rest ih =>
      intro h map
      obtain ⟨k, v⟩ := entry
      rw [List.foldl_cons, ih (List.pairwise_cons.mp h).2, get?_update]
      by_cases hk : key = k
      · subst hk
        have hnone : lookup key rest = none :=
          lookup_eq_none_of_head_le h (by simp)
        rw [if_pos rfl, hnone]
        simp only [lookup, Std.ReflCmp.compare_self]
        cases map.get? key <;> rfl
      · rw [if_neg hk]
        simp only [lookup]
        cases hc : compare key k with
        | lt =>
            rw [lookup_eq_none_of_head_le h (by rw [hc]; decide)]
        | eq => exact absurd (Std.LawfulEqCmp.eq_of_compare hc) hk
        | gt => rfl

/-- At each key a merged map holds what the two maps hold there, combined
where both hold something. -/
theorem get?_merge (combine : β → β → β) (map other : SortedMap α β) (key : α) :
    (map.merge combine other).get? key =
      Option.merge combine (map.get? key) (other.get? key) :=
  get?_foldl_update combine key other.sorted map

/-- Merging is commutative if combining is. -/
theorem merge_comm {combine : β → β → β}
    (h : ∀ v w, combine v w = combine w v) (map other : SortedMap α β) :
    map.merge combine other = other.merge combine map := by
  apply ext_get?
  intro key
  rw [get?_merge, get?_merge]
  cases map.get? key with
  | none => cases other.get? key <;> rfl
  | some v =>
      cases other.get? key with
      | none => rfl
      | some w => exact congrArg some (h v w)

/-- Merging is associative if combining is. -/
theorem merge_assoc {combine : β → β → β}
    (h : ∀ u v w, combine (combine u v) w = combine u (combine v w))
    (map other third : SortedMap α β) :
    (map.merge combine other).merge combine third =
      map.merge combine (other.merge combine third) := by
  apply ext_get?
  intro key
  simp only [get?_merge]
  cases map.get? key with
  | none => cases other.get? key <;> cases third.get? key <;> rfl
  | some u =>
      cases other.get? key with
      | none => cases third.get? key <;> rfl
      | some v =>
          cases third.get? key with
          | none => rfl
          | some w => exact congrArg some (h u v w)

/-! ## The two laws of `update` -/

/-- An update of the second map can as well be made after the merge, if the
new value comes out the same on either side of `combine`. -/
theorem merge_update {combine : β → β → β} {f : Option β → β}
    (hnone : ∀ v, combine v (f none) = f (some v))
    (hsome : ∀ v w, combine v (f (some w)) = f (some (combine v w)))
    (map other : SortedMap α β) (key : α) :
    map.merge combine (other.update key f) =
      (map.merge combine other).update key f := by
  apply ext_get?
  intro k
  rw [get?_merge, get?_update, get?_update, get?_merge, get?_merge]
  by_cases hk : k = key
  · subst hk
    rw [if_pos rfl, if_pos rfl]
    cases map.get? k with
    | none => cases other.get? k <;> rfl
    | some v =>
        cases other.get? k with
        | none => exact congrArg some (hnone v)
        | some w => exact congrArg some (hsome v w)
  · rw [if_neg hk, if_neg hk]

/-- Two updates can change places, at different keys always and at one key if
their functions can. -/
theorem update_comm {f g : Option β → β} {key other : α}
    (h : key = other → ∀ old, f (some (g old)) = g (some (f old)))
    (map : SortedMap α β) :
    (map.update other g).update key f = (map.update key f).update other g := by
  apply ext_get?
  intro k
  simp only [get?_update]
  by_cases hk : k = key
  · subst hk
    by_cases ho : k = other
    · subst ho
      rw [if_pos rfl, if_pos rfl, if_pos rfl, if_pos rfl]
      exact congrArg some (h rfl _)
    · rw [if_pos rfl, if_neg ho, if_neg ho, if_pos rfl]
  · by_cases ho : k = other
    · subst ho
      rw [if_neg hk, if_pos rfl, if_pos rfl, if_neg hk]
    · rw [if_neg hk, if_neg ho, if_neg ho, if_neg hk]

/-- An update matters for the value that there is, only. -/
theorem update_congr {map : SortedMap α β} {key : α} {f g : Option β → β}
    (h : f (map.get? key) = g (map.get? key)) :
    map.update key f = map.update key g := by
  apply ext_get?
  intro k
  rw [get?_update, get?_update, h]

theorem update_update (map : SortedMap α β) (key : α) (f g : Option β → β) :
    (map.update key f).update key g =
      map.update key fun old => g (some (f old)) := by
  apply ext_get?
  intro k
  rw [get?_update, get?_update, get?_update, get?_update, if_pos rfl]
  split <;> rfl

/-- What is left as it is was not updated. -/
theorem update_eq_self {map : SortedMap α β} {key : α} {f : Option β → β}
    (h : some (f (map.get? key)) = map.get? key) : map.update key f = map := by
  apply ext_get?
  intro k
  rw [get?_update]
  split
  · next heq => rw [heq, h]
  · rfl

theorem contains_update (map : SortedMap α β) (key k : α) (f : Option β → β) :
    (map.update key f).contains k = true ↔ k = key ∨ map.contains k = true := by
  rw [contains, get?_update, contains]
  by_cases hk : k = key <;> simp [hk]

end

theorem merge_empty [TransOrd α] (combine : β → β → β) (map : SortedMap α β) :
    map.merge combine .empty = map := rfl

/-! ## Keys -/

theorem mem_keys [TransOrd α] [LawfulEqOrd α] {map : SortedMap α β} {key : α} :
    key ∈ map.keys ↔ map.contains key = true := by
  rw [contains, Option.isSome_iff_exists, keys, List.mem_map]
  constructor
  · rintro ⟨⟨k, v⟩, hmem, rfl⟩
    exact ⟨v, get?_eq_some_iff.mpr hmem⟩
  · rintro ⟨v, hv⟩
    exact ⟨(key, v), get?_eq_some_iff.mp hv, rfl⟩

/-- A set is what it contains. -/
theorem ext_contains [TransOrd α] [LawfulEqOrd α] {set other : SortedSet α}
    (h : ∀ x, contains set x = contains other x) : set = other := by
  apply ext_get?
  intro x
  have hx : (get? set x).isSome = (get? other x).isSome := h x
  match get? set x, get? other x, hx with
  | none, none, _ => rfl
  | some (), some (), _ => rfl

theorem pairwise_keys (map : SortedMap α β) :
    map.keys.Pairwise fun a b => compare a b = .lt :=
  List.pairwise_map.mpr map.sorted

theorem length_keys (map : SortedMap α β) : map.keys.length = map.size :=
  List.length_map _

/-- What is inserted at a key without a value is one more entry. -/
theorem entries_insert [TransOrd α] [LawfulEqOrd α] {map : SortedMap α β}
    {key : α} (value : β) (h : map.get? key = none) :
    (map.insert key value).entries.Perm ((key, value) :: map.entries) := by
  obtain ⟨entries, sorted⟩ := map
  induction entries with
  | nil => exact List.Perm.refl _
  | cons entry rest ih =>
      obtain ⟨k, v⟩ := entry
      have hlookup : lookup key ((k, v) :: rest) = none := h
      show (change key (fun _ => value) ((k, v) :: rest)).Perm _
      rw [lookup] at hlookup
      rw [change]
      split at hlookup
      · exact List.Perm.refl _
      · cases hlookup
      · exact ((ih (List.pairwise_cons.mp sorted).2 hlookup).cons _).trans
          (List.Perm.swap ..)

end SortedMap

/-! ## Listings

The one rising list of everything that satisfies a property. Whatever an index
lists is one, so what it lists is settled by saying which property. -/

/-- A list holds exactly what satisfies a property, each once and in rising
order. -/
structure Lists {α : Type u} [LT α] (xs : List α) (P : α → Prop) : Prop where
  rising : xs.Pairwise (· < ·)
  mem_iff : ∀ x, x ∈ xs ↔ P x

theorem Lists.congr {α : Type u} [LT α] {xs : List α} {P Q : α → Prop}
    (h : Lists xs P) (hiff : ∀ x, P x ↔ Q x) : Lists xs Q :=
  ⟨h.rising, fun x => (h.mem_iff x).trans (hiff x)⟩

/-- A listing of the members of a list is as long as the set of them is
large. -/
theorem Lists.length_eq_card {α : Type u} [LinearOrder α] {xs ys : List α}
    (h : Lists xs (· ∈ ys)) : xs.length = ys.toFinset.card := by
  have hnodup : xs.Nodup := h.rising.imp ne_of_lt
  have hset : xs.toFinset = ys.toFinset := by
    ext x
    rw [List.mem_toFinset, List.mem_toFinset, h.mem_iff]
  rw [← hset, List.toFinset_card_of_nodup hnodup]

namespace SortedMap

theorem nodup_keys {α : Type u} {β : Type v} [LinearOrder α]
    (map : SortedMap α β) :
    map.keys.Nodup :=
  map.pairwise_keys.imp fun hlt => (compare_lt_iff_lt.mp hlt).ne

/-- The keys of a map list what the map holds something at. -/
theorem lists_keys {α : Type u} {β : Type v} [LinearOrder α] [TransOrd α]
    [LawfulEqOrd α] {map : SortedMap α β} {P : α → Prop}
    (h : ∀ key, map.contains key = true ↔ P key) :
    Lists map.keys P where
  rising := map.pairwise_keys.imp fun hlt => compare_lt_iff_lt.mp hlt
  mem_iff key := mem_keys.trans (h key)

end SortedMap

end Concordance
