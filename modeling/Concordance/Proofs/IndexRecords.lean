import Concordance.Index.Edit
import Concordance.Proofs.SortedMerge

/-!
# An index is its records

However an index was put together, by single tokens, by runs of them, or by
merging other indexes that were put together in any of these ways, it is the
index that records the same tokens one after the other: `ofEdits_eq`. And in
which order they are recorded does not matter: `recordAll_perm`. So two
programs of edits that record the same tokens, each as often as the other,
build the same index.

The first half needs one law, that a token can be recorded before or after a
merge. The second needs that two tokens can be recorded in either order. Both
are laws of sorted maps, used at three levels: terms, locations, positions.
The totals are a map of their own beside these, and follow the same laws with
addition for union. They are counted modulo 2^64, which the equalities do not
notice; only what a total says as a number needs a bound.
-/

namespace Concordance

universe u v

/-! ## One record at a time -/

namespace SortedSet

/-- Joining with a set and adding an element to it can change places. -/
theorem union_add (set other : SortedSet Nat) (x : Nat) :
    set.union (other.add x) = (set.union other).add x :=
  SortedMap.merge_update (fun _ => rfl) (fun _ _ => rfl) set other x

theorem add_comm (set : SortedSet Nat) (x y : Nat) :
    (set.add x).add y = (set.add y).add x :=
  SortedMap.update_comm (fun _ _ => rfl) set

theorem contains_add (set : SortedSet Nat) (x y : Nat) :
    SortedMap.contains (set.add x) y = true ↔
      y = x ∨ SortedMap.contains set y = true :=
  SortedMap.contains_update set x y _

end SortedSet

namespace Occurrences

/-- What recording a position does to the occurrences of a term. -/
def place (occurrences : Occurrences) (location : Location) (position : Nat) :
    Occurrences :=
  occurrences.update location fun positions =>
    SortedSet.add (positions.getD .empty) position

theorem merge_place (occurrences other : Occurrences) (location : Location)
    (position : Nat) :
    occurrences.merge SortedSet.union (other.place location position) =
      place (occurrences.merge SortedSet.union other) location position := by
  apply SortedMap.merge_update
  · intro positions
    exact SortedSet.union_add positions .empty position
  · intro positions others
    exact SortedSet.union_add positions others position

theorem place_comm (occurrences : Occurrences) (l m : Location) (p q : Nat) :
    (occurrences.place l p).place m q = (occurrences.place m q).place l p := by
  apply SortedMap.update_comm
  intro _ positions
  exact SortedSet.add_comm (positions.getD .empty) p q

end Occurrences

/-- All tokens of a run are at its location. -/
theorem location_recordRun (location : Location) (tokens : List Term) :
    ∀ start : Nat, ∀ r ∈ recordRun location tokens start,
      r.location = location := by
  induction tokens with
  | nil =>
      intro start r hr
      cases hr
  | cons token tokens ih =>
      intro start r hr
      rcases List.mem_cons.mp hr with rfl | hr
      · rfl
      · exact ih (start + 1) r hr

namespace Index

/-- Recording a token and merging into another index can change places. -/
theorem merge_add (index other : Index) (term : Term) (location : Location)
    (position : Nat) :
    index.merge (other.add term location position) =
      (index.merge other).add term location position := by
  apply congrArg₂ Index.mk
  · apply SortedMap.merge_update
    · intro occurrences
      exact Occurrences.merge_place occurrences .empty location position
    · intro occurrences others
      exact Occurrences.merge_place occurrences others location position
  · apply SortedMap.merge_update
    · intro total
      exact congrArg (total + ·) (UInt64.zero_add 1)
    · intro total more
      exact (UInt64.add_assoc total more 1).symm

theorem merge_empty (index : Index) : index.merge .empty = index := rfl

/-- Records one token. -/
def record (index : Index) (r : Record) : Index :=
  index.add r.term r.location r.position

/-- Records tokens in order. -/
def recordAll (index : Index) (records : List Record) : Index :=
  records.foldl record index

theorem record_comm (index : Index) (r s : Record) :
    (index.record r).record s = (index.record s).record r := by
  apply congrArg₂ Index.mk
  · apply SortedMap.update_comm
    intro _ occurrences
    exact Occurrences.place_comm (occurrences.getD .empty) r.location s.location
      r.position s.position
  · apply SortedMap.update_comm
    intro _ total
    rfl

theorem recordAll_append (index : Index) (xs ys : List Record) :
    index.recordAll (xs ++ ys) = (index.recordAll xs).recordAll ys :=
  List.foldl_append

/-- The order of recording does not matter. -/
theorem recordAll_perm (index : Index) {xs ys : List Record} (h : xs.Perm ys) :
    index.recordAll xs = index.recordAll ys :=
  h.foldl_eq' (fun r _ s _ before => record_comm before r s) index

theorem merge_recordAll (index other : Index) (records : List Record) :
    index.merge (other.recordAll records) =
      (index.merge other).recordAll records := by
  induction records generalizing other with
  | nil => rfl
  | cons r rest ih =>
      show index.merge ((other.record r).recordAll rest) =
        ((index.merge other).record r).recordAll rest
      rw [ih (other.record r)]
      exact congrArg (recordAll · rest)
        (merge_add index other r.term r.location r.position)

theorem addAll_eq_recordAll (terms : List Term) (location : Location) :
    ∀ (index : Index) (start : Nat),
      index.addAll terms location start =
        index.recordAll (recordRun location terms start) := by
  induction terms with
  | nil => intro index start; rfl
  | cons term rest ih =>
      intro index start
      exact ih (index.add term location start) (start + 1)

end Index

/-! ## Edits record -/

mutual

theorem Edit.apply_recordAll (before : List Record) (edit : Edit) :
    edit.apply (Index.empty.recordAll before) =
      Index.empty.recordAll (edit.records before) := by
  match edit with
  | .add term location position =>
      rw [Edit.apply, Edit.records, Index.recordAll_append]
      rfl
  | .addAll terms location start =>
      rw [Edit.apply, Edit.records, Index.recordAll_append,
        Index.addAll_eq_recordAll]
  | .merge edits =>
      have hedits : Edit.applyAll .empty edits =
          Index.empty.recordAll (Edit.allRecords [] edits) :=
        Edit.applyAll_recordAll [] edits
      rw [Edit.apply, Edit.records, Index.recordAll_append, hedits,
        Index.merge_recordAll, Index.merge_empty]
  | .mergeSelf =>
      rw [Edit.apply, Edit.records, Index.recordAll_append,
        Index.merge_recordAll, Index.merge_empty]

theorem Edit.applyAll_recordAll (before : List Record) (edits : List Edit) :
    Edit.applyAll (Index.empty.recordAll before) edits =
      Index.empty.recordAll (Edit.allRecords before edits) := by
  match edits with
  | [] => rw [Edit.applyAll, Edit.allRecords]
  | edit :: rest =>
      rw [Edit.applyAll, Edit.allRecords, Edit.apply_recordAll before edit]
      exact Edit.applyAll_recordAll (edit.records before) rest

end

/-- A program of edits builds the index of the tokens that it records. -/
theorem ofEdits_eq (edits : List Edit) :
    Index.ofEdits edits = Index.empty.recordAll (Edit.allRecords [] edits) :=
  Edit.applyAll_recordAll [] edits

namespace Index

/-! ## What an index tells after one more record

Every look-up goes down through terms, locations and positions to some depth.
The two lemmas about the inner maps say what recording changes on each level;
the rest of the section only reads them off. -/

theorem occurrences_add (index : Index) (t t' : Term) (l : Location) (p : Nat) :
    (index.add t l p).occurrences t' =
      if t' = t then (index.occurrences t).place l p
      else index.occurrences t' := by
  unfold occurrences add
  simp only []
  rw [SortedMap.get?_update]
  by_cases ht : t' = t
  · rw [if_pos ht, if_pos ht]; rfl
  · rw [if_neg ht, if_neg ht]

theorem positionSet_add (index : Index) (t t' : Term) (l l' : Location)
    (p : Nat) :
    (index.add t l p).positionSet t' l' =
      if t' = t ∧ l' = l then (index.positionSet t l).add p
      else index.positionSet t' l' := by
  unfold positionSet
  rw [occurrences_add]
  by_cases ht : t' = t
  · subst ht
    rw [if_pos rfl, Occurrences.place, SortedMap.get?_update]
    by_cases hl : l' = l
    · rw [if_pos hl, if_pos ⟨rfl, hl⟩]; rfl
    · rw [if_neg hl, if_neg fun h => hl h.2]
  · rw [if_neg ht, if_neg fun h => ht h.1]

theorem total_add (index : Index) (t : Term) (l l' : Location) (p : Nat) :
    (index.add t l p).total l' =
      if l = l' then index.total l' + 1 else index.total l' := by
  unfold total add
  simp only []
  rw [SortedMap.get?_update]
  by_cases hl : l = l'
  · subst hl
    rw [if_pos rfl, if_pos rfl]; rfl
  · rw [if_neg hl, if_neg (Ne.symm hl)]

theorem contains_record (index : Index) (t : Term) (r : Record) :
    (index.record r).contains t = true ↔
      r.term = t ∨ index.contains t = true := by
  rw [eq_comm (a := r.term)]
  exact SortedMap.contains_update index.postings r.term t _

theorem containsAt_record (index : Index) (t : Term) (l : Location)
    (r : Record) :
    (index.record r).containsAt t l = true ↔
      (r.term = t ∧ r.location = l) ∨ index.containsAt t l = true := by
  unfold containsAt record
  rw [occurrences_add]
  by_cases ht : t = r.term
  · subst ht
    rw [if_pos rfl, Occurrences.place, SortedMap.contains_update,
      eq_comm (a := l)]
    simp only [true_and]
  · rw [if_neg ht]
    simp only [Ne.symm ht, false_and, false_or]

theorem containsPosition_record (index : Index) (t : Term) (l : Location)
    (p : Nat) (r : Record) :
    (index.record r).containsPosition t l p = true ↔
      r = ⟨t, l, p⟩ ∨ index.containsPosition t l p = true := by
  obtain ⟨rt, rl, rp⟩ := r
  unfold containsPosition record
  rw [positionSet_add, Record.mk.injEq]
  by_cases h : t = rt ∧ l = rl
  · obtain ⟨rfl, rfl⟩ := h
    rw [if_pos ⟨rfl, rfl⟩, SortedSet.contains_add, eq_comm (a := p)]
    simp only [true_and]
  · rw [if_neg h]
    have hne : ¬(rt = t ∧ rl = l ∧ rp = p) :=
      fun he => h ⟨he.1.symm, he.2.1.symm⟩
    simp only [hne, false_or]

theorem counted_record (index : Index) (l : Location) (r : Record) :
    (index.record r).totals.contains l = true ↔
      r.location = l ∨ index.totals.contains l = true := by
  rw [eq_comm (a := r.location)]
  exact SortedMap.contains_update index.totals r.location l _

/-- What holds of an index once a token of some kind was recorded, and only
then, holds after a list of records if one of them is of that kind. -/
theorem recordAll_iff {Q : Index → Prop} {P : Record → Prop}
    (h : ∀ index r, Q (index.record r) ↔ P r ∨ Q index) (hempty : ¬Q .empty)
    (records : List Record) :
    Q (Index.empty.recordAll records) ↔ ∃ r ∈ records, P r := by
  have hall : ∀ index, Q (recordAll index records) ↔
      (∃ r ∈ records, P r) ∨ Q index := by
    induction records with
    | nil => intro index; simp [recordAll]
    | cons r rest ih =>
        intro index
        show Q ((index.record r).recordAll rest) ↔ _
        rw [ih, h]
        simp only [List.mem_cons, exists_eq_or_imp]
        rw [or_left_comm, or_assoc]
  rw [hall, or_iff_left hempty]

theorem total_recordAll (records : List Record) (l : Location) :
    ∀ index : Index, (index.recordAll records).total l =
      index.total l + UInt64.ofNat (records.countP (·.location = l)) := by
  induction records with
  | nil => intro index; exact (UInt64.add_zero _).symm
  | cons r rest ih =>
      intro index
      show ((index.record r).recordAll rest).total l = _
      rw [ih, record, total_add, List.countP_cons]
      by_cases hl : r.location = l
      · simp only [hl, if_true, decide_true]
        rw [UInt64.add_assoc, UInt64.ofNat_add, UInt64.add_comm 1]
        rfl
      · simp only [hl, if_false, decide_false, Bool.false_eq_true, Nat.add_zero]

/-- Tokens that are recorded elsewhere leave a location as it was. -/
theorem recordAll_elsewhere {location : Location} {records : List Record}
    (h : ∀ r ∈ records, r.location ≠ location) :
    ∀ index : Index,
      (∀ term, ((index.recordAll records).occurrences term).get? location =
        (index.occurrences term).get? location) ∧
      (index.recordAll records).totals.get? location =
        index.totals.get? location := by
  induction records with
  | nil => exact fun index => ⟨fun _ => rfl, rfl⟩
  | cons r records ih =>
      intro index
      have hne : location ≠ r.location :=
        (h r (List.mem_cons_self ..)).symm
      obtain ⟨hterms, htotal⟩ := ih
        (fun other hother => h other (List.mem_cons_of_mem _ hother))
        (index.record r)
      constructor
      · intro term
        refine (hterms term).trans ?_
        rw [record, occurrences_add]
        split
        · next heq => rw [heq, Occurrences.place, SortedMap.get?_update,
            if_neg hne]
        · rfl
      · refine htotal.trans ?_
        rw [record, add, SortedMap.get?_update, if_neg hne]

/-! ## Nothing is left empty -/

/-- No term is without a location, and none has a location without a
position. -/
def Full (index : Index) : Prop :=
  ∀ t occurrences, index.postings.get? t = some occurrences →
    occurrences.isEmpty = false ∧
      ∀ l positions, occurrences.get? l = some positions →
        SortedMap.isEmpty positions = false

end Index

theorem SortedMap.isEmpty_update {α : Type u} {β : Type v} [Ord α]
    [Std.TransOrd α] (map : SortedMap α β) (key : α) (f : Option β → β) :
    (map.update key f).isEmpty = false := by
  obtain ⟨entries, sorted⟩ := map
  show (SortedMap.change key f entries).isEmpty = false
  cases entries with
  | nil => rfl
  | cons entry rest =>
      rw [SortedMap.change]
      split <;> rfl

namespace Index

theorem full_record {index : Index} (h : index.Full) (r : Record) :
    (index.record r).Full := by
  intro t occurrences ht
  rw [record, add, SortedMap.get?_update] at ht
  by_cases hterm : t = r.term
  · rw [if_pos hterm, Option.some.injEq] at ht
    subst ht
    refine ⟨SortedMap.isEmpty_update _ _ _, ?_⟩
    intro l positions hl
    rw [SortedMap.get?_update] at hl
    by_cases hloc : l = r.location
    · rw [if_pos hloc, Option.some.injEq] at hl
      subst hl
      exact SortedMap.isEmpty_update _ _ _
    · rw [if_neg hloc] at hl
      cases hold : index.postings.get? r.term with
      | none => rw [hold] at hl; cases hl
      | some old =>
          rw [hold] at hl
          exact (h r.term old hold).2 l positions hl
  · rw [if_neg hterm] at ht
    exact h t occurrences ht

theorem full_recordAll (records : List Record) :
    ∀ {index : Index}, index.Full → (index.recordAll records).Full := by
  induction records with
  | nil => intro index h; exact h
  | cons r rest ih => intro index h; exact ih (full_record h r)

/-! ## An index describes its records -/

/-- All that an index tells is what a list of records says. Which terms occur,
at which locations and positions, is a matter of which records there are; the
total of a location is a matter of how many. -/
structure Describes (index : Index) (records : List Record) : Prop where
  containsPosition : ∀ t l p, index.containsPosition t l p = true ↔
    ⟨t, l, p⟩ ∈ records
  containsAt : ∀ t l, index.containsAt t l = true ↔
    ∃ r ∈ records, r.term = t ∧ r.location = l
  contains : ∀ t, index.contains t = true ↔ ∃ r ∈ records, r.term = t
  total : ∀ l, (index.total l).toNat = records.countP (·.location = l)
  counted : Lists index.totals.keys fun l => ∃ r ∈ records, r.location = l
  words : Lists index.words fun t => ∃ r ∈ records, r.term = t
  locations : ∀ t, Lists (index.locations t) fun l =>
    ∃ r ∈ records, r.term = t ∧ r.location = l
  positions : ∀ t l, Lists (index.positions t l) fun p => ⟨t, l, p⟩ ∈ records
  size : index.size = (records.map Record.term).toFinset.card
  locationCount : ∀ t, index.locationCount t =
    ((records.filter (·.term = t)).map Record.location).toFinset.card
  positionCount : ∀ t l, index.positionCount t l =
    ((records.filter fun r => r.term = t ∧ r.location = l).map
      Record.position).toFinset.card
  full : index.Full

theorem describes_recordAll {records : List Record}
    (hfew : ∀ l, records.countP (·.location = l) < 2 ^ 64) :
    (Index.empty.recordAll records).Describes records := by
  have hposition : ∀ t l p,
      (Index.empty.recordAll records).containsPosition t l p = true ↔
        ⟨t, l, p⟩ ∈ records := by
    intro t l p
    rw [recordAll_iff (Q := (containsPosition · t l p = true))
      (fun index r => containsPosition_record index t l p r) Bool.false_ne_true]
    simp only [exists_eq_right]
  have hat : ∀ t l, (Index.empty.recordAll records).containsAt t l = true ↔
      ∃ r ∈ records, r.term = t ∧ r.location = l := fun t l =>
    recordAll_iff (Q := (containsAt · t l = true))
      (fun index r => containsAt_record index t l r) Bool.false_ne_true records
  have hterm : ∀ t, (Index.empty.recordAll records).contains t = true ↔
      ∃ r ∈ records, r.term = t := fun t =>
    recordAll_iff (Q := (contains · t = true))
      (fun index r => contains_record index t r) Bool.false_ne_true records
  have hcounted : ∀ l,
      (Index.empty.recordAll records).totals.contains l = true ↔
        ∃ r ∈ records, r.location = l := fun l =>
    recordAll_iff (Q := fun index => index.totals.contains l = true)
      (fun index r => counted_record index l r) Bool.false_ne_true records
  have hwords := SortedMap.lists_keys hterm
  have hlocations := fun t => SortedMap.lists_keys (hat t)
  have hpositions := fun t l => SortedMap.lists_keys (hposition t l)
  exact {
    containsPosition := hposition
    containsAt := hat
    contains := hterm
    total := by
      intro l
      rw [total_recordAll]
      show (0 + UInt64.ofNat _).toNat = _
      rw [UInt64.zero_add, UInt64.toNat_ofNat_of_lt' (hfew l)]
    counted := SortedMap.lists_keys hcounted
    words := hwords
    locations := hlocations
    positions := hpositions
    size := by
      rw [size, ← SortedMap.length_keys]
      apply Lists.length_eq_card
      exact hwords.congr fun t => by rw [List.mem_map]
    locationCount := by
      intro t
      rw [locationCount, ← SortedMap.length_keys]
      apply Lists.length_eq_card
      exact (hlocations t).congr fun l => by simp [and_assoc]
    positionCount := by
      intro t l
      rw [positionCount, ← SortedMap.length_keys]
      apply Lists.length_eq_card
      refine (hpositions t l).congr fun p => ?_
      simp only [List.mem_map, List.mem_filter, decide_eq_true_eq]
      constructor
      · intro hmem
        exact ⟨⟨t, l, p⟩, ⟨hmem, rfl, rfl⟩, rfl⟩
      · rintro ⟨r, ⟨hmem, rfl, rfl⟩, rfl⟩
        exact hmem
    full := full_recordAll records fun t occurrences h => by cases h }

end Index

/-- What a program of edits builds depends on nothing but the tokens that it
records, in whatever order and however they are nested, as long as no location
has so many of them that its total runs over. -/
theorem ofEdits_describes (edits : List Edit)
    (hfew : ∀ l, (Edit.allRecords [] edits).countP (·.location = l) < 2 ^ 64) :
    (Index.ofEdits edits).Describes (Edit.allRecords [] edits) ∧
      ∀ others, (Edit.allRecords [] others).Perm (Edit.allRecords [] edits) →
        Index.ofEdits others = Index.ofEdits edits := by
  constructor
  · rw [ofEdits_eq]
    exact Index.describes_recordAll hfew
  · intro others hperm
    rw [ofEdits_eq, ofEdits_eq]
    exact Index.recordAll_perm .empty hperm

/-- Two tokens, one of which is recorded six times over in the end. -/
def nestedEdits : List Edit :=
  [.addAll ["b", "a"] "x" 1, .merge [.add "a" "x" 2, .mergeSelf], .mergeSelf]

/-- The same tokens without any merging, in another order. -/
def flatEdits : List Edit :=
  [.add "a" "x" 2, .add "a" "x" 2, .addAll ["b", "a"] "x" 1, .add "a" "x" 2,
    .add "a" "x" 2, .addAll ["b", "a"] "x" 1]

theorem nestedEdits_eq_flatEdits :
    (∀ l, (Edit.allRecords [] nestedEdits).countP (·.location = l) < 2 ^ 64) ∧
      (Edit.allRecords [] flatEdits).Perm (Edit.allRecords [] nestedEdits) ∧
      Index.ofEdits flatEdits = Index.ofEdits nestedEdits ∧
      (Index.ofEdits nestedEdits).positions "a" "x" = [2] ∧
      ((Index.ofEdits nestedEdits).total "x").toNat = 8 := by
  have hfew : ∀ l, (Edit.allRecords [] nestedEdits).countP (·.location = l) <
      2 ^ 64 := fun l =>
    Nat.lt_of_le_of_lt List.countP_le_length (by decide)
  have hperm : (Edit.allRecords [] flatEdits).Perm
      (Edit.allRecords [] nestedEdits) := by decide
  obtain ⟨hdescribes, hsame⟩ := ofEdits_describes nestedEdits hfew
  exact ⟨hfew, hperm, hsame flatEdits hperm, by decide, by
    rw [hdescribes.total]; decide⟩

end Concordance
