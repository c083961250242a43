import Concordance.Index.Checked
import Concordance.Proofs.HitBounds
import Concordance.Proofs.LocalHits

/-!
# Totals count up to 2^64 tokens

Every token that is recorded adds one to the total of its location, and an
index that is taken in adds its totals. A total has 64 bits. If additions are
not checked it is the number of tokens modulo 2^64, so at a location with terms
it is zero if that number is a multiple of 2^64, and only then. If they are
checked a program stops at the first that runs over.

A token that was counted is never taken back, so the numbers of tokens only
grow, and a program stops if and only if some number has grown too large in the
end (`applyAllChecked_recordAll`). A program that does not stop has built the
same index as one without checks, and there all totals are exact.

It takes 2^64 tokens to get there, but not as many edits: each merge of an index
with itself doubles all totals. Without such merges a program has to write out
its tokens one by one (`length_allRecords_le`).
-/

namespace Concordance

/-! ## Counting with checks -/

/-- A program comes to its end, and to an index, if something is so, and is
stopped otherwise. -/
inductive EndsIf (fits : Prop) (done : Index) : Index × Bool → Prop where
  | ended (h : fits) : EndsIf fits done (done, true)
  | stopped (h : ¬fits) (left : Index) : EndsIf fits done (left, false)

section

variable {fits fits' : Prop} {done done' : Index} {outcome : Index × Bool}

theorem EndsIf.congr (h : EndsIf fits done outcome) (hfits : fits ↔ fits')
    (hdone : done = done') : EndsIf fits' done' outcome := by
  subst hdone
  cases h with
  | ended hends => exact .ended (hfits.mp hends)
  | stopped hstops left => exact .stopped (mt hfits.mpr hstops) left

theorem EndsIf.andThen {next : Index → Index × Bool}
    (h : EndsIf fits done outcome) (hgrows : fits' → fits)
    (hnext : fits → EndsIf fits' done' (next done)) :
    EndsIf fits' done' (Index.andThen next outcome) := by
  cases h with
  | ended hends => exact hnext hends
  | stopped hstops left => exact .stopped (mt hgrows hstops) left

end

namespace Index

/-- An index with tokens counted, however many. -/
def counted (index : Index) (location : Location) (more : UInt64) : Index :=
  { index with
    totals := index.totals.update location fun total => total.getD 0 + more }

theorem endsIf_count (index : Index) (location : Location) (more : UInt64) :
    EndsIf (index.hasRoom location more = true) (index.counted location more)
      (index.count location more) := by
  unfold count
  split
  · next h => exact .ended h
  · next h => exact .stopped h index

theorem hasRoom_iff (index : Index) (location : Location) (more : UInt64) :
    index.hasRoom location more = true ↔
      (index.total location).toNat + more.toNat < 2 ^ 64 :=
  decide_eq_true_iff

/-- Counting at one location leaves the room at others. -/
theorem hasRoom_counted (index : Index) {location other : Location}
    (h : other ≠ location) (more more' : UInt64) :
    (index.counted location more).hasRoom other more' =
      index.hasRoom other more' := by
  have htotal : (index.counted location more).total other = index.total other := by
    rw [total, counted, SortedMap.get?_update, if_neg h, total]
  rw [hasRoom, htotal, hasRoom]

/-- Tokens are counted at all of some locations if there is room at each. -/
theorem endsIf_countAll {entries : List (Location × UInt64)}
    (hkeys : entries.Pairwise (·.1 ≠ ·.1)) : ∀ index : Index,
    EndsIf (∀ entry ∈ entries, index.hasRoom entry.1 entry.2 = true)
      (entries.foldl (fun index entry => index.counted entry.1 entry.2) index)
      (index.countAll entries) := by
  induction entries with
  | nil => exact fun index => .ended nofun
  | cons entry rest ih =>
      intro index
      obtain ⟨hnew, hrest⟩ := List.pairwise_cons.mp hkeys
      have hlater : (∀ later ∈ rest,
            (index.counted entry.1 entry.2).hasRoom later.1 later.2 = true) ↔
          ∀ later ∈ rest, index.hasRoom later.1 later.2 = true :=
        forall₂_congr fun later hmem => by
          rw [hasRoom_counted index (hnew later hmem).symm]
      refine (endsIf_count index entry.1 entry.2).andThen
        (fun hall => hall entry (List.mem_cons_self ..)) fun hroom => ?_
      refine (ih hrest _).congr ?_ rfl
      rw [hlater, List.forall_mem_cons]
      exact (and_iff_right hroom).symm

theorem endsIf_addChecked (index : Index) (term : Term) (location : Location)
    (position : Nat) :
    EndsIf (index.hasRoom location 1 = true) (index.add term location position)
      (index.addChecked term location position) :=
  endsIf_count { index with
    postings := (index.add term location position).postings } location 1

theorem foldl_counted (entries : List (Location × UInt64)) :
    ∀ index : Index,
      entries.foldl (fun index entry => index.counted entry.1 entry.2) index =
      { index with
        totals := entries.foldl (fun totals entry =>
          totals.update entry.1 fun old => old.elim entry.2 (· + entry.2))
            index.totals } := by
  induction entries with
  | nil => exact fun _ => rfl
  | cons entry rest ih =>
      intro index
      have hadds : (fun total : Option UInt64 => total.getD 0 + entry.2) =
          fun old => old.elim entry.2 (· + entry.2) := by
        funext total
        cases total with
        | none => exact UInt64.zero_add entry.2
        | some total => rfl
      rw [List.foldl_cons, List.foldl_cons, ih, ← hadds]
      rfl

theorem endsIf_mergeChecked (index other : Index) :
    EndsIf (∀ entry ∈ other.totals.entries,
        index.hasRoom entry.1 entry.2 = true)
      (index.merge other) (index.mergeChecked other) := by
  have hkeys : other.totals.entries.Pairwise (·.1 ≠ ·.1) :=
    other.totals.sorted.imp fun hlt heq => by simp [heq] at hlt
  refine (endsIf_countAll hkeys _).congr Iff.rfl ?_
  rw [foldl_counted]
  rfl

end Index

/-- No location has more tokens than can be counted. -/
def InRange (records : List Record) : Prop :=
  ∀ location, records.countP (·.location = location) < 2 ^ 64

/-- With checks, a program records some tokens. -/
def CheckedAs (records : List Record) : Index × Bool → Prop :=
  EndsIf (InRange records) (Index.empty.recordAll records)

section

variable {before after others : List Record}

theorem InRange.of_begins (h : InRange after) (hbegins : before <+: after) :
    InRange before := fun location =>
  Nat.lt_of_le_of_lt hbegins.sublist.countP_le (h location)

theorem InRange.toNat_total (h : InRange before) (location : Location) :
    ((Index.empty.recordAll before).total location).toNat =
      before.countP (·.location = location) :=
  (Index.describes_recordAll h).total location

/-! ## One edit -/

theorem checkedAs_addChecked (h : InRange before) (r : Record) :
    CheckedAs (before ++ [r])
      ((Index.empty.recordAll before).addChecked r.term r.location
        r.position) := by
  have hrecord : (Index.empty.recordAll before).add r.term r.location
      r.position = Index.empty.recordAll (before ++ [r]) :=
    (Index.recordAll_append .empty before [r]).symm
  refine (Index.endsIf_addChecked ..).congr ?_ hrecord
  simp only [Index.hasRoom_iff, h.toNat_total, decide_eq_true_eq, InRange,
    List.countP_append, List.countP_singleton]
  constructor
  · intro hroom location
    split
    · next heq => exact heq ▸ hroom
    · exact h location
  · intro hall
    simpa using hall r.location

theorem checkedAs_addAllChecked (location : Location) (terms : List Term) :
    ∀ {before : List Record} (start : Nat), InRange before →
      CheckedAs (before ++ recordRun location terms start)
        ((Index.empty.recordAll before).addAllChecked terms location
          start) := by
  induction terms with
  | nil =>
      intro before start h
      rw [recordRun, List.append_nil]
      exact .ended h
  | cons term rest ih =>
      intro before start h
      rw [recordRun, List.append_cons]
      exact (checkedAs_addChecked h ⟨term, location, start⟩).andThen
        (·.of_begins (List.prefix_append _ _)) (ih (start + 1))

/-- Every total of another index can be added if and only if this holds of all
locations. -/
theorem forall_hasRoom_iff (index other : Index) :
    (∀ entry ∈ other.totals.entries,
      index.hasRoom entry.1 entry.2 = true) ↔
      ∀ location,
        (index.total location).toNat + (other.total location).toNat <
          2 ^ 64 := by
  simp only [Index.hasRoom_iff, Prod.forall]
  constructor
  · intro hall location
    cases hget : other.totals.get? location with
    | none =>
        rw [Index.total, Index.total, hget]
        exact UInt64.toNat_lt _
    | some more =>
        have htotal : other.total location = more := by
          rw [Index.total, hget, Option.getD_some]
        rw [htotal]
        exact hall location more (SortedMap.get?_eq_some_iff.mp hget)
  · intro hall location more hmem
    have htotal : other.total location = more := by
      rw [Index.total, SortedMap.get?_eq_some_iff.mpr hmem, Option.getD_some]
    exact htotal ▸ hall location

theorem checkedAs_mergeChecked (hbefore : InRange before)
    (hothers : InRange others) :
    CheckedAs (before ++ others)
      ((Index.empty.recordAll before).mergeChecked
        (Index.empty.recordAll others)) := by
  have hmerge : (Index.empty.recordAll before).merge
      (Index.empty.recordAll others) =
        Index.empty.recordAll (before ++ others) := by
    rw [Index.merge_recordAll, Index.merge_empty, Index.recordAll_append]
  refine (Index.endsIf_mergeChecked _ _).congr
    ((forall_hasRoom_iff _ _).trans (forall_congr' fun l => ?_)) hmerge
  rw [hbefore.toNat_total, hothers.toNat_total, List.countP_append]

end

/-! ## Programs of edits -/

theorem inRange_nil : InRange [] := fun _ => by simp

mutual

theorem Edit.applyChecked_recordAll {before : List Record} (h : InRange before)
    (edit : Edit) :
    CheckedAs (edit.records before)
      (edit.applyChecked (Index.empty.recordAll before)) := by
  match edit with
  | .add term location position =>
      rw [Edit.applyChecked, Edit.records]
      exact checkedAs_addChecked h ⟨term, location, position⟩
  | .addAll terms location start =>
      rw [Edit.applyChecked, Edit.records]
      exact checkedAs_addAllChecked location terms start h
  | .merge edits =>
      rw [Edit.applyChecked, Edit.records]
      have hside : CheckedAs (Edit.allRecords [] edits)
          (Edit.applyAllChecked .empty edits) :=
        Edit.applyAllChecked_recordAll inRange_nil edits
      generalize Edit.applyAllChecked .empty edits = built at hside
      cases hside with
      | ended hothers => exact checkedAs_mergeChecked h hothers
      | stopped hothers left =>
          -- What was built on the side would be a part of what there is then.
          refine .stopped (fun hall => hothers fun location => ?_) _
          exact Nat.lt_of_le_of_lt
            (List.sublist_append_right before _).countP_le (hall location)
  | .mergeSelf =>
      rw [Edit.applyChecked, Edit.records]
      exact checkedAs_mergeChecked h h

theorem Edit.applyAllChecked_recordAll {before : List Record}
    (h : InRange before) (edits : List Edit) :
    CheckedAs (Edit.allRecords before edits)
      (Edit.applyAllChecked (Index.empty.recordAll before) edits) := by
  match edits with
  | [] =>
      rw [Edit.applyAllChecked, Edit.allRecords]
      exact .ended h
  | edit :: rest =>
      rw [Edit.applyAllChecked, Edit.allRecords]
      exact (Edit.applyChecked_recordAll h edit).andThen
        (·.of_begins (Edit.prefix_allRecords _ rest))
        fun hnext => Edit.applyAllChecked_recordAll hnext rest

end

/-! ## How many edits it takes -/

mutual

/-- How many tokens are written out in an edit. -/
def Edit.written : Edit → Nat
  | .add .. => 1
  | .addAll terms .. => terms.length
  | .merge edits => Edit.allWritten edits
  | .mergeSelf => 0

def Edit.allWritten : List Edit → Nat
  | [] => 0
  | edit :: edits => edit.written + Edit.allWritten edits

end

mutual

/-- How many times an index is merged with itself in an edit. -/
def Edit.doublings : Edit → Nat
  | .add .. | .addAll .. => 0
  | .merge edits => Edit.allDoublings edits
  | .mergeSelf => 1

def Edit.allDoublings : List Edit → Nat
  | [] => 0
  | edit :: edits => edit.doublings + Edit.allDoublings edits

end

mutual

theorem Edit.length_records_le (before : List Record) (edit : Edit) :
    (edit.records before).length ≤
      (before.length + edit.written) * 2 ^ edit.doublings := by
  match edit with
  | .add term location position =>
      simp [Edit.records, Edit.written, Edit.doublings]
  | .addAll terms location start =>
      have hrun := congrArg List.length
        (map_term_recordRun location terms start)
      rw [List.length_map] at hrun
      simp [Edit.records, Edit.written, Edit.doublings, hrun]
  | .merge edits =>
      have hside := Edit.length_allRecords_le [] edits
      rw [Edit.records, Edit.written, Edit.doublings, List.length_append,
        Nat.add_mul]
      rw [List.length_nil, Nat.zero_add] at hside
      exact Nat.add_le_add
        (Nat.le_mul_of_pos_right _ (Nat.two_pow_pos _)) hside
  | .mergeSelf =>
      rw [Edit.records, Edit.written, Edit.doublings, List.length_append]
      omega

theorem Edit.length_allRecords_le (before : List Record) (edits : List Edit) :
    (Edit.allRecords before edits).length ≤
      (before.length + Edit.allWritten edits) *
        2 ^ Edit.allDoublings edits := by
  match edits with
  | [] => simp [Edit.allRecords, Edit.allWritten, Edit.allDoublings]
  | edit :: rest =>
      rw [Edit.allRecords, Edit.allWritten, Edit.allDoublings]
      have hfirst := Edit.length_records_le before edit
      have hrest := Edit.length_allRecords_le (edit.records before) rest
      -- The first edit's doublings do no harm to what is written later.
      have hlater : Edit.allWritten rest ≤
          Edit.allWritten rest * 2 ^ edit.doublings :=
        Nat.le_mul_of_pos_right _ (Nat.two_pow_pos _)
      calc (Edit.allRecords (edit.records before) rest).length
          ≤ ((edit.records before).length + Edit.allWritten rest) *
              2 ^ Edit.allDoublings rest := hrest
        _ ≤ ((before.length + edit.written) * 2 ^ edit.doublings +
              Edit.allWritten rest * 2 ^ edit.doublings) *
              2 ^ Edit.allDoublings rest :=
            Nat.mul_le_mul_right _ (Nat.add_le_add hfirst hlater)
        _ = _ := by rw [← Nat.add_mul, Nat.mul_assoc, ← Nat.pow_add,
            Nat.add_assoc]

end

/-! ## What the totals say -/

namespace Index

/-- A token, and then so many merges of the index with itself. -/
def doubled (times : Nat) : List Edit :=
  .add "a" "x" 1 :: List.replicate times .mergeSelf

/-- Another such index, with a token at one more location, taken in. -/
def joined : Edit := .merge (doubled 63 ++ [.add "b" "y" 1])

end Index

end Concordance
