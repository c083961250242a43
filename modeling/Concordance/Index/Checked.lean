import Concordance.Index.Edit

/-!
# Building an index with checked additions

A program can be built so that additions wrap around, as `Edit.apply` has it, or
so that they are checked. Then an addition that would run over stops the
program, and what was done before it stays done: terms are recorded before
tokens are counted, one location after the other.

An edit tells whether it came to its end. Of one that did not the index is what
was left behind. An index that was being built on the side is lost with the edit
that would have taken it in.
-/

namespace Concordance

namespace Index

/-- What is said when an addition runs over. -/
def overflowMessage : String := "attempt to add with overflow"

/-- Goes on with an index, unless the program was stopped. -/
def andThen (next : Index → Index × Bool) : Index × Bool → Index × Bool
  | (index, true) => next index
  | (index, false) => (index, false)

/-- Whether so many more tokens can be counted at a location. -/
def hasRoom (index : Index) (location : Location) (more : UInt64) : Bool :=
  (index.total location).toNat + more.toNat < UInt64.size

/-- Counts tokens at a location. -/
def count (index : Index) (location : Location) (more : UInt64) : Index × Bool :=
  if index.hasRoom location more then
    ({ index with totals := index.totals.update location fun total => total.getD 0 + more }, true)
  else (index, false)

/-- Counts tokens at one location after the other. -/
def countAll (index : Index) : List (Location × UInt64) → Index × Bool
  | [] => (index, true)
  | (location, more) :: rest => andThen (countAll · rest) (index.count location more)

/-- Records one token. -/
def addChecked (index : Index) (term : Term) (location : Location) (position : Nat) :
    Index × Bool :=
  count { index with postings := (index.add term location position).postings } location 1

/-- Records `terms` at consecutive positions from `start` on. -/
def addAllChecked (index : Index) (terms : List Term) (location : Location) (start : Nat) :
    Index × Bool :=
  match terms with
  | [] => (index, true)
  | term :: rest =>
    andThen (·.addAllChecked rest location (start + 1)) (index.addChecked term location start)

/-- Takes in all of another index. -/
def mergeChecked (index other : Index) : Index × Bool :=
  countAll { index with postings := (index.merge other).postings } other.totals.entries

end Index

mutual

/-- What an edit makes of an index, and whether it came to its end. -/
def Edit.applyChecked (index : Index) : Edit → Index × Bool
  | .add term location position => index.addChecked term location position
  | .addAll terms location start => index.addAllChecked terms location start
  | .merge edits =>
    match Edit.applyAllChecked .empty edits with
    | (other, true) => index.mergeChecked other
    | (_, false) => (index, false)
  | .mergeSelf => index.mergeChecked index

/-- What a list of edits makes of an index, and whether it came to its end. -/
def Edit.applyAllChecked (index : Index) : List Edit → Index × Bool
  | [] => (index, true)
  | edit :: edits => Index.andThen (Edit.applyAllChecked · edits) (edit.applyChecked index)

end

end Concordance
