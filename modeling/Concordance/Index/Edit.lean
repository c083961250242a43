import Concordance.Index.Basic

/-!
# Building an index step by step

An index is built by edits. An edit may itself hold the edits of another
index that is built on the side and then taken in, to any depth.

What the edits record is independent of how they are nested: each amounts to
a list of records, one for every token. An edit that takes in a copy of the
index itself records again all that was recorded before it.
-/

namespace Concordance

/-- One token: a term, where it occurs and at which position. -/
structure Record where
  term : Term
  location : Location
  position : Nat
deriving DecidableEq, Repr

inductive Edit where
  | add (term : Term) (location : Location) (position : Nat)
  | addAll (terms : List Term) (location : Location) (start : Nat)
  | merge (edits : List Edit)
  | mergeSelf

mutual

/-- What an edit makes of an index. -/
def Edit.apply (index : Index) : Edit → Index
  | .add term location position => index.add term location position
  | .addAll terms location start => index.addAll terms location start
  | .merge edits => index.merge (Edit.applyAll .empty edits)
  | .mergeSelf => index.merge index

/-- What a list of edits makes of an index. -/
def Edit.applyAll (index : Index) : List Edit → Index
  | [] => index
  | edit :: edits => Edit.applyAll (edit.apply index) edits

end

/-- The index that a list of edits builds. -/
def Index.ofEdits (edits : List Edit) : Index := Edit.applyAll .empty edits

/-- The records of terms at consecutive positions. -/
def recordRun (location : Location) : List Term → Nat → List Record
  | [], _ => []
  | term :: rest, start => ⟨term, location, start⟩ :: recordRun location rest (start + 1)

mutual

/-- All records there are after an edit, given those before it. -/
def Edit.records (before : List Record) : Edit → List Record
  | .add term location position => before ++ [⟨term, location, position⟩]
  | .addAll terms location start => before ++ recordRun location terms start
  | .merge edits => before ++ Edit.allRecords [] edits
  | .mergeSelf => before ++ before

/-- All records there are after a list of edits, given those before it. -/
def Edit.allRecords (before : List Record) : List Edit → List Record
  | [] => before
  | edit :: edits => Edit.allRecords (edit.records before) edits

end

end Concordance
