import Concordance.Term

/-!
# The inverted index

An index says where each term occurs: at which locations, and there at which
positions. Beside that it keeps the number of tokens of each location. The
two are counted differently. Positions are a set, so recording a position
twice changes nothing; tokens are counted every time, so indexing a document
again doubles its total. Totals are 64-bit numbers, and here additions to them
wrap around; `Index.Checked` has the same with additions that are checked.

An index is only ever added to: a token at a time, a run of tokens at
consecutive positions, or all of another index.
-/

namespace Concordance

/-- The positions of one term, by location. -/
abbrev Occurrences := SortedMap Location (SortedSet Nat)

structure Index where
  /-- Where each term occurs. No entry is empty. -/
  postings : SortedMap Term Occurrences
  /-- The number of tokens recorded at each location. -/
  totals : SortedMap Location UInt64

namespace Index

def empty : Index := ⟨.empty, .empty⟩

instance : Inhabited Index := ⟨empty⟩

/-! ## Recording -/

/-- Records one token. -/
def add (index : Index) (term : Term) (location : Location) (position : Nat) : Index where
  postings := index.postings.update term fun occurrences =>
    (occurrences.getD .empty).update location fun positions =>
      SortedSet.add (positions.getD .empty) position
  totals := index.totals.update location fun total => total.getD 0 + 1

/-- Records `terms` at consecutive positions from `start` on. -/
def addAll (index : Index) (terms : List Term) (location : Location) (start : Nat) : Index :=
  match terms with
  | [] => index
  | term :: rest => (index.add term location start).addAll rest location (start + 1)

/-- Takes in all of another index: positions are joined, totals added. -/
def merge (index other : Index) : Index where
  postings := index.postings.merge (SortedMap.merge SortedSet.union) other.postings
  totals := index.totals.merge (· + ·) other.totals

/-! ## Looking up -/

/-- Where a term occurs. -/
def occurrences (index : Index) (term : Term) : Occurrences :=
  (index.postings.get? term).getD .empty

/-- The positions of a term at a location. -/
def positionSet (index : Index) (term : Term) (location : Location) : SortedSet Nat :=
  ((index.occurrences term).get? location).getD .empty

/-- Whether a term occurs anywhere. -/
def contains (index : Index) (term : Term) : Bool := index.postings.contains term

/-- Whether a term occurs at a location. -/
def containsAt (index : Index) (term : Term) (location : Location) : Bool :=
  (index.occurrences term).contains location

/-- Whether a term occurs at a position of a location. -/
def containsPosition (index : Index) (term : Term) (location : Location) (position : Nat) :
    Bool :=
  SortedMap.contains (index.positionSet term location) position

/-- The terms of the index, sorted. -/
def words (index : Index) : List Term := index.postings.keys

/-- The locations of a term, sorted. -/
def locations (index : Index) (term : Term) : List Location := (index.occurrences term).keys

/-- The positions of a term at a location, sorted. -/
def positions (index : Index) (term : Term) (location : Location) : List Nat :=
  (index.positionSet term location).toList

/-- The number of different terms. -/
def size (index : Index) : Nat := index.postings.size

/-- The number of locations of a term. -/
def locationCount (index : Index) (term : Term) : Nat := (index.occurrences term).size

/-- The number of positions of a term at a location. -/
def positionCount (index : Index) (term : Term) (location : Location) : Nat :=
  (index.positionSet term location).size

/-- The number of tokens recorded at a location. -/
def total (index : Index) (location : Location) : UInt64 :=
  (index.totals.get? location).getD 0

end Index

end Concordance
