import Concordance.Index.Basic
import Concordance.Rank.Hit

/-!
# Searching an index

A search adds up, for every location, the positions of the terms that match,
and ranks the locations by the share of their tokens that these positions
make up. An exact search matches the given terms themselves. A partial one
matches every indexed term that begins with one of them, and a term that
begins with several of them counts once for each.

Terms are sorted, and in this order all terms with the same beginning stand
together, right behind where the beginning itself would stand. So a partial
search reads one run of terms for each beginning.
-/

namespace Concordance

/-- How the terms of a search are matched. -/
inductive Mode where
  | exactly
  | partially
deriving DecidableEq, Repr

namespace Index

/-- Matches found so far, by location. -/
abbrev Matches := SortedMap Location Nat

/-- Adds the occurrences of a term to the matches. -/
def addMatches (found : Matches) (occurrences : Occurrences) : Matches :=
  occurrences.entries.foldl
    (fun found (location, positions) =>
      found.update location fun count => count.getD 0 + positions.size)
    found

/-- The indexed terms that begin with `beginning`, with their occurrences. -/
def termsFrom (index : Index) (beginning : Term) : List (Term × Occurrences) :=
  (index.postings.entriesFrom beginning).takeWhile fun entry =>
    beginning.toList.isPrefixOf entry.1.toList

/-- The indexed terms that one term of a search matches, with their occurrences. -/
def matching (index : Index) : Mode → Term → List (Term × Occurrences)
  | .exactly, term => (index.postings.get? term).toList.map (term, ·)
  | .partially, term => index.termsFrom term

/-- The number of matches at each location that has any. -/
def countMatches (index : Index) (mode : Mode) (terms : List Term) : Matches :=
  (terms.flatMap (index.matching mode)).foldl (fun found entry => addMatches found entry.2) .empty

/-- The hit of a location with so many matches. -/
def hit (index : Index) (location : Location) (count : Nat) : Hit :=
  .ofCounts count (index.total location).toNat location

/-- The hits of a search, in rank order. -/
def search (index : Index) (mode : Mode) (terms : SortedSet Term) : List Hit :=
  Hit.ranked <| (index.countMatches mode terms.toList).entries.map
    fun (location, count) => index.hit location count

end Index

end Concordance
