import Concordance.Rank.Quotient
import Concordance.Term
import Concordance.Text.LowerCase

/-!
# Hits and their order

A hit is a document that a search has found, with the number of matches in
it and the share of its tokens that they make up. Hits are ranked by share,
the larger first; then by count, the larger first; then by location without
regard to case; and last by location as it is written. The last comparison
keeps documents apart whose locations differ in case only, so the ranking
leaves no tie between different hits.
-/

namespace Concordance

structure Hit where
  count : Nat
  /-- In units of `Rank.one`. -/
  share : Nat
  location : Location
deriving DecidableEq, Repr

namespace Hit

/-- The hit of `count` matches among the `total` tokens at `location`. -/
def ofCounts (count total : Nat) (location : Location) : Hit :=
  ⟨count, Rank.share count total, location⟩

/-- A location with its letters in lower case, one by one. -/
def caseless (location : Location) : List Char := location.toList.flatMap Text.lowerChar

/-- Which of two hits ranks first: `lt` if it is the left one. -/
def order (a b : Hit) : Ordering :=
  (compare b.share a.share).then <|
    (compare b.count a.count).then <|
      (compare (caseless a.location) (caseless b.location)).then <|
        compare a.location b.location

/-- Puts a hit before the first one of a ranked list that does not rank
before it. -/
def insertRanked (hit : Hit) : List Hit → List Hit
  | [] => [hit]
  | other :: rest =>
    if (order hit other).isLE then hit :: other :: rest else other :: insertRanked hit rest

/-- The hits in rank order. -/
def ranked (hits : List Hit) : List Hit := hits.foldr insertRanked []

/-- Ranking neither adds nor drops a hit. -/
theorem perm_insertRanked (hit : Hit) (hits : List Hit) :
    (insertRanked hit hits).Perm (hit :: hits) := by
  induction hits with
  | nil => exact .refl _
  | cons other rest ih =>
    simp only [insertRanked]
    split
    · exact .refl _
    · exact (ih.cons other).trans (.swap hit other rest)

theorem perm_ranked (hits : List Hit) : (ranked hits).Perm hits := by
  induction hits with
  | nil => exact .refl _
  | cons hit hits ih => exact (perm_insertRanked hit _).trans (ih.cons hit)

end Hit

end Concordance
