import Concordance.Index.Basic
import Concordance.Json.Document
import Concordance.Rank.Hit

/-!
# What is written of an index and of its searches

The index is written as an object of terms, each an object of locations,
each a list of positions; the totals as an object of locations; the results
of queries as an object of queries, each a list of hits. Keys and positions
are in rising order, hits in rank order.
-/

namespace Concordance

open Json (Document)

/-- A hit, with its share to eight decimal places. -/
def Hit.document (hit : Hit) : Document :=
  .object [
    ("count", .number hit.count),
    ("score", .decimal (Rank.decimal hit.share)),
    ("where", .text hit.location)]

def Occurrences.document (occurrences : Occurrences) : Document :=
  .object <| occurrences.entries.map fun (location, positions) =>
    (location, .list (positions.toList.map .number))

def Index.document (index : Index) : Document :=
  .object <| index.postings.entries.map fun (term, occurrences) =>
    (term, Occurrences.document occurrences)

def Index.totalsDocument (index : Index) : Document :=
  .object <| index.totals.entries.map fun (location, total) => (location, .number total.toNat)

/-- The hits of each query. -/
def resultsDocument (results : SortedMap String (List Hit)) : Document :=
  .object <| results.entries.map fun (query, hits) => (query, .list (hits.map Hit.document))

/-- The text of the index. -/
def Index.report (index : Index) : String := index.document.pretty

/-- The text of the totals. -/
def Index.totalsReport (index : Index) : String := index.totalsDocument.pretty

/-- The text of the results of queries. -/
def resultsReport (results : SortedMap String (List Hit)) : String :=
  (resultsDocument results).pretty

end Concordance
