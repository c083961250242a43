import Concordance.Index.Search

/-!
# Query lines

A query line stands for the set of its terms. Order, repetition, inflection
and everything between the words are lost, so many lines are the same query.
The key of a query is its terms in rising order with a blank between them.
A line without a single word is no query.
-/

namespace Concordance

structure Query where
  terms : SortedSet Term

namespace Query

/-- The query of a line, unless no word is left of it. -/
def ofLine? (line : String) : Option Query :=
  let terms := termSet line
  if terms.isEmpty then none else some ⟨terms⟩

/-- The terms in rising order, with a blank between them. -/
def key (query : Query) : String := " ".intercalate query.terms.toList

end Query

end Concordance
