import Concordance.Files.Build
import Concordance.Query.Line

/-!
# Answered queries

The hits of every query that was searched, by the query's key. Lines that are
the same query share one entry, and the first search of a query is the one
that counts.
-/

namespace Concordance

abbrev Answers := SortedMap String (List Hit)

namespace Answers

/-- The keys of all answered queries, sorted. -/
def queries (answers : Answers) : List String := answers.keys

/-- The hits of a line's query, if it was answered. -/
def ofLine (answers : Answers) (line : String) : List Hit :=
  match Query.ofLine? line with
  | none => []
  | some query => (answers.get? query.key).getD []

/-- Writes all answers to a file. -/
def save? (answers : Answers) (tree : Tree) (path : String) : Except AccessError Tree :=
  tree.save? path (resultsReport answers)

end Answers

/-! ## Files of queries -/

/-- What was read of a file of queries. -/
structure QueryFile where
  /-- The lines that are well-formed text, up to where reading broke off. -/
  lines : List String
  error? : Option AccessError

/-- The lines that are well-formed text. -/
def textLines (lines : List (List UInt8)) : List String :=
  lines.filterMap fun line => (Text.Utf8.decode? line).map String.ofList

/-- Reads a file of queries as far as it goes. -/
def Tree.queryFile (tree : Tree) (path : String) : QueryFile :=
  match tree.open? path with
  | .error fault => ⟨[], some ⟨path, fault⟩⟩
  | .ok reading => ⟨textLines reading.lines, reading.fault?.map (⟨path, ·⟩)⟩

end Concordance
