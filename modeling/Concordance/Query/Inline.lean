import Concordance.Query.Answers
import Concordance.Query.Probe

/-!
# Answering queries one after the other

A line whose query is answered already costs nothing. Any other is searched
at once. If the search fails, the whole call fails there: lines before it stay
answered and lines after it are not looked at. If a file breaks off, the lines
before it are answered nevertheless.
-/

namespace Concordance

structure InlineQueries where
  probe : Probe
  answers : Answers

namespace InlineQueries

def ofIndex (index : Index) : InlineQueries := ⟨.ofIndex index, .empty⟩

/-- Answers one line. The mark tells whether the search, if one was needed, went well. -/
def submit (queries : InlineQueries) (mode : Mode) (line : String) : InlineQueries × Bool :=
  match Query.ofLine? line with
  | none => (queries, true)
  | some query =>
    if queries.answers.contains query.key then (queries, true)
    else match queries.probe.begin with
      | (probe, false) => ({ queries with probe }, false)
      | (probe, true) =>
        ({ probe, answers := queries.answers.insert query.key (probe.hits query mode) }, true)

/-- Answers lines in order, up to a failure. -/
def submitAll (queries : InlineQueries) (mode : Mode) : List String → InlineQueries × Bool
  | [] => (queries, true)
  | line :: lines =>
    match queries.submit mode line with
    | (failed, false) => (failed, false)
    | (answered, true) => answered.submitAll mode lines

/-- Answers the lines of a file, as far as it can be read, and tells why it could not be read
further. A search that fails comes before anything that is wrong with the file behind it. -/
def takeFile (queries : InlineQueries) (mode : Mode) (tree : Tree) (path : String) :
    (InlineQueries × Bool) × Option AccessError :=
  let file := tree.queryFile path
  let answered := queries.submitAll mode file.lines
  (answered, if answered.2 then file.error? else none)

/-- Answers the lines of a file. -/
def submitFile (queries : InlineQueries) (mode : Mode) (tree : Tree) (path : String) :
    Except AccessError (InlineQueries × Bool) :=
  match queries.takeFile mode tree path with
  | (_, some error) => .error error
  | (answered, none) => .ok answered

end InlineQueries

end Concordance
