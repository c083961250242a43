import Concordance.Pool.Client
import Concordance.Query.Lookup

/-!
# Answering queries on a pool

Every line becomes a task of its own that looks it up. A failed search ends
its task and nothing else: the query stays without an answer and can be asked
again. Of a file only lines that are not blank become tasks, and the call
ends when all tasks have, even if the file broke off.
-/

namespace Concordance

abbrev PooledQueries := Pool Desk Lookup

namespace PooledQueries

def start (workers : Nat) (index : Index) : PooledQueries :=
  Pool.start workers ⟨.ofIndex index, .empty⟩

/-- Lets the workers go on as far as they can. -/
def rest (queries : PooledQueries) : PooledQueries := queries.settle Lookup.work

/-- Has a line looked up some time. -/
def submit (queries : PooledQueries) (mode : Mode) (line : String) : PooledQueries :=
  Pool.submit Lookup.work queries (.ofLine mode false line)

/-- Has lines looked up some time. -/
def submitAll (queries : PooledQueries) (mode : Mode) (lines : List String) : PooledQueries :=
  lines.foldl (fun queries line => queries.submit mode line) queries

/-- The lines of a file that become tasks. -/
def nonblank (lines : List String) : List String :=
  lines.filter fun line => !(Text.trim line.toList).isEmpty

/-- A thread that has the lines of a file looked up, as far as it can be read, and waits. -/
def asking (queries : PooledQueries) (mode : Mode) (file : QueryFile) : Client Desk Lookup :=
  .asking queries ((nonblank file.lines).map (.ofLine mode false))

/-- Has the lines of a file looked up, waits, and tells why it could not be read further. -/
def takeFile (queries : PooledQueries) (mode : Mode) (tree : Tree) (path : String) :
    PooledQueries × Option AccessError :=
  let file := tree.queryFile path
  (((queries.asking mode file).complete Lookup.work).pool, file.error?)

/-- Has the lines of a file looked up, and waits. -/
def submitFile (queries : PooledQueries) (mode : Mode) (tree : Tree) (path : String) :
    Except AccessError PooledQueries :=
  match queries.takeFile mode tree path with
  | (_, some error) => .error error
  | (answered, none) => .ok answered

/-- Looks up a line on the calling thread. -/
def search (queries : PooledQueries) (mode : Mode) (line : String) :
    PooledQueries × Option (List Hit) :=
  let (shared, hits?) := queries.shared.search mode line
  ({ queries with shared }, hits?)

def answers (queries : PooledQueries) : Answers := queries.shared.cache.answers

/-- Changes what the probe does from now on. -/
def setProbe (queries : PooledQueries) (change : Probe → Probe) : PooledQueries :=
  { queries with shared := { queries.shared with probe := change queries.shared.probe } }

/-- Whether a worker holds a search back. -/
def isHeld (queries : PooledQueries) : Bool := queries.shared.probe.holding

end PooledQueries

end Concordance
