import Concordance.Index.Search
import Concordance.Query.Line

/-!
# An index under observation

A probe stands between those who search and the index. It counts the searches
it is asked for, and can be told to let the next few of them fail, or to hold
searches back until they are let go. A search that fails is counted too and is
never held.
-/

namespace Concordance

structure Probe where
  index : Index
  /-- The number of searches asked for so far. -/
  searches : Nat
  /-- How many of the next searches fail. -/
  failures : Nat
  holding : Bool

namespace Probe

def ofIndex (index : Index) : Probe := ⟨index, 0, 0, false⟩

/-- Counts one more search, and says whether it may go on. -/
def begin (probe : Probe) : Probe × Bool :=
  ({ probe with searches := probe.searches + 1, failures := probe.failures - 1 },
    probe.failures == 0)

/-- The hits of a query. -/
def hits (probe : Probe) (query : Query) (mode : Mode) : List Hit := probe.index.search mode query.terms

end Probe

/-- What a failed search leaves behind. -/
def searchFailure : String := "index unavailable"

end Concordance
