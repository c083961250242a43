import Concordance.Crawl.Budget
import Concordance.Pool.Schedule
import Concordance.Text.Quoted

/-!
# Crawling

A crawl is run by one thread, which visits the first page itself, and a pool,
whose workers visit the pages that are reserved on the way. It is over when
the first page was dealt with and no task is pending. The thread and the
workers take their steps in any order.

A seed that is no address of the web is refused before anything is fetched.
A limit of no pages at all makes an empty crawl.
-/

namespace Concordance

/-- Why a crawl did not begin. -/
inductive CrawlError where
  | invalidSeed (seed : String) (fault : Url.Fault)
  | unsupportedScheme (seed : String)

def CrawlError.message : CrawlError → String
  | invalidSeed seed _ => "invalid seed url " ++ Text.quoted seed
  | unsupportedScheme seed => "seed url " ++ Text.quoted seed ++ " is not http or https"

/-- The faults behind an error, in words. -/
def CrawlError.causes : CrawlError → List String
  | invalidSeed _ fault => [fault.message]
  | unsupportedScheme _ => []

/-- How many pages were visited, how many of them indexed, and how many visits still wait. -/
structure CrawlSummary where
  visited : Nat
  indexed : Nat
  pending : Nat
deriving DecidableEq, Repr

/-- A crawl under way: the pool, and the visit of the calling thread. -/
structure Crawl where
  pool : Pool CrawlDesk Visit
  own : Visit

inductive CrawlEvent where
  /-- The calling thread takes its next step. -/
  | own
  | pool (event : PoolEvent Visit)

namespace Crawl

def start (workers limit : Nat) (index : Index) (seed : Url) : Crawl :=
  { pool := Pool.start workers ⟨.start seed limit, 0, index⟩, own := .coming seed }

/-- The next step of the calling thread. It waits while its last submission is not complete. -/
def ownStep? (web : Web) (crawl : Crawl) : Option Crawl :=
  if crawl.pool.entering?.any fun entering => entering.worker?.isNone then none
  else match Visit.move web crawl.pool.shared crawl.own with
    | .act shared own => some { pool := { crawl.pool with shared }, own }
    | .spawn child own =>
      (crawl.pool.step? (Visit.work web) (.submit child)).map fun pool => { pool, own }
    | .finish _ | .stop _ | .await _ | .wait => none

/-- What an event makes of a crawl, if it can happen. Nobody else submits to the pool. -/
def step? (web : Web) (crawl : Crawl) : CrawlEvent → Option Crawl
  | .own => crawl.ownStep? web
  | .pool (.submit _) => none
  | .pool event => (crawl.pool.step? (Visit.work web) event).map fun pool => { crawl with pool }

/-- What a run of events makes of a crawl, if each can happen in turn. -/
def run? (web : Web) (crawl : Crawl) (events : List CrawlEvent) : Option Crawl :=
  events.foldlM (step? web) crawl

/-- Whether the calling thread returns: its own visit is over and no task is pending. -/
def isOver (crawl : Crawl) : Bool :=
  (match crawl.own with
    | .ended => true
    | _ => false) && crawl.pool.pending == 0

def summary (crawl : Crawl) : CrawlSummary :=
  ⟨crawl.pool.shared.budget.visited.length, crawl.pool.shared.indexed, crawl.pool.pending⟩

/-- One schedule: first the calling thread goes to its end, and then the workers. -/
def runOwn (web : Web) : (steps : Nat) → Crawl → Crawl
  | 0, crawl => crawl
  | steps + 1, crawl =>
    match crawl.ownStep? web with
    | some next => runOwn web steps { next with pool := complete next.pool }
    | none => crawl
where
  /-- Completes a submission under way. -/
  complete (pool : Pool CrawlDesk Visit) : Pool CrawlDesk Visit :=
    if pool.entering?.isSome then ((pool.next? (Visit.work web)).bind (pool.step? (Visit.work web))).getD pool
    else pool

/-- Runs a crawl to its end. -/
def run (web : Web) (crawl : Crawl) : Crawl :=
  let work := Visit.work web
  let after := crawl.runOwn web (work.cost crawl.own + work.reserve crawl.pool.shared)
  { after with pool := after.pool.settle work }

end Crawl

/-- Crawls from a seed and takes the pages into an index. -/
def crawl (web : Web) (workers : Nat) (index : Index) (seed : String) (limit : Nat) :
    Except CrawlError (Index × CrawlSummary) :=
  match Url.parse? (Text.trimBlanks seed) with
  | .error fault => .error (.invalidSeed seed fault)
  | .ok url =>
    if !url.isHttp then .error (.unsupportedScheme seed)
    else if limit = 0 then .ok (index, ⟨0, 0, 0⟩)
    else
      let ended := (Crawl.start workers limit index url).run web
      .ok (ended.pool.shared.index, ended.summary)

end Concordance
