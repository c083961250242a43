import Concordance.Pool.Work
import Concordance.Query.Cache
import Concordance.Query.Probe

/-!
# Looking up one line

A lookup takes one line from its text to its hits through a shared cache. It
goes on in steps between which other lookups may move: it asks for the claim
on its query, searches, and fills the cache or, if the search failed, gives
the claim back. Only these steps touch what is shared.

A lookup made for a worker of a pool ends at once when another lookup has the
claim, for the answer will be there without it; and its search can be held. A
lookup made by a caller who waits for the hits searches in any case, but fills
the cache only under a claim; it is never held.
-/

namespace Concordance

/-- What all lookups share. -/
structure Desk where
  probe : Probe
  cache : QueryCache

inductive Lookup.Stage where
  | fresh (line : String)
  /-- About to search, with or without a claim. -/
  | ready (query : Query) (claimed : Bool)
  /-- In the middle of a search that was counted. -/
  | searching (query : Query) (claimed : Bool)
  | found (query : Query) (claimed : Bool) (hits : List Hit)
  | crashed (query : Query) (claimed : Bool)
  | answered (hits : List Hit)
  | failed

structure Lookup where
  mode : Mode
  /-- Made by a caller who waits for the hits. -/
  called : Bool
  stage : Lookup.Stage

namespace Lookup

/-- Goes on to a stage. -/
def enter (lookup : Lookup) (stage : Stage) : Lookup := { lookup with stage }

/-- Asks for the claim on a query. -/
def ask (desk : Desk) (lookup : Lookup) (query : Query) : Desk × Lookup :=
  match desk.cache.claim query.key with
  | (cache, .cached hits) => ({ desk with cache }, lookup.enter (.answered hits))
  | (cache, .claimed) => ({ desk with cache }, lookup.enter (.ready query true))
  | (cache, .busy) =>
    ({ desk with cache }, lookup.enter (if lookup.called then .ready query false else .answered []))

/-- Has the probe count a search. -/
def begin (desk : Desk) (lookup : Lookup) (query : Query) (claimed : Bool) : Desk × Lookup :=
  match desk.probe.begin with
  | (probe, true) => ({ desk with probe }, lookup.enter (.searching query claimed))
  | (probe, false) => ({ desk with probe }, lookup.enter (.crashed query claimed))

/-- The next step of a lookup, unless it is held or at its end. -/
def step? (desk : Desk) (lookup : Lookup) : Option (Desk × Lookup) :=
  match lookup.stage with
  | .fresh line =>
    match Query.ofLine? line with
    | none => some (desk, lookup.enter (.answered []))
    | some query => some (lookup.ask desk query)
  | .ready query claimed => some (lookup.begin desk query claimed)
  | .searching query claimed =>
    if desk.probe.holding && !lookup.called then none
    else some (desk, lookup.enter (.found query claimed (desk.probe.hits query lookup.mode)))
  | .found query claimed hits =>
    let cache := if claimed then desk.cache.fill query.key hits else desk.cache
    some ({ desk with cache }, lookup.enter (.answered hits))
  | .crashed query claimed =>
    let cache := if claimed then desk.cache.release query.key else desk.cache
    some ({ desk with cache }, lookup.enter .failed)
  | .answered _ | .failed => none

/-- A lookup as a task of a pool. -/
def move (desk : Desk) (lookup : Lookup) : Move Desk Lookup :=
  match lookup.stage with
  | .answered _ => .finish .done
  | .failed => .finish .crashed
  | _ =>
    match lookup.step? desk with
    | some (next, rest) => .act next rest
    | none => .wait

/-- The steps to the end of a lookup. -/
def stepsLeft (lookup : Lookup) : Nat :=
  match lookup.stage with
  | .fresh _ => 4
  | .ready .. => 3
  | .searching .. => 2
  | .found .. | .crashed .. => 1
  | .answered _ | .failed => 0

def work : Work Desk Lookup where
  move := move
  cost lookup := lookup.stepsLeft + 1
  reserve _ := 0

/-- Takes so many steps, or fewer where the lookup is held or at its end. -/
def runFor : Nat → Desk → Lookup → Desk × Lookup
  | 0, desk, lookup => (desk, lookup)
  | steps + 1, desk, lookup =>
    match lookup.step? desk with
    | some (next, rest) => runFor steps next rest
    | none => (desk, lookup)

/-- The hits at the end of a lookup, unless its search failed. -/
def hits? (lookup : Lookup) : Option (List Hit) :=
  match lookup.stage with
  | .answered hits => some hits
  | _ => none

/-- The lookup of a line, at its begin. -/
def ofLine (mode : Mode) (called : Bool) (line : String) : Lookup := ⟨mode, called, .fresh line⟩

end Lookup

/-- Looks up a line for a caller who waits, with nothing else in between. -/
def Desk.search (desk : Desk) (mode : Mode) (line : String) : Desk × Option (List Hit) :=
  let lookup := Lookup.ofLine mode true line
  let (after, ended) := lookup.runFor lookup.stepsLeft desk
  (after, ended.hits?)

end Concordance
