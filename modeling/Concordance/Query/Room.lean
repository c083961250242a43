import Concordance.Query.Pooled

/-!
# A reading room

Many threads look up lines at one desk: the workers of a pool, which look up
the lines that were submitted, and callers, each of whom looks up one line and
waits for its hits. All move in any order, one step at a time. Meanwhile the
index can change, searches can be held back and let go, and a search that is
under way can fail.
-/

namespace Concordance

/-- The pool, and the lookups of all callers that ever came. -/
structure ReadingRoom where
  pool : PooledQueries
  callers : List Lookup

inductive Reader where
  | worker (i : Nat)
  | caller (k : Nat)
deriving DecidableEq

inductive ReadingEvent where
  /-- A thread has a line looked up some time. -/
  | submit (mode : Mode) (line : String)
  | pool (event : PoolEvent Lookup)
  /-- A caller comes with a line. -/
  | call (mode : Mode) (line : String)
  /-- A caller takes the next step of the lookup. -/
  | own (caller : Nat)
  /-- The search that a reader is in the middle of fails. -/
  | fail (reader : Reader)
  /-- The probe does something else from now on. -/
  | probe (change : Probe → Probe)

namespace ReadingRoom

def start (workers : Nat) (index : Index) : ReadingRoom :=
  ⟨.start workers index, []⟩

def cache (room : ReadingRoom) : QueryCache := room.pool.shared.cache

/-- What a reader is in the middle of. -/
def lookup? (room : ReadingRoom) : Reader → Option Lookup
  | .worker i =>
    match room.pool.workers[i]? with
    | some (.running lookup) => some lookup
    | _ => none
  | .caller k => room.callers[k]?

/-- The room after a reader went on, with nothing else changed. -/
def put (room : ReadingRoom) (lookup : Lookup) : Reader → ReadingRoom
  | .worker i =>
    { room with pool := { room.pool with
        workers := room.pool.workers.set i (.running lookup) } }
  | .caller k => { room with callers := room.callers.set k lookup }

/-- What an event makes of a reading room, if it can happen. Only lines are
submitted to the pool. -/
def step? (room : ReadingRoom) : ReadingEvent → Option ReadingRoom
  | .submit mode line =>
    (room.pool.step? Lookup.work (.submit (.ofLine mode false line))).map fun pool =>
      { room with pool }
  | .pool (.submit _) => none
  | .pool event =>
    (room.pool.step? Lookup.work event).map fun pool => { room with pool }
  | .call mode line =>
    some { room with callers := room.callers ++ [.ofLine mode true line] }
  | .own k =>
    (room.lookup? (.caller k)).bind fun lookup =>
      (lookup.step? room.pool.shared).map fun (shared, rest) =>
        { room with pool := { room.pool with shared } }.put rest (.caller k)
  | .fail reader =>
    (room.lookup? reader).bind fun lookup =>
      match lookup.stage with
      | .searching query claimed =>
          some (room.put (lookup.enter (.crashed query claimed)) reader)
      | _ => none
  | .probe change => some { room with pool := room.pool.setProbe change }

/-- What a run of events makes of a reading room, if each can happen in turn. -/
def run? (room : ReadingRoom) (events : List ReadingEvent) : Option ReadingRoom :=
  events.foldlM step? room

end ReadingRoom

end Concordance
