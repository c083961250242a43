import Concordance.Proofs.ClaimedSearches

/-!
# What each lookup keeps, a room keeps

Many properties of a reading room are put together from one of its desk and one
of each of its lookups. An event moves one lookup at most. So if the steps of a
lookup keep both, it does not matter which lookup moves, and whether a worker or
a caller moves it; what has to be looked at beside are the few events that come
from outside (`ReadingEvent.Keeps`).
-/

namespace Concordance

variable {D : Desk → Prop} {L : Lookup → Prop}

/-- Whatever a lookup does next, the desk and the lookup keep their
properties. -/
def Lookup.Keeps (D : Desk → Prop) (L : Lookup → Prop) : Prop :=
  ∀ {desk after : Desk} {lookup rest : Lookup}, Step desk lookup after rest →
    D desk → L lookup → D after ∧ L rest

/-- What comes from outside keeps the properties too. -/
def ReadingEvent.Keeps (D : Desk → Prop) (L : Lookup → Prop) :
    ReadingEvent → Prop
  | .submit mode line => L (.ofLine mode false line)
  | .call mode line => L (.ofLine mode true line)
  | .fail _ => ∀ {mode called query claimed},
      L ⟨mode, called, .searching query claimed⟩ →
        L ⟨mode, called, .crashed query claimed⟩
  | .probe change => ∀ {desk : Desk}, D desk →
      D { desk with probe := change desk.probe }
  | .pool _ | .own _ => True

namespace ReadingRoom

/-- A desk, the lookups that are tasks of a pool and those of callers have the
properties. -/
structure Holds (D : Desk → Prop) (L : Lookup → Prop) (desk : Desk)
    (tasks : Multiset Lookup) (callers : List Lookup) : Prop where
  desk : D desk
  tasks : ∀ lookup ∈ tasks, L lookup
  callers : ∀ lookup ∈ callers, L lookup

variable {desk after : Desk} {tasks others : Multiset Lookup}
  {callers : List Lookup} {lookup rest : Lookup}

/-- A task of the pool goes on. -/
theorem Holds.worker (h : Holds D L desk (lookup ::ₘ others) callers)
    (hafter : D after) (hrest : L rest) :
    Holds D L after (rest ::ₘ others) callers := by
  refine ⟨hafter, ?_, h.callers⟩
  intro other hother
  rcases Multiset.mem_cons.mp hother with rfl | hmem
  · exact hrest
  · exact h.tasks other (Multiset.mem_cons_of_mem hmem)

/-- A caller goes on. -/
theorem Holds.caller (h : Holds D L desk tasks callers) (k : Nat)
    (hafter : D after) (hrest : L rest) :
    Holds D L after tasks (callers.set k rest) := by
  refine ⟨hafter, h.tasks, ?_⟩
  intro other hother
  rcases List.mem_or_eq_of_mem_set hother with hmem | rfl
  · exact h.callers other hmem
  · exact hrest

theorem holds_of_poolStep (hkeeps : Lookup.Keeps D L) {pool : PooledQueries}
    {event : PoolEvent Lookup} (h : PoolStep pool event desk tasks)
    (hcome : ∀ lookup, event = .submit lookup → L lookup)
    (hholds : Holds D L pool.shared pool.tasks callers) :
    Holds D L desk tasks callers := by
  cases h with
  | same => exact hholds
  | come =>
      refine ⟨hholds.desk, ?_, hholds.callers⟩
      intro lookup hlookup
      rcases Multiset.mem_cons.mp hlookup with rfl | hmem
      · exact hcome _ rfl
      · exact hholds.tasks lookup hmem
  | act hmover htasks hstep =>
      rw [htasks] at hholds
      obtain ⟨hafter, hrest⟩ := hkeeps hstep hholds.desk
        (hholds.tasks _ (Multiset.mem_cons_self ..))
      exact hholds.worker hafter hrest
  | finish hmover htasks =>
      rw [htasks] at hholds
      exact ⟨hholds.desk, fun other hmem =>
        hholds.tasks other (Multiset.mem_cons_of_mem hmem), hholds.callers⟩

theorem holds_of_failure {room next : ReadingRoom} {reader : Reader}
    (h : room.step? (.fail reader) = some next)
    (hevent : (ReadingEvent.fail reader).Keeps D L)
    (hholds : Holds D L room.pool.shared room.pool.tasks room.callers) :
    Holds D L next.pool.shared next.pool.tasks next.callers := by
  obtain ⟨⟨mode, called, stage⟩, hlookup, h⟩ := Option.bind_eq_some_iff.mp h
  split at h
  · next query claimed hstage =>
      obtain rfl : stage = .searching query claimed := hstage
      cases h
      cases reader with
      | worker i =>
          obtain ⟨others, htasks, hput⟩ := tasks_put hlookup
          rw [htasks] at hholds
          rw [hput]
          exact hholds.worker hholds.desk
            (hevent (hholds.tasks _ (Multiset.mem_cons_self ..)))
      | caller k =>
          exact hholds.caller k hholds.desk
            (hevent (hholds.callers _ (List.mem_of_getElem? hlookup)))
  · cases h

theorem holds_of_step? (hkeeps : Lookup.Keeps D L) {room next : ReadingRoom}
    {event : ReadingEvent} (h : room.step? event = some next)
    (hevent : event.Keeps D L)
    (hholds : Holds D L room.pool.shared room.pool.tasks room.callers) :
    Holds D L next.pool.shared next.pool.tasks next.callers := by
  cases event with
  | submit mode line =>
      obtain ⟨pool, hstep, rfl⟩ := Option.map_eq_some_iff.mp h
      refine holds_of_poolStep hkeeps (poolStep_of_step? hstep) ?_ hholds
      intro lookup heq
      cases heq
      exact hevent
  | pool event =>
      obtain ⟨hlines, pool, hstep, rfl⟩ := pool_of_step? h
      exact holds_of_poolStep hkeeps (poolStep_of_step? hstep)
        (fun lookup heq => absurd heq (hlines lookup)) hholds
  | call mode line =>
      cases h
      refine ⟨hholds.desk, hholds.tasks, ?_⟩
      intro lookup hlookup
      rcases List.mem_append.mp hlookup with hmem | hnew
      · exact hholds.callers lookup hmem
      · rw [List.mem_singleton.mp hnew]
        exact hevent
  | own k =>
      obtain ⟨lookup, hlookup, h⟩ := Option.bind_eq_some_iff.mp h
      obtain ⟨⟨desk, rest⟩, hrest, rfl⟩ := Option.map_eq_some_iff.mp h
      obtain ⟨hafter, hlookup⟩ := hkeeps (Lookup.step_of_step? hrest)
        hholds.desk (hholds.callers lookup (List.mem_of_getElem? hlookup))
      exact hholds.caller k hafter hlookup
  | fail reader => exact holds_of_failure h hevent hholds
  | probe change =>
      cases h
      exact ⟨hevent hholds.desk, hholds.tasks, hholds.callers⟩

theorem holds_of_run? (hkeeps : Lookup.Keeps D L) {room last : ReadingRoom}
    {events : List ReadingEvent} (h : room.run? events = some last)
    (hevents : ∀ event ∈ events, event.Keeps D L)
    (hholds : Holds D L room.pool.shared room.pool.tasks room.callers) :
    Holds D L last.pool.shared last.pool.tasks last.callers :=
  run_keeps
    (fun room => Holds D L room.pool.shared room.pool.tasks room.callers)
    (fun hmem hholds hstep =>
      holds_of_step? hkeeps hstep (hevents _ hmem) hholds)
    hholds h

theorem holds_start (workers : Nat) {index : Index}
    (h : D ⟨.ofIndex index, .empty⟩) :
    Holds D L (start workers index).pool.shared
      (start workers index).pool.tasks (start workers index).callers := by
  rw [show (start workers index).pool.tasks = 0 from Pool.tasks_start workers _]
  refine ⟨h, ?_, ?_⟩
  · intro lookup hlookup
    exact absurd hlookup (Multiset.notMem_zero lookup)
  · intro lookup hlookup
    cases hlookup

end ReadingRoom

end Concordance
