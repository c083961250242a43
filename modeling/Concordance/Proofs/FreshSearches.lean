import Concordance.Proofs.PooledAnswers
import Concordance.Proofs.RoomInvariants
import Concordance.Service.Traffic

/-!
# Kept hits are the hits of a search

As long as nobody changes the index, no search fails, and all lines of a
reading room are looked up in one mode, it makes no difference whether hits come
out of the cache or out of a search. The cache holds under each key the hits of
the one query that has the key, so a lookup that finds its key answered, one
that fills the cache and one that is told that another has the claim end with
the same hits.

A lookup forgets its line when it has its query. What it will end with is stated
of the line all the same (`Seeks`), so that it can be followed from the line to
the hits.
-/

namespace Concordance

variable {index : Index} {mode : Mode}

/-- What is kept under a key are the hits of a query with this key. -/
def Answers.Fresh (answers : Answers) (index : Index) (mode : Mode) : Prop :=
  ∀ key hits, answers.get? key = some hits →
    ∃ line query, Query.ofLine? line = some query ∧ query.key = key ∧
      hits = index.search mode query.terms

/-- Whoever has a query with that key, these are the hits of that query. -/
theorem Answers.Fresh.search {answers : Answers}
    (h : answers.Fresh index mode) {line : String} {query : Query}
    {hits : List Hit} (hline : Query.ofLine? line = some query)
    (hhits : answers.get? query.key = some hits) :
    hits = index.search mode query.terms := by
  obtain ⟨other, found, hother, hkey, hfound⟩ := h _ hits hhits
  rw [hfound, Query.eq_of_key hline hother hkey]

theorem Answers.Fresh.insert {answers : Answers}
    (h : answers.Fresh index mode) {line : String} {query : Query}
    (hline : Query.ofLine? line = some query) :
    Answers.Fresh
      (answers.insert query.key (index.search mode query.terms)) index
      mode := by
  intro key hits hhits
  rw [SortedMap.get?_insert] at hhits
  split at hhits
  · next hkey =>
      cases hhits
      exact ⟨line, query, hline, hkey.symm, rfl⟩
  · exact h key hits hhits

/-! ## Lookups -/

/-- A desk at which nobody changed the index and no search fails. -/
structure Desk.Calm (index : Index) (mode : Mode) (desk : Desk) : Prop where
  unchanged : desk.probe.index = index
  failures : desk.probe.failures = 0
  answers : desk.cache.answers.Fresh index mode

/-- A lookup of a line that will end with the hits of a search of the line, or,
if nobody waits for it, with none. -/
def Lookup.Seeks (index : Index) (mode : Mode) (line : String)
    (lookup : Lookup) : Prop :=
  lookup.mode = mode ∧
    match lookup.stage with
    | .fresh text => text = line
    | .ready query _ | .searching query _ => Query.ofLine? line = some query
    | .found query _ hits =>
      Query.ofLine? line = some query ∧ hits = index.search mode query.terms
    | .answered hits =>
      lookup.called = true → hits = index.searchLine mode line
    | .crashed .. | .failed => False

theorem Index.searchLine_of_query {line : String} {query : Query}
    (hline : Query.ofLine? line = some query) :
    index.searchLine mode line = index.search mode query.terms := by
  rw [searchLine, hline]

namespace Lookup

theorem seeks_ofLine (called : Bool) (line : String) :
    (ofLine mode called line).Seeks index mode line :=
  ⟨rfl, rfl⟩

/-- Every step of a lookup keeps its desk calm and leads to the hits of its
line. -/
theorem seeks_of_step {desk after : Desk} {lookup rest : Lookup}
    {line : String} (h : Step desk lookup after rest)
    (hcalm : desk.Calm index mode) (hseeks : lookup.Seeks index mode line) :
    after.Calm index mode ∧ rest.Seeks index mode line := by
  obtain ⟨hmode, hstage⟩ := hseeks
  cases h with
  | blank hline =>
      cases hstage
      refine ⟨hcalm, hmode, fun _ => ?_⟩
      rw [Index.searchLine, hline]
  | cached hline hhits =>
      cases hstage
      refine ⟨hcalm, hmode, fun _ => ?_⟩
      rw [Index.searchLine_of_query hline]
      exact hcalm.answers.search hline hhits
  | claim hline =>
      cases hstage
      exact ⟨⟨hcalm.unchanged, hcalm.failures, hcalm.answers⟩, hmode, hline⟩
  | persist hline =>
      cases hstage
      exact ⟨hcalm, hmode, hline⟩
  | leave => exact ⟨hcalm, hmode, nofun⟩
  | begin hbegin =>
      obtain ⟨-, rfl⟩ := Probe.eq_of_begin hcalm.failures hbegin
      exact ⟨⟨hcalm.unchanged, rfl, hcalm.answers⟩, hmode, hstage⟩
  | fail hbegin => cases (Probe.eq_of_begin hcalm.failures hbegin).1
  | find =>
      cases hmode
      refine ⟨hcalm, rfl, hstage, ?_⟩
      rw [Probe.hits, hcalm.unchanged]
  | fill =>
      obtain ⟨hline, rfl⟩ := hstage
      refine ⟨⟨hcalm.unchanged, hcalm.failures, ?_⟩, hmode, fun _ => ?_⟩
      · exact hcalm.answers.insert hline
      · exact (Index.searchLine_of_query hline).symm
  | answer =>
      obtain ⟨hline, rfl⟩ := hstage
      exact ⟨hcalm, hmode, fun _ => (Index.searchLine_of_query hline).symm⟩
  | release => exact hstage.elim
  | giveUp => exact hstage.elim

theorem keeps_seeks : Keeps (Desk.Calm index mode)
    (fun lookup => ∃ line, lookup.Seeks index mode line) := by
  rintro desk after lookup rest hstep hcalm ⟨line, hseeks⟩
  obtain ⟨hafter, hrest⟩ := seeks_of_step hstep hcalm hseeks
  exact ⟨hafter, line, hrest⟩

end Lookup

/-! ## Rooms -/

/-- An event that does not change the index or let a search fail, and that
brings no line in another mode. -/
def ReadingEvent.IsCalm (mode : Mode) : ReadingEvent → Prop
  | .submit asked _ | .call asked _ => asked = mode
  | .fail _ => False
  | .probe change => ∀ probe, (change probe).index = probe.index ∧
      (probe.failures = 0 → (change probe).failures = 0)
  | .pool _ | .own _ => True

theorem ReadingEvent.IsCalm.keeps {event : ReadingEvent}
    (h : event.IsCalm mode) : event.Keeps (Desk.Calm index mode)
      (fun lookup => ∃ line, lookup.Seeks index mode line) := by
  cases event with
  | submit asked line =>
      cases h
      exact ⟨line, Lookup.seeks_ofLine false line⟩
  | call asked line =>
      cases h
      exact ⟨line, Lookup.seeks_ofLine true line⟩
  | fail reader => exact h.elim
  | probe change =>
      intro desk hcalm
      obtain ⟨hindex, hfailures⟩ := h desk.probe
      exact ⟨hindex.trans hcalm.unchanged, hfailures hcalm.failures,
        hcalm.answers⟩
  | pool | own => trivial

namespace ReadingRoom

/-- A room in which all lookups are about to end with the hits of a search. -/
structure Calm (index : Index) (mode : Mode) (desk : Desk)
    (tasks : Multiset Lookup) (callers : List Lookup) : Prop where
  desk : desk.Calm index mode
  tasks : ∀ lookup ∈ tasks, ∃ line, lookup.Seeks index mode line
  callers : ∀ lookup ∈ callers, ∃ line, lookup.Seeks index mode line

/-- A caller of a room looks up a line. -/
def Seeks (index : Index) (mode : Mode) (callers : List Lookup) (k : Nat)
    (line : String) : Prop :=
  ∃ lookup, callers[k]? = some lookup ∧ lookup.called = true ∧
    lookup.Seeks index mode line

variable {desk after : Desk} {tasks : Multiset Lookup}
  {callers : List Lookup} {lookup rest : Lookup}

theorem calm_iff_holds : Calm index mode desk tasks callers ↔
    Holds (Desk.Calm index mode)
      (fun lookup => ∃ line, lookup.Seeks index mode line) desk tasks
      callers :=
  ⟨fun ⟨hdesk, htasks, hcallers⟩ => ⟨hdesk, htasks, hcallers⟩,
    fun ⟨hdesk, htasks, hcallers⟩ => ⟨hdesk, htasks, hcallers⟩⟩

theorem Seeks.caller {k j : Nat} {line : String}
    (h : Seeks index mode callers j line) (hcalm : desk.Calm index mode)
    (hk : callers[k]? = some lookup)
    (hstep : Lookup.Step desk lookup after rest) :
    Seeks index mode (callers.set k rest) j line := by
  obtain ⟨seeker, hj, hcalled, hseeks⟩ := h
  by_cases heq : k = j
  · subst heq
    rw [hk] at hj
    cases hj
    refine ⟨rest, ?_, ?_, (Lookup.seeks_of_step hstep hcalm hseeks).2⟩
    · exact List.getElem?_set_self (List.getElem?_eq_some_iff.mp hk).1
    · rw [Lookup.called_of_step hstep, hcalled]
  · exact ⟨seeker, by rw [List.getElem?_set_ne heq, hj], hcalled, hseeks⟩

/-- Every calm event keeps a room calm, and all callers go on to the hits of
their lines. -/
theorem calm_of_step? {room next : ReadingRoom} {event : ReadingEvent}
    (h : room.step? event = some next) (hevent : event.IsCalm mode)
    (hcalm : Calm index mode room.pool.shared room.pool.tasks room.callers) :
    Calm index mode next.pool.shared next.pool.tasks next.callers ∧
      ∀ k line, Seeks index mode room.callers k line →
        Seeks index mode next.callers k line := by
  refine ⟨calm_iff_holds.mpr (holds_of_step? Lookup.keeps_seeks h hevent.keeps
    (calm_iff_holds.mp hcalm)), ?_⟩
  cases event with
  | submit asked line =>
      obtain ⟨pool, -, rfl⟩ := Option.map_eq_some_iff.mp h
      exact fun _ _ hseeks => hseeks
  | pool event =>
      obtain ⟨-, pool, -, rfl⟩ := pool_of_step? h
      exact fun _ _ hseeks => hseeks
  | call asked line =>
      cases h
      rintro k other ⟨lookup, hk, hseeks⟩
      refine ⟨lookup, ?_, hseeks⟩
      rw [List.getElem?_append_left (List.getElem?_eq_some_iff.mp hk).1, hk]
  | own k =>
      obtain ⟨lookup, hlookup, h⟩ := Option.bind_eq_some_iff.mp h
      obtain ⟨⟨desk, rest⟩, hrest, rfl⟩ := Option.map_eq_some_iff.mp h
      exact fun j line hseeks =>
        hseeks.caller hcalm.desk hlookup (Lookup.step_of_step? hrest)
  | fail reader => exact hevent.elim
  | probe change =>
      cases h
      exact fun _ _ hseeks => hseeks

theorem calm_start (workers : Nat) (index : Index) (mode : Mode) :
    Calm index mode (start workers index).pool.shared
      (start workers index).pool.tasks (start workers index).callers := by
  refine calm_iff_holds.mpr (holds_start workers ⟨rfl, rfl, ?_⟩)
  intro key hits hhits
  cases hhits

end ReadingRoom

end Concordance
