import Concordance.Proofs.PoolStep
import Concordance.Proofs.SearchRegister

/-!
# Every query is searched once under a claim

However the lookups of a reading room interleave, the keys under search are
those of lookups that took a claim and have not ended it, one lookup for each
key, and none of them is answered. What is answered stays so, with the hits of
the one search of its key that ever went well under a claim. Every other search
failed under a claim, or was made without one by a caller who had been told
that another has it.

An event moves one lookup at most, so what is to be shown of a room is what
the register keeps of that lookup and all others.
-/

namespace Concordance

namespace ReadingRoom

theorem pool_of_step? {room next : ReadingRoom} {event : PoolEvent Lookup}
    (h : room.step? (.pool event) = some next) :
    (∀ lookup, event ≠ .submit lookup) ∧
      ∃ pool, room.pool.step? Lookup.work event = some pool ∧
        { room with pool } = next := by
  unfold step? at h
  split at h
  · next heq => cases heq
  · cases h
  · next hlines heq =>
      cases heq
      exact ⟨hlines, Option.map_eq_some_iff.mp h⟩
  · next heq => cases heq
  · next heq => cases heq
  · next heq => cases heq
  · next heq => cases heq

/-- The tasks of the pool when a worker's lookup goes on, beside what they were. -/
theorem tasks_put {room : ReadingRoom} {i : Nat} {lookup : Lookup}
    (h : room.lookup? (.worker i) = some lookup) :
    ∃ others : Multiset Lookup, room.pool.tasks = lookup ::ₘ others ∧
      ∀ rest, (room.put rest (.worker i)).pool.tasks = rest ::ₘ others := by
  have hi : room.pool.workers[i]? = some (.running lookup) := by
    simp only [lookup?] at h
    split at h
    · next hi => rw [hi, Option.some.inj h]
    · cases h
  obtain ⟨others, htasks, hset⟩ :=
    Pool.tasksOf_set room.pool.entering? room.pool.queue hi
  exact ⟨others, htasks, fun rest => hset (.running rest)⟩

/-- What an event of the pool makes of the desk and of the lookups that are its
tasks. -/
inductive PoolStep (pool : PooledQueries) :
    PoolEvent Lookup → Desk → Multiset Lookup → Prop where
  | same {event : PoolEvent Lookup} (hmover : pool.mover? event = none) :
      PoolStep pool event pool.shared pool.tasks
  | come {lookup : Lookup} :
      PoolStep pool (.submit lookup) pool.shared (lookup ::ₘ pool.tasks)
  | act {event : PoolEvent Lookup} {lookup rest : Lookup} {desk : Desk}
      {others : Multiset Lookup}
      (hmover : pool.mover? event = some lookup)
      (htasks : pool.tasks = lookup ::ₘ others)
      (hstep : Lookup.Step pool.shared lookup desk rest) :
      PoolStep pool event desk (rest ::ₘ others)
  | finish {event : PoolEvent Lookup} {lookup : Lookup}
      {others : Multiset Lookup}
      (hmover : pool.mover? event = some lookup)
      (htasks : pool.tasks = lookup ::ₘ others)
      (hover : lookup.stepsLeft = 0) :
      PoolStep pool event pool.shared others

/-- Lookups neither spawn others nor stop the pool or wait for it. -/
theorem poolStep_of_step? {pool next : PooledQueries}
    {event : PoolEvent Lookup} (h : pool.step? Lookup.work event = some next) :
    PoolStep pool event next.shared next.tasks := by
  have hmoves : ∀ lookup {move}, Lookup.work.move pool.shared lookup = move →
      Lookup.Moves pool.shared lookup move :=
    fun lookup _ hmove => hmove ▸ Lookup.moves pool.shared lookup
  have htaskStep := Pool.taskStep_of_step (Pool.step_of_step? h)
  generalize next.shared = desk, next.tasks = tasks, next.pending = pending
    at htaskStep
  cases htaskStep with
  | same hmover => exact .same hmover
  | come => exact .come
  | act hmover htasks hmove =>
      exact .act hmover htasks (Lookup.step_of_move hmove)
  | finish hmover htasks hmove =>
      refine .finish hmover htasks ?_
      cases hmoves _ hmove with
      | answered => rfl
      | failed => rfl
  | spawn _ _ hmove => cases hmoves _ hmove
  | spawnRefused _ _ hmove => cases hmoves _ hmove
  | stop _ _ hmove => cases hmoves _ hmove
  | await _ _ hmove => cases hmoves _ hmove

end ReadingRoom

namespace Register

/-- Writes down what an event does in the pool. -/
def notePool (pool : PooledQueries) (register : Register) :
    PoolEvent Lookup → Register
  | .move i =>
    match pool.workers[i]? with
    | some (.running lookup) => register.note pool.shared (.worker i) lookup
    | _ => register
  | _ => register

/-- Writes down what an event does in a room. -/
def noteEvent (room : ReadingRoom) (register : Register) :
    ReadingEvent → Register
  | .pool event => register.notePool room.pool event
  | .own k =>
    match room.lookup? (.caller k) with
    | some lookup => register.note room.pool.shared (.caller k) lookup
    | none => register
  | .fail reader =>
    match room.lookup? reader with
    | some lookup => register.noteFailure reader lookup
    | none => register
  | _ => register

/-- The register after a run of events that can happen in turn. -/
def after (room : ReadingRoom) (register : Register)
    (events : List ReadingEvent) : Register :=
  notesAfter ReadingRoom.step?
    (fun register room event _ => register.noteEvent room event) register room
    events

/-- The register of a run. -/
def ofRun (room : ReadingRoom) (events : List ReadingEvent) : Register :=
  after room empty events

/-! ## What is kept of a room -/

/-- What every event keeps of the desk, the tasks of the pool and the
callers. -/
structure Settled (desk : Desk) (tasks : Multiset Lookup)
    (callers : List Lookup) (register : Register) : Prop where
  kept : register.Kept desk.cache (↑callers + tasks)
  pooled : ∀ lookup ∈ tasks, lookup.called = false ∧ lookup.unclaimed? = none
  called : ∀ k lookup, callers[k]? = some lookup → lookup.called = true ∧
    ∀ key, lookup.unclaimed? = some key → (.caller k, key) ∈ register.busy
  licensed : register.Licensed

/-- A task of the pool goes on. -/
theorem Settled.worker {desk after : Desk} {lookup rest : Lookup}
    {others : Multiset Lookup} {callers : List Lookup}
    {register later : Register}
    (hsettled : Settled desk (lookup ::ₘ others) callers register)
    (hkept : later.Kept after.cache (rest ::ₘ (↑callers + others)))
    (hrest : rest.called = false ∧ rest.unclaimed? = none)
    (hbusy : register.busy ⊆ later.busy) (hlicensed : later.Licensed) :
    Settled after (rest ::ₘ others) callers later where
  kept := by rwa [Multiset.add_cons]
  pooled := by
    intro other hother
    rcases Multiset.mem_cons.mp hother with rfl | hmem
    · exact hrest
    · exact hsettled.pooled other (Multiset.mem_cons_of_mem hmem)
  called := by
    intro k caller hk
    obtain ⟨hcalled, htold⟩ := hsettled.called k caller hk
    exact ⟨hcalled, fun key hkey => hbusy (htold key hkey)⟩
  licensed := hlicensed

/-- A caller goes on. -/
theorem Settled.caller {desk after : Desk} {rest : Lookup}
    {tasks : Multiset Lookup} {callers others : List Lookup}
    {register later : Register} {k : Nat}
    (hsettled : Settled desk tasks callers register)
    (hset : (callers.set k rest).Perm (rest :: others))
    (hkept : later.Kept after.cache (rest ::ₘ (↑others + tasks)))
    (hrest : rest.called = true ∧
      ∀ key, rest.unclaimed? = some key → (.caller k, key) ∈ later.busy)
    (hbusy : register.busy ⊆ later.busy) (hlicensed : later.Licensed) :
    Settled after tasks (callers.set k rest) later where
  kept := by
    rwa [Multiset.coe_eq_coe.mpr hset, ← Multiset.cons_coe, Multiset.cons_add]
  pooled := hsettled.pooled
  called := by
    intro j caller hj
    by_cases heq : k = j
    · subst heq
      have hlt : k < callers.length := by
        have hlength := (List.getElem?_eq_some_iff.mp hj).1
        rwa [List.length_set] at hlength
      rw [List.getElem?_set_self hlt] at hj
      cases hj
      exact hrest
    · rw [List.getElem?_set_ne heq] at hj
      obtain ⟨hcalled, htold⟩ := hsettled.called j caller hj
      exact ⟨hcalled, fun key hkey => hbusy (htold key hkey)⟩
  licensed := hlicensed

theorem settled_of_worker {desk after : Desk} {lookup rest : Lookup}
    {others : Multiset Lookup} {callers : List Lookup} {register : Register}
    (i : Nat) (hstep : Lookup.Step desk lookup after rest)
    (hsettled : Settled desk (lookup ::ₘ others) callers register) :
    Settled after (rest ::ₘ others) callers
      (register.note desk (.worker i) lookup) ∧
      desk.cache.answers.StayIn after.cache.answers := by
  have hkept := hsettled.kept
  rw [Multiset.add_cons] at hkept
  obtain ⟨hcalled, hunclaimed⟩ :=
    hsettled.pooled lookup (Multiset.mem_cons_self ..)
  refine ⟨?_, stayIn_of_step hstep hkept⟩
  refine hsettled.worker (kept_of_step _ hstep hkept) ⟨?_, ?_⟩ (busy_note ..) ?_
  · rw [Lookup.called_of_step hstep, hcalled]
  · apply Option.eq_none_iff_forall_ne_some.mpr
    intro key hkey
    rcases unclaimed_of_step register (.worker i) hstep hkey with
      hbefore | ⟨htrue, _⟩
    · rw [hunclaimed] at hbefore
      cases hbefore
    · rw [hcalled] at htrue
      cases htrue
  · apply licensed_of_step hstep hsettled.licensed
    intro key hkey
    rw [hunclaimed] at hkey
    cases hkey

theorem settled_of_caller {desk after : Desk} {lookup rest : Lookup}
    {tasks : Multiset Lookup} {callers : List Lookup} {register : Register}
    {k : Nat} (hk : callers[k]? = some lookup)
    (hstep : Lookup.Step desk lookup after rest)
    (hsettled : Settled desk tasks callers register) :
    Settled after tasks (callers.set k rest)
      (register.note desk (.caller k) lookup) ∧
      desk.cache.answers.StayIn after.cache.answers := by
  obtain ⟨others, hperm, hset⟩ := Pool.set_perm hk
  have hkept := hsettled.kept
  rw [Multiset.coe_eq_coe.mpr hperm, ← Multiset.cons_coe,
    Multiset.cons_add] at hkept
  obtain ⟨hcalled, htold⟩ := hsettled.called k lookup hk
  refine ⟨?_, stayIn_of_step hstep hkept⟩
  refine hsettled.caller (hset rest) (kept_of_step _ hstep hkept) ⟨?_, ?_⟩
    (busy_note ..) ?_
  · rw [Lookup.called_of_step hstep, hcalled]
  · intro key hkey
    rcases unclaimed_of_step register (.caller k) hstep hkey with
      hbefore | ⟨_, hbusy⟩
    · exact busy_note _ _ _ _ (htold key hbefore)
    · exact hbusy
  · exact licensed_of_step hstep hsettled.licensed fun key hkey =>
      ⟨⟨k, rfl⟩, htold key hkey⟩

/-! ## Events of the pool -/

theorem notePool_of_quiet {pool : PooledQueries} {event : PoolEvent Lookup}
    (hmover : pool.mover? event = none) (register : Register) :
    register.notePool pool event = register := by
  cases event with
  | move i =>
      simp only [Pool.mover?] at hmover
      simp only [notePool]
      split at hmover
      · cases hmover
      · next hother =>
          split
          · next lookup hi => exact absurd hi (hother lookup)
          · rfl
  | submit => rfl
  | enqueue => rfl
  | stop => rfl
  | notify => rfl
  | await => rfl
  | test => rfl

/-- What is written down of an event in the pool is what comes of the task that
goes on. -/
theorem notePool_of_mover {pool : PooledQueries} {event : PoolEvent Lookup}
    {lookup : Lookup} (hmover : pool.mover? event = some lookup)
    (register : Register) :
    ∃ i, register.notePool pool event =
      register.note pool.shared (.worker i) lookup := by
  cases event with
  | move i =>
      refine ⟨i, ?_⟩
      simp only [Pool.mover?] at hmover
      simp only [notePool]
      split at hmover
      · next hi =>
          cases hmover
          rw [hi]
      · cases hmover
  | submit => cases hmover
  | enqueue => cases hmover
  | stop => cases hmover
  | notify => cases hmover
  | await => cases hmover
  | test => cases hmover

/-- An event of the pool, in which nothing but the line of a lookup is
submitted. -/
theorem settled_of_poolStep {pool : PooledQueries} {event : PoolEvent Lookup}
    {desk : Desk} {tasks : Multiset Lookup}
    {callers : List Lookup} {register : Register}
    (h : ReadingRoom.PoolStep pool event desk tasks)
    (hlines : ∀ lookup, event = .submit lookup →
      ∃ mode line, lookup = .ofLine mode false line)
    (hsettled : Settled pool.shared pool.tasks callers register) :
    Settled desk tasks callers (register.notePool pool event) ∧
      pool.shared.cache.answers.StayIn desk.cache.answers := by
  cases h with
  | same hmover =>
      rw [notePool_of_quiet hmover]
      exact ⟨hsettled, fun _ _ hhits => hhits⟩
  | come =>
      obtain ⟨mode, line, rfl⟩ := hlines _ rfl
      refine ⟨⟨?_, ?_, hsettled.called, hsettled.licensed⟩,
        fun _ _ hhits => hhits⟩
      · rw [Multiset.add_cons]
        exact hsettled.kept.fresh mode false line
      · intro lookup hlookup
        rcases Multiset.mem_cons.mp hlookup with rfl | hmem
        · exact ⟨rfl, rfl⟩
        · exact hsettled.pooled lookup hmem
  | act hmover htasks hstep =>
      obtain ⟨i, hnote⟩ := notePool_of_mover hmover register
      rw [hnote]
      rw [htasks] at hsettled
      exact settled_of_worker i hstep hsettled
  | @finish _ lookup _ hmover htasks hover =>
      obtain ⟨i, hnote⟩ := notePool_of_mover hmover register
      rw [hnote]
      rw [htasks] at hsettled
      have hkept := hsettled.kept
      rw [Multiset.add_cons] at hkept
      have hpooled : ∀ other ∈ tasks, other.called = false ∧
          other.unclaimed? = none :=
        fun other hmem => hsettled.pooled other (Multiset.mem_cons_of_mem hmem)
      obtain ⟨mode, called, stage⟩ := lookup
      cases stage with
      | answered | failed =>
          exact ⟨⟨hkept.ended rfl rfl, hpooled,
            hsettled.called, hsettled.licensed⟩, fun _ _ hhits => hhits⟩
      | fresh | ready | searching | found | crashed => cases hover

/-! ## Events of a room -/

theorem settled_of_failure {room next : ReadingRoom} {register : Register}
    {reader : Reader} (h : room.step? (.fail reader) = some next)
    (hsettled : Settled room.pool.shared room.pool.tasks
      room.callers register) :
    Settled next.pool.shared next.pool.tasks next.callers
        (register.noteEvent room (.fail reader)) ∧ next.cache = room.cache := by
  obtain ⟨⟨mode, called, stage⟩, hlookup, h⟩ := Option.bind_eq_some_iff.mp h
  simp only [noteEvent, hlookup, noteFailure]
  split at h
  · next query claimed hstage =>
      obtain rfl : stage = .searching query claimed := hstage
      cases h
      cases reader with
      | worker i =>
          obtain ⟨others, htasks, hput⟩ := ReadingRoom.tasks_put hlookup
          rw [htasks] at hsettled
          have hkept := hsettled.kept
          have hpooled := hsettled.pooled _ (Multiset.mem_cons_self ..)
          refine ⟨?_, rfl⟩
          rw [hput]
          refine hsettled.worker (kept_of_failure _ ?_) hpooled
            (List.Subset.refl _) ?_
          · rw [← Multiset.add_cons]
            exact hkept
          · apply licensed_add hsettled.licensed
            rintro (rfl : claimed = false)
            cases hpooled.2
      | caller k =>
          obtain ⟨others, hperm, hset⟩ := Pool.set_perm hlookup
          have hkept := hsettled.kept
          rw [Multiset.coe_eq_coe.mpr hperm, ← Multiset.cons_coe,
            Multiset.cons_add] at hkept
          have hcalled := hsettled.called k _ hlookup
          refine ⟨?_, rfl⟩
          refine hsettled.caller (hset _) (kept_of_failure _ hkept) hcalled
            (List.Subset.refl _) ?_
          apply licensed_add hsettled.licensed
          rintro (rfl : claimed = false)
          exact ⟨⟨k, rfl⟩, hcalled.2 query.key rfl⟩
  · cases h

/-- Every event keeps a room settled, and what is answered stays answered, in
the same way. -/
theorem settled_of_step? {room next : ReadingRoom} {event : ReadingEvent}
    {register : Register} (h : room.step? event = some next)
    (hsettled : Settled room.pool.shared room.pool.tasks
      room.callers register) :
    Settled next.pool.shared next.pool.tasks next.callers
      (register.noteEvent room event) ∧
      room.cache.answers.StayIn next.cache.answers := by
  have hpool : ∀ {event pool}, room.pool.step? Lookup.work event = some pool →
      (∀ lookup, event = .submit lookup →
        ∃ mode line, lookup = .ofLine mode false line) →
      Settled pool.shared pool.tasks room.callers
        (register.notePool room.pool event) ∧
        room.cache.answers.StayIn pool.shared.cache.answers :=
    fun hstep hlines =>
      settled_of_poolStep (ReadingRoom.poolStep_of_step? hstep) hlines hsettled
  cases event with
  | submit mode line =>
      obtain ⟨pool, hstep, rfl⟩ := Option.map_eq_some_iff.mp h
      exact hpool hstep fun lookup heq =>
        ⟨mode, line, (PoolEvent.submit.inj heq).symm⟩
  | pool event =>
      obtain ⟨hlines, pool, hstep, rfl⟩ := ReadingRoom.pool_of_step? h
      exact hpool hstep fun lookup heq => absurd heq (hlines lookup)
  | call mode line =>
      cases h
      refine ⟨⟨?_, hsettled.pooled, ?_, hsettled.licensed⟩,
        fun _ _ hhits => hhits⟩
      · show register.Kept room.cache
          (↑(room.callers ++ [Lookup.ofLine mode true line]) + room.pool.tasks)
        rw [Multiset.coe_eq_coe.mpr (List.perm_append_singleton ..),
          ← Multiset.cons_coe, Multiset.cons_add]
        exact hsettled.kept.fresh mode true line
      · intro k lookup hk
        rw [List.getElem?_append] at hk
        split at hk
        · exact hsettled.called k lookup hk
        · rw [List.mem_singleton.mp (List.mem_of_getElem? hk)]
          exact ⟨rfl, fun _ hkey => by cases hkey⟩
  | own k =>
      obtain ⟨lookup, hlookup, h⟩ := Option.bind_eq_some_iff.mp h
      obtain ⟨⟨desk, rest⟩, hrest, rfl⟩ := Option.map_eq_some_iff.mp h
      simp only [noteEvent, hlookup]
      exact settled_of_caller hlookup (Lookup.step_of_step? hrest) hsettled
  | fail reader =>
      obtain ⟨hnext, hcache⟩ := settled_of_failure h hsettled
      exact ⟨hnext, fun _ _ hhits => by rw [hcache]; exact hhits⟩
  | probe change =>
      cases h
      refine ⟨?_, fun _ _ hhits => hhits⟩
      show Settled (room.pool.setProbe change).shared room.pool.tasks
        room.callers register
      exact ⟨hsettled.kept, hsettled.pooled, hsettled.called, hsettled.licensed⟩

/-! ## Runs -/

theorem settled_start (workers : Nat) (index : Index) :
    Settled (ReadingRoom.start workers index).pool.shared
      (ReadingRoom.start workers index).pool.tasks
      (ReadingRoom.start workers index).callers empty := by
  rw [show (ReadingRoom.start workers index).pool.tasks = 0 from
    Pool.tasks_start workers _]
  refine ⟨⟨?_, rfl, List.nodup_nil, rfl⟩, ?_, ?_, ?_⟩
  · intro key hkey
    cases hkey
  · intro lookup hlookup
    exact absurd hlookup (Multiset.notMem_zero lookup)
  · intro k lookup hk
    cases hk
  · intro search hsearch
    cases hsearch

theorem settled_after {room last : ReadingRoom} {register : Register}
    {events : List ReadingEvent}
    (hsettled : Settled room.pool.shared room.pool.tasks room.callers register)
    (h : room.run? events = some last) :
    Settled last.pool.shared last.pool.tasks last.callers
        (register.after room events) ∧
      room.cache.answers.StayIn last.cache.answers := by
  refine notes_keep (fun (late : ReadingRoom) (register : Register) =>
    Settled late.pool.shared late.pool.tasks late.callers register ∧
      room.cache.answers.StayIn late.cache.answers) ?_
    ⟨hsettled, fun _ _ hhits => hhits⟩ h
  rintro late event next register ⟨hlate, hkept⟩ hstep
  obtain ⟨hnext, hgrown⟩ := settled_of_step? hstep hlate
  exact ⟨hnext, fun key hits hhits => hgrown key hits (hkept key hits hhits)⟩

end Register

namespace ReadingRoom

/-- All lookups that were ever begun by callers, and those that are tasks of the
pool. -/
def lookups (room : ReadingRoom) : Multiset Lookup :=
  ↑room.callers + room.pool.tasks

/-- How the cache stands to the lookups, and to all searches that came to an
end. -/
structure Orderly (room : ReadingRoom) (register : Register) : Prop where
  unanswered : ∀ key ∈ room.cache.searching, room.cache.answers.get? key = none
  /-- The keys under search are those of the claims that lookups hold. -/
  claims : (room.cache.searching : Multiset String) =
    room.lookups.filterMap Lookup.claim?
  /-- No two lookups hold the claim on one key. -/
  claimant : ∀ key ∈ room.cache.searching,
    (room.lookups.filterMap Lookup.claim?).count key = 1
  /-- What was found under a claim is in the cache, or a lookup is about to put
  it there. -/
  finds : (register.finds : Multiset (String × List Hit)) =
    ↑room.cache.answers.entries + room.lookups.filterMap Lookup.find?
  /-- Of all searches of a key under a claim at most one ever went well. -/
  once : (register.finds.map Prod.fst).Nodup
  /-- What is answered is what that search found. -/
  answered : ∀ key hits, room.cache.answers.get? key = some hits →
    (register.finds.filter fun find => find.1 = key) = [(key, hits)]
  /-- A search filled the cache or is about to, or it failed under a claim, or
  it was made by a caller who was told that another had the claim. -/
  accounted : ∀ search ∈ register.searches,
    (search.claimed = true ∧ ∃ hits, search.hits? = some hits ∧
      (room.cache.answers.get? search.key = some hits ∨
        ∃ lookup ∈ room.lookups, lookup.find? = some (search.key, hits))) ∨
    (search.claimed = true ∧ search.hits? = none) ∨
    (search.claimed = false ∧ register.Told search.reader search.key)

/-- In a list without a key twice, one entry is all there is for its key. -/
theorem filter_key {α β : Type} [DecidableEq α] {xs : List (α × β)} {key : α}
    {value : β} (hnodup : (xs.map Prod.fst).Nodup) (hmem : (key, value) ∈ xs) :
    (xs.filter fun x => x.1 = key) = [(key, value)] := by
  induction xs with
  | nil => cases hmem
  | cons x xs ih =>
      obtain ⟨hhead, htail⟩ := List.nodup_cons.mp hnodup
      rcases List.mem_cons.mp hmem with rfl | hmem
      · rw [List.filter_cons, if_pos (decide_eq_true rfl), List.cons_inj_right]
        apply List.filter_eq_nil_iff.mpr
        intro y hy hkey
        have hagain : y.1 ∈ xs.map Prod.fst := List.mem_map_of_mem hy
        rw [of_decide_eq_true hkey] at hagain
        exact hhead hagain
      · rw [List.filter_cons_of_neg, ih htail hmem]
        intro hkey
        rw [of_decide_eq_true hkey] at hhead
        exact hhead (List.mem_map_of_mem hmem)

theorem orderly_of_settled {room : ReadingRoom} {register : Register}
    (h : Register.Settled room.pool.shared room.pool.tasks
      room.callers register) :
    room.Orderly register where
  unanswered := h.kept.unanswered
  claims := h.kept.claims
  claimant := by
    intro key hkey
    show (Multiset.filterMap Lookup.claim?
      (↑room.callers + room.pool.tasks)).count key = 1
    rw [← h.kept.claims]
    exact Multiset.count_eq_one_of_mem h.kept.nodup hkey
  finds := h.kept.finds
  once := Register.nodup_finds h.kept
  answered := by
    intro key hits hhits
    apply filter_key (Register.nodup_finds h.kept)
    rw [← Multiset.mem_coe, h.kept.finds]
    exact Multiset.mem_add.mpr (.inl (SortedMap.get?_eq_some_iff.mp hhits))
  accounted := by
    intro search hsearch
    cases hclaimed : search.claimed with
    | false => exact .inr (.inr ⟨rfl, h.licensed search hsearch hclaimed⟩)
    | true =>
        cases hfound : search.hits? with
        | none => exact .inr (.inl ⟨rfl, rfl⟩)
        | some hits =>
            refine .inl ⟨rfl, hits, rfl, ?_⟩
            have hmem : (search.key, hits) ∈
                (register.finds : Multiset (String × List Hit)) := by
              apply List.mem_filterMap.mpr
              refine ⟨search, hsearch, ?_⟩
              rw [if_pos hclaimed, hfound]
              rfl
            rw [h.kept.finds] at hmem
            rcases Multiset.mem_add.mp hmem with hentry | hfind
            · exact .inl (SortedMap.get?_eq_some_iff.mpr hentry)
            · exact .inr (Multiset.mem_filterMap _ _ |>.mp hfind)

/-- However the lookups of a room interleave, the room is orderly, and what was
answered at any moment before is answered now, in the same way. -/
theorem run_orderly {workers : Nat} {index : Index} {events : List ReadingEvent}
    {room : ReadingRoom} (h : (start workers index).run? events = some room) :
    room.Orderly (Register.ofRun (start workers index) events) ∧
      ∀ before after mid, events = before ++ after →
        (start workers index).run? before = some mid →
          mid.cache.answers.StayIn room.cache.answers := by
  have hstart := Register.settled_start workers index
  refine ⟨orderly_of_settled (Register.settled_after hstart h).1, ?_⟩
  rintro before after mid rfl hbefore
  have hafter : mid.run? after = some room :=
    (run_append hbefore after).symm.trans h
  have hmid := (Register.settled_after hstart hbefore).1
  exact (Register.settled_after hmid hafter).2

/-- Three readers of one query: the search of the first fails under the claim,
the second was told to wait for it and searches all the same, and the third
fills the cache. -/
def threeReaders : List ReadingEvent :=
  [.submit .exactly "cats", .pool (.enqueue none), .pool (.move 0),
    .pool (.move 0), .call .exactly "Cat!", .own 0, .own 0, .pool (.move 0),
    .fail (.worker 0), .own 0, .pool (.move 0), .pool (.move 0), .own 0,
    .call .exactly "cat", .own 1, .own 1, .own 1, .own 1]

theorem threeReaders_orderly : ∃ room,
    (start 1 .empty).run? threeReaders = some room ∧
    room.Orderly (Register.ofRun (start 1 .empty) threeReaders) ∧
    room.cache.answers.keys = ["cat"] ∧
    (Register.ofRun (start 1 .empty) threeReaders).searches.map
      SearchRecord.claimed = [true, false, true] := by
  refine ⟨_, rfl, ?_, rfl, rfl⟩
  exact (run_orderly rfl).1

end ReadingRoom

end Concordance
