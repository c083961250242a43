import Mathlib.Algebra.Order.Group.Multiset
import Mathlib.Data.List.Perm.Basic
import Mathlib.Tactic.Abel
import Concordance.Pool.Schedule
import Concordance.Proofs.EventRuns

/-!
# The steps of a pool, one by one

`Pool.step?` decides whether an event can happen and what it makes of a pool.
`Pool.Step` says the same as a list of cases, one for each thing that can
happen, with everything the pool must be like for it and the pool that comes
of it written out. Every argument about runs goes through these cases and
never through `step?` itself.

Most arguments ask only for the tasks that are accepted and not yet ended,
wherever they are: on their way into the queue, in it, or with a worker. They
are a multiset, `Pool.tasks`, since a worker may take a task from the queue
without anybody noticing. What a step does to it is the second half of this
file. There are only a few cases left of the many: a task comes, makes a step,
submits another, or ends, and otherwise nothing happens.
-/

namespace Concordance

namespace Pool

variable {σ τ : Type}

/-- The worker is about to look at the queue. -/
def isReady (pool : Pool σ τ) (i : Nat) : Prop :=
  pool.workers[i]? = some .looking ∨ pool.workers[i]? = some .woken

/-- What can happen in a pool. -/
inductive Step (work : Work σ τ) (pool : Pool σ τ) :
    PoolEvent τ → Pool σ τ → Prop where
  | refuse {task : τ} (hfree : pool.entering? = none)
      (hstopped : pool.stopped = true) :
      Step work pool (.submit task) pool
  | accept {task : τ} (hfree : pool.entering? = none)
      (hstopped : pool.stopped = false) :
      Step work pool (.submit task)
        { pool with
          pending := pool.pending + 1, entering? := some ⟨task, none⟩ }
  | enqueue {woken? : Option Nat} {entering : Entering τ}
      {workers : List (Worker τ)}
      (hentering : pool.entering? = some entering)
      (hwoken : pool.wakeOne? woken? = some workers) :
      Step work pool (.enqueue woken?)
        { pool with
          queue := pool.queue ++ [entering.task], entering? := none, workers }
  | take {i : Nat} {task : τ} {queue : List τ} (hready : pool.isReady i)
      (hfree : pool.entering? = none) (hqueue : pool.queue = task :: queue) :
      Step work pool (.move i)
        { pool with queue, workers := pool.workers.set i (.running task) }
  | leave {i : Nat} (hready : pool.isReady i) (hfree : pool.entering? = none)
      (hqueue : pool.queue = []) (hstopped : pool.stopped = true) :
      Step work pool (.move i) { pool with workers := pool.workers.set i .gone }
  | park {i : Nat} (hready : pool.isReady i) (hfree : pool.entering? = none)
      (hqueue : pool.queue = []) (hstopped : pool.stopped = false) :
      Step work pool (.move i)
        { pool with workers := pool.workers.set i .parked }
  | finish {i : Nat} {task : τ} {ending : Ending}
      (hi : pool.workers[i]? = some (.running task))
      (hmove : work.move pool.shared task = .finish ending) :
      Step work pool (.move i) (pool.finishOne i)
  | act {i : Nat} {task rest : τ} {shared : σ}
      (hi : pool.workers[i]? = some (.running task))
      (hmove : work.move pool.shared task = .act shared rest) :
      Step work pool (.move i)
        { pool with shared, workers := pool.workers.set i (.running rest) }
  | spawnRefused {i : Nat} {task child rest : τ}
      (hi : pool.workers[i]? = some (.running task))
      (hmove : work.move pool.shared task = .spawn child rest)
      (hfree : pool.entering? = none) (hstopped : pool.stopped = true) :
      Step work pool (.move i)
        { pool with workers := pool.workers.set i (.running rest) }
  | spawn {i : Nat} {task child rest : τ}
      (hi : pool.workers[i]? = some (.running task))
      (hmove : work.move pool.shared task = .spawn child rest)
      (hfree : pool.entering? = none) (hstopped : pool.stopped = false) :
      Step work pool (.move i)
        { pool with
          pending := pool.pending + 1
          entering? := some ⟨child, some i⟩
          workers := pool.workers.set i (.running rest) }
  | stopWithin {i : Nat} {task rest : τ}
      (hi : pool.workers[i]? = some (.running task))
      (hmove : work.move pool.shared task = .stop rest)
      (hfree : pool.entering? = none) :
      Step work pool (.move i)
        { pool.halt with workers := pool.workers.set i (.running rest) }
  | awaitWithin {i : Nat} {task rest : τ}
      (hi : pool.workers[i]? = some (.running task))
      (hmove : work.move pool.shared task = .await rest) :
      Step work pool (.move i)
        { pool with
          workers := pool.workers.set i (.awaiting pool.waiters.length rest)
          waiters := pool.waiters ++ [.testing] }
  | resume {i k : Nat} {rest : τ}
      (hi : pool.workers[i]? = some (.awaiting k rest))
      (hk : pool.waiters[k]? = some .through) :
      Step work pool (.move i)
        { pool with workers := pool.workers.set i (.running rest) }
  | stop (hfree : pool.entering? = none) : Step work pool .stop pool.halt
  | notify (hnotices : pool.notices ≠ 0) :
      Step work pool .notify
        { pool with
          notices := pool.notices - 1, workers := pool.workers.map Worker.wake }
  | await :
      Step work pool .await { pool with waiters := pool.waiters ++ [.testing] }
  | pass {k : Nat} (hk : pool.waiters[k]? = some .testing)
      (hidle : pool.pending = 0) :
      Step work pool (.test k)
        { pool with waiters := pool.waiters.set k .through }
  | stay {k : Nat} (hk : pool.waiters[k]? = some .testing)
      (hbusy : pool.pending ≠ 0) :
      Step work pool (.test k)
        { pool with waiters := pool.waiters.set k .parked }

theorem entering_eq_none {pool : Pool σ τ} (h : ¬pool.entering?.isSome = true) :
    pool.entering? = none := by
  rwa [Bool.not_eq_true, Option.isSome_eq_false_iff,
    Option.isNone_iff_eq_none] at h

theorem accept_of_stopped {pool : Pool σ τ} (h : pool.stopped = true) (task : τ)
    (worker? : Option Nat) : pool.accept task worker? = pool :=
  if_pos h

theorem accept_of_open {pool : Pool σ τ} (h : pool.stopped = false) (task : τ)
    (worker? : Option Nat) : pool.accept task worker? =
      { pool with
        pending := pool.pending + 1, entering? := some ⟨task, worker?⟩ } :=
  if_neg (Bool.eq_false_iff.mp h)

theorem step_of_look {work : Work σ τ} {pool : Pool σ τ} {i : Nat}
    (hready : pool.isReady i) (hfree : pool.entering? = none) :
    Step work pool (.move i) (pool.look i) := by
  unfold look
  split
  · next task queue hqueue => exact .take hready hfree hqueue
  · next hqueue =>
      by_cases hstopped : pool.stopped = true
      · rw [if_pos hstopped]
        exact .leave hready hfree hqueue hstopped
      · rw [if_neg hstopped]
        exact .park hready hfree hqueue (Bool.eq_false_iff.mpr hstopped)

theorem step_of_advance? {work : Work σ τ} {pool next : Pool σ τ} {i : Nat}
    {task : τ} (hi : pool.workers[i]? = some (.running task))
    (h : pool.advance? work i task = some next) :
    Step work pool (.move i) next := by
  unfold advance? at h
  split at h
  · next ending hmove =>
      cases h
      exact .finish hi hmove
  · next shared rest hmove =>
      cases h
      exact .act hi hmove
  · next child rest hmove =>
      split at h
      · cases h
      · next hfree =>
          have hfree := entering_eq_none hfree
          cases h
          by_cases hstopped : pool.stopped = true
          · rw [accept_of_stopped hstopped]
            exact .spawnRefused hi hmove hfree hstopped
          · have hopen := Bool.eq_false_iff.mpr hstopped
            rw [accept_of_open hopen]
            exact .spawn hi hmove hfree hopen
  · next rest hmove =>
      split at h
      · cases h
      · next hfree =>
          cases h
          exact .stopWithin hi hmove (entering_eq_none hfree)
  · next rest hmove =>
      cases h
      exact .awaitWithin hi hmove
  · cases h

/-- Whatever an event makes of a pool, it is one of the listed cases. -/
theorem step_of_step? {work : Work σ τ} {pool next : Pool σ τ}
    {event : PoolEvent τ} (h : pool.step? work event = some next) :
    Step work pool event next := by
  cases event with
  | submit task =>
      simp only [step?] at h
      split at h
      · cases h
      · next hfree =>
          cases h
          by_cases hstopped : pool.stopped = true
          · rw [accept_of_stopped hstopped]
            exact .refuse (entering_eq_none hfree) hstopped
          · have hopen := Bool.eq_false_iff.mpr hstopped
            rw [accept_of_open hopen]
            exact .accept (entering_eq_none hfree) hopen
  | enqueue woken? =>
      simp only [step?] at h
      split at h
      · cases h
      · next entering hentering =>
          obtain ⟨workers, hwoken, rfl⟩ := Option.map_eq_some_iff.mp h
          exact .enqueue hentering hwoken
  | move i =>
      simp only [step?] at h
      split at h
      · next hi =>
          split at h
          · cases h
          · next hfree =>
              cases h
              exact step_of_look (.inl hi) (entering_eq_none hfree)
      · next hi =>
          split at h
          · cases h
          · next hfree =>
              cases h
              exact step_of_look (.inr hi) (entering_eq_none hfree)
      · next task hi =>
          split at h
          · cases h
          · exact step_of_advance? hi h
      · next k rest hi =>
          split at h
          · next hk => cases h; exact .resume hi hk
          · cases h
      · cases h
  | stop =>
      simp only [step?] at h
      split at h
      · cases h
      · next hfree => cases h; exact .stop (entering_eq_none hfree)
  | notify =>
      simp only [step?] at h
      split at h
      · cases h
      · next hnotices => cases h; exact .notify hnotices
  | await =>
      cases h
      exact .await
  | test k =>
      simp only [step?] at h
      split at h
      · next hk =>
          cases h
          by_cases hidle : pool.pending = 0
          · rw [if_pos hidle]; exact .pass hk hidle
          · rw [if_neg hidle]; exact .stay hk hidle
      · cases h

/-- A stop is for good. -/
theorem stopped_of_step {work : Work σ τ} {pool next : Pool σ τ}
    {event : PoolEvent τ} (h : Step work pool event next)
    (hstopped : pool.stopped = true) : next.stopped = true := by
  cases h with
  | stopWithin => rfl
  | stop => rfl
  | refuse => exact hstopped
  | accept => exact hstopped
  | enqueue => exact hstopped
  | take => exact hstopped
  | leave => exact hstopped
  | park => exact hstopped
  | finish => exact hstopped
  | act => exact hstopped
  | spawnRefused => exact hstopped
  | spawn => exact hstopped
  | awaitWithin => exact hstopped
  | resume => exact hstopped
  | notify => exact hstopped
  | await => exact hstopped
  | pass => exact hstopped
  | stay => exact hstopped

theorem open_of_step {work : Work σ τ} {pool next : Pool σ τ}
    {event : PoolEvent τ} (h : Step work pool event next)
    (hopen : next.stopped = false) : pool.stopped = false := by
  cases hstopped : pool.stopped with
  | false => rfl
  | true =>
      rw [stopped_of_step h hstopped] at hopen
      cases hopen

/-! ## What a worker comes to be -/

/-- What a worker can be after an event that it was not before, and what the
pool was like then. -/
inductive Comes (work : Work σ τ) (pool : Pool σ τ) : Worker τ → Prop where
  | looking : Comes work pool .looking
  | parked (hqueue : pool.queue = []) (hstopped : pool.stopped = false) :
      Comes work pool .parked
  | woken : Comes work pool .woken
  | running {task : τ} : Comes work pool (.running task)
  | awaiting {k : Nat} {task rest : τ}
      (hmove : work.move pool.shared task = .await rest) :
      Comes work pool (.awaiting k rest)
  | gone (hqueue : pool.queue = []) (hstopped : pool.stopped = true) :
      Comes work pool .gone

theorem comes_of_set {work : Work σ τ} {pool : Pool σ τ} {i j : Nat}
    {v w : Worker τ} (hw : Comes work pool w)
    (hv : (pool.workers.set j w)[i]? = some v) :
    pool.workers[i]? = some v ∨ Comes work pool v := by
  rw [List.getElem?_set] at hv
  split at hv
  · split at hv
    · cases hv
      exact .inr hw
    · cases hv
  · exact .inl hv

theorem comes_of_wakeOne? {work : Work σ τ} {pool : Pool σ τ}
    {woken? : Option Nat} {workers : List (Worker τ)} {i : Nat} {v : Worker τ}
    (h : pool.wakeOne? woken? = some workers) (hv : workers[i]? = some v) :
    pool.workers[i]? = some v ∨ Comes work pool v := by
  unfold wakeOne? at h
  split at h
  · split at h
    · cases h
    · cases h
      exact .inl hv
  · split at h
    · cases h
      exact comes_of_set .woken hv
    · cases h

theorem comes_of_wake {work : Work σ τ} {pool : Pool σ τ} {i : Nat}
    {v : Worker τ} (hv : (pool.workers.map Worker.wake)[i]? = some v) :
    pool.workers[i]? = some v ∨ Comes work pool v := by
  rw [List.getElem?_map] at hv
  obtain ⟨worker, hi, rfl⟩ := Option.map_eq_some_iff.mp hv
  cases worker with
  | parked => exact .inr .woken
  | looking => exact .inl hi
  | woken => exact .inl hi
  | running => exact .inl hi
  | awaiting => exact .inl hi
  | gone => exact .inl hi

theorem comes_of_step {work : Work σ τ} {pool next : Pool σ τ}
    {event : PoolEvent τ} (h : Step work pool event next) {i : Nat}
    {v : Worker τ} (hv : next.workers[i]? = some v) :
    pool.workers[i]? = some v ∨ Comes work pool v := by
  cases h with
  | enqueue hentering hwoken => exact comes_of_wakeOne? hwoken hv
  | take => exact comes_of_set .running hv
  | leave hready hfree hqueue hstopped =>
      exact comes_of_set (.gone hqueue hstopped) hv
  | park hready hfree hqueue hstopped =>
      exact comes_of_set (.parked hqueue hstopped) hv
  | finish => exact comes_of_set .looking hv
  | act => exact comes_of_set .running hv
  | spawnRefused => exact comes_of_set .running hv
  | spawn => exact comes_of_set .running hv
  | stopWithin => exact comes_of_set .running hv
  | awaitWithin hi hmove => exact comes_of_set (.awaiting hmove) hv
  | resume => exact comes_of_set .running hv
  | notify => exact comes_of_wake hv
  | refuse => exact .inl hv
  | accept => exact .inl hv
  | stop => exact .inl hv
  | await => exact .inl hv
  | pass => exact .inl hv
  | stay => exact .inl hv

/-- The same for a worker wherever it stands. -/
theorem comes_of_mem {work : Work σ τ} {pool next : Pool σ τ}
    {event : PoolEvent τ} (h : Step work pool event next) {v : Worker τ}
    (hv : v ∈ next.workers) : v ∈ pool.workers ∨ Comes work pool v := by
  obtain ⟨i, hi⟩ := List.getElem?_of_mem hv
  rcases comes_of_step h hi with hold | hcomes
  · exact .inl (List.mem_of_getElem? hold)
  · exact .inr hcomes

/-! ## Runs -/

/-- What every step keeps, every run keeps. -/
theorem run?_keeps {work : Work σ τ} (Inv : Pool σ τ → Prop)
    (hkeeps : ∀ {pool event next}, Step work pool event next → Inv pool →
      Inv next) {pool last : Pool σ τ} {events : List (PoolEvent τ)}
    (hstart : Inv pool) (h : pool.run? work events = some last) : Inv last :=
  run_keeps Inv (fun _ hinv hstep => hkeeps (step_of_step? hstep) hinv) hstart h

theorem ne_submit_of_next? {work : Work σ τ} {pool : Pool σ τ}
    {event : PoolEvent τ} (h : pool.next? work = some event) (task : τ) :
    event ≠ .submit task := by
  rintro rfl
  unfold next? at h
  split at h
  · cases h
  · split at h
    · cases h
    · obtain ⟨i, _, hi⟩ := Option.map_eq_some_iff.mp h
      cases hi

/-- What a pool comes to by itself, it comes to in a run in which nobody outside
submits. -/
theorem exists_run?_settleFor (work : Work σ τ) (steps : Nat) :
    ∀ pool : Pool σ τ,
    ∃ events, pool.run? work events = some (settleFor work steps pool) ∧
      ∀ event ∈ events, ∀ task, event ≠ .submit task := by
  induction steps with
  | zero => exact fun pool => ⟨[], rfl, fun _ h => absurd h List.not_mem_nil⟩
  | succ steps ih =>
      intro pool
      rw [settleFor]
      split
      · next later hlater =>
          obtain ⟨event, hevent, hstep⟩ := Option.bind_eq_some_iff.mp hlater
          obtain ⟨events, hrun, hquiet⟩ := ih later
          exact ⟨event :: events, (run_cons hstep events).trans hrun,
            List.forall_mem_cons.mpr ⟨ne_submit_of_next? hevent, hquiet⟩⟩
      · exact ⟨[], rfl, fun _ h => absurd h List.not_mem_nil⟩

/-! ## The tasks in a pool

A worker's place in the list of workers is of no account here, so the tasks of
all workers but one are set apart, and only what that one holds is looked at
before and after. -/

/-- The tasks on their way into the queue, in it, and with the workers. -/
def tasksOf (entering? : Option (Entering τ)) (queue : List τ)
    (workers : List (Worker τ)) : Multiset τ :=
  ↑(entering?.toList.map Entering.task) + ↑queue +
    ↑(workers.filterMap Worker.task?)

/-- The tasks that are accepted and have not ended. -/
def tasks (pool : Pool σ τ) : Multiset τ :=
  tasksOf pool.entering? pool.queue pool.workers

theorem tasks_start (workers : Nat) (shared : σ) :
    (start workers shared : Pool σ τ).tasks = 0 := by
  have hidle : (start workers shared : Pool σ τ).workers.filterMap
      Worker.task? = [] := by
    apply List.filterMap_eq_nil_iff.mpr
    intro worker hworker
    rw [List.eq_of_mem_replicate hworker]
    rfl
  rw [tasks, tasksOf, hidle]
  rfl

theorem tasksOf_some (entering : Entering τ) (queue : List τ)
    (workers : List (Worker τ)) :
    tasksOf (some entering) queue workers =
      entering.task ::ₘ tasksOf none queue workers := by
  simp only [tasksOf, Option.toList_some, List.map_cons, List.map_nil,
    Option.toList_none, Multiset.coe_nil, Multiset.coe_singleton, zero_add,
    Multiset.singleton_add, Multiset.cons_add]

theorem tasksOf_cons (entering? : Option (Entering τ)) (task : τ)
    (queue : List τ) (workers : List (Worker τ)) :
    tasksOf entering? (task :: queue) workers =
      task ::ₘ tasksOf entering? queue workers := by
  simp only [tasksOf, ← Multiset.cons_coe, Multiset.add_cons, Multiset.cons_add]

theorem tasksOf_append (entering? : Option (Entering τ)) (queue : List τ)
    (task : τ) (workers : List (Worker τ)) :
    tasksOf entering? (queue ++ [task]) workers =
      task ::ₘ tasksOf entering? queue workers := by
  rw [← tasksOf_cons, tasksOf, tasksOf,
    Multiset.coe_eq_coe.mpr (List.perm_append_singleton task queue)]

/-- A list in which one member is changed, beside what all others are. -/
theorem set_perm {α : Type} {xs : List α} {i : Nat} {x : α}
    (hi : xs[i]? = some x) :
    ∃ others : List α, xs.Perm (x :: others) ∧
      ∀ y, (xs.set i y).Perm (y :: others) := by
  obtain ⟨hlt, hget⟩ := List.getElem?_eq_some_iff.mp hi
  refine ⟨xs.eraseIdx i, ?_, fun y => List.set_perm_cons_eraseIdx hlt y⟩
  have hperm := List.set_perm_cons_eraseIdx hlt x
  rwa [← hget, List.set_getElem_self, hget] at hperm

theorem coe_filterMap_set {α β : Type} (f : α → Option β) {xs : List α}
    {i : Nat} {x : α} (hi : xs[i]? = some x) :
    ∃ others : Multiset β,
      (↑(xs.filterMap f) : Multiset β) = ↑(f x).toList + others ∧
      ∀ y, (↑((xs.set i y).filterMap f) : Multiset β) =
        ↑(f y).toList + others := by
  obtain ⟨others, hperm, hset⟩ := set_perm hi
  have hcons : ∀ {ys : List α} {y : α}, ys.Perm (y :: others) →
      (↑(ys.filterMap f) : Multiset β) =
        ↑(f y).toList + ↑(others.filterMap f) := by
    intro ys y hys
    rw [Multiset.coe_eq_coe.mpr (hys.filterMap f), Multiset.coe_add,
      List.filterMap_cons]
    cases f y <;> rfl
  exact ⟨↑(others.filterMap f), hcons hperm, fun y => hcons (hset y)⟩

/-- The tasks when one worker has moved on, beside what that worker held
before. -/
theorem tasksOf_set (entering? : Option (Entering τ)) (queue : List τ)
    {workers : List (Worker τ)} {i : Nat} {worker : Worker τ}
    (hi : workers[i]? = some worker) :
    ∃ others : Multiset τ,
      tasksOf entering? queue workers = ↑worker.task?.toList + others ∧
      ∀ w, tasksOf entering? queue (workers.set i w) =
        ↑w.task?.toList + others := by
  obtain ⟨busy, hbusy, hset⟩ := coe_filterMap_set Worker.task? hi
  refine ⟨↑(entering?.toList.map Entering.task) + ↑queue + busy, ?_, ?_⟩
  · rw [tasksOf, hbusy]
    abel
  · intro w
    rw [tasksOf, hset w]
    abel

/-- A step that moves a worker from holding nothing to holding nothing, or from
a task to the same task, leaves the tasks alone. -/
theorem tasksOf_set_same (entering? : Option (Entering τ)) (queue : List τ)
    {workers : List (Worker τ)} {i : Nat} {worker w : Worker τ}
    (hi : workers[i]? = some worker) (hw : w.task? = worker.task?) :
    tasksOf entering? queue (workers.set i w) =
      tasksOf entering? queue workers := by
  obtain ⟨others, htasks, hset⟩ := tasksOf_set entering? queue hi
  rw [hset w, hw, htasks]

theorem task?_of_isReady {pool : Pool σ τ} {i : Nat} (h : pool.isReady i) :
    ∃ worker, pool.workers[i]? = some worker ∧ worker.task? = none := by
  rcases h with h | h
  · exact ⟨.looking, h, rfl⟩
  · exact ⟨.woken, h, rfl⟩

theorem tasksOf_wakeOne? {pool : Pool σ τ} {woken? : Option Nat}
    {workers : List (Worker τ)} (h : pool.wakeOne? woken? = some workers)
    (entering? : Option (Entering τ)) (queue : List τ) :
    tasksOf entering? queue workers = tasksOf entering? queue pool.workers := by
  unfold wakeOne? at h
  split at h
  · split at h
    · cases h
    · cases h; rfl
  · next i =>
      split at h
      · next hi => cases h; exact tasksOf_set_same entering? queue hi rfl
      · cases h

theorem task?_wake (worker : Worker τ) : worker.wake.task? = worker.task? := by
  cases worker <;> rfl

theorem tasksOf_wake (entering? : Option (Entering τ)) (queue : List τ)
    (workers : List (Worker τ)) :
    tasksOf entering? queue (workers.map Worker.wake) =
      tasksOf entering? queue workers := by
  rw [tasksOf, List.filterMap_map]
  have htask : Worker.task? ∘ Worker.wake =
      (Worker.task? : Worker τ → Option τ) := funext task?_wake
  rw [htask, tasksOf]

/-- The task that goes on in an event. -/
def mover? (pool : Pool σ τ) : PoolEvent τ → Option τ
  | .move i =>
    match pool.workers[i]? with
    | some (.running task) => some task
    | _ => none
  | _ => none

/-- What a step leaves of the shared data, of the tasks in a pool and of the
number of pending tasks. -/
inductive TaskStep (work : Work σ τ) (pool : Pool σ τ) :
    PoolEvent τ → σ → Multiset τ → Nat → Prop where
  | same {event : PoolEvent τ} (hmover : pool.mover? event = none) :
      TaskStep work pool event pool.shared pool.tasks pool.pending
  | come {task : τ} (hopen : pool.stopped = false) :
      TaskStep work pool (.submit task) pool.shared (task ::ₘ pool.tasks)
        (pool.pending + 1)
  | act {event : PoolEvent τ} {task rest : τ} {shared : σ} {others : Multiset τ}
      (hmover : pool.mover? event = some task)
      (htasks : pool.tasks = task ::ₘ others)
      (hmove : work.move pool.shared task = .act shared rest) :
      TaskStep work pool event shared (rest ::ₘ others) pool.pending
  | spawn {event : PoolEvent τ} {task child rest : τ} {others : Multiset τ}
      (hmover : pool.mover? event = some task)
      (htasks : pool.tasks = task ::ₘ others)
      (hmove : work.move pool.shared task = .spawn child rest)
      (hopen : pool.stopped = false) :
      TaskStep work pool event pool.shared (child ::ₘ rest ::ₘ others)
        (pool.pending + 1)
  | spawnRefused {event : PoolEvent τ} {task child rest : τ}
      {others : Multiset τ}
      (hmover : pool.mover? event = some task)
      (htasks : pool.tasks = task ::ₘ others)
      (hmove : work.move pool.shared task = .spawn child rest)
      (hstopped : pool.stopped = true) :
      TaskStep work pool event pool.shared (rest ::ₘ others) pool.pending
  | stop {event : PoolEvent τ} {task rest : τ} {others : Multiset τ}
      (hmover : pool.mover? event = some task)
      (htasks : pool.tasks = task ::ₘ others)
      (hmove : work.move pool.shared task = .stop rest) :
      TaskStep work pool event pool.shared (rest ::ₘ others) pool.pending
  | await {event : PoolEvent τ} {task rest : τ} {others : Multiset τ}
      (hmover : pool.mover? event = some task)
      (htasks : pool.tasks = task ::ₘ others)
      (hmove : work.move pool.shared task = .await rest) :
      TaskStep work pool event pool.shared (rest ::ₘ others) pool.pending
  | finish {event : PoolEvent τ} {task : τ} {ending : Ending}
      {others : Multiset τ}
      (hmover : pool.mover? event = some task)
      (htasks : pool.tasks = task ::ₘ others)
      (hmove : work.move pool.shared task = .finish ending) :
      TaskStep work pool event pool.shared others (pool.pending - 1)

theorem mover?_of_running {pool : Pool σ τ} {i : Nat} {task : τ}
    (hi : pool.workers[i]? = some (.running task)) :
    pool.mover? (.move i) = some task := by
  simp only [mover?, hi]

theorem mover?_of_isReady {pool : Pool σ τ} {i : Nat}
    (hready : pool.isReady i) :
    pool.mover? (.move i) = none := by
  rcases hready with h | h <;> simp only [mover?, h]

theorem TaskStep.of_eq {work : Work σ τ} {pool : Pool σ τ} {event : PoolEvent τ}
    {shared : σ} {tasks others : Multiset τ} {pending : Nat}
    (h : TaskStep work pool event shared tasks pending) (heq : others = tasks) :
    TaskStep work pool event shared others pending :=
  heq ▸ h

theorem tasks_accept {pool : Pool σ τ} (hfree : pool.entering? = none)
    (task : τ) :
    tasksOf (some ⟨task, none⟩) pool.queue pool.workers =
      task ::ₘ pool.tasks := by
  rw [tasksOf_some, tasks, hfree]

/-- A pool that is not stopped takes in what is submitted, and changes in
nothing else. -/
theorem accepted_of_step {work : Work σ τ} {pool next : Pool σ τ} {task : τ}
    (h : Step work pool (.submit task) next) (hopen : pool.stopped = false) :
    next.tasks = task ::ₘ pool.tasks ∧ next.pending = pool.pending + 1 ∧
      next.shared = pool.shared := by
  cases h with
  | refuse hfree hstopped =>
      rw [hopen] at hstopped
      cases hstopped
  | accept hfree => exact ⟨tasks_accept hfree task, rfl, rfl⟩

/-- Whatever happens in a pool, it is one of these cases for its tasks. -/
theorem taskStep_of_step {work : Work σ τ} {pool next : Pool σ τ}
    {event : PoolEvent τ} (h : Step work pool event next) :
    TaskStep work pool event next.shared next.tasks next.pending := by
  have hsame : ∀ {event : PoolEvent τ} {others : Multiset τ},
      pool.mover? event = none → others = pool.tasks →
        TaskStep work pool event pool.shared others pool.pending :=
    fun hmover => (TaskStep.same hmover).of_eq
  -- What a worker in the middle of a task leaves when it goes on as another
  -- worker.
  have hheld : ∀ {i task}, pool.workers[i]? = some (.running task) →
      ∃ others, pool.tasks = task ::ₘ others ∧
        ∀ w, tasksOf pool.entering? pool.queue (pool.workers.set i w) =
          ↑w.task?.toList + others :=
    fun hi => tasksOf_set pool.entering? pool.queue hi
  cases h with
  | refuse => exact .same rfl
  | accept hfree hopen =>
      exact (TaskStep.come hopen).of_eq (tasks_accept hfree _)
  | enqueue hentering hwoken =>
      apply hsame rfl
      rw [tasks, tasks, tasksOf_wakeOne? hwoken, tasksOf_append, hentering,
        tasksOf_some]
  | take hready hfree hqueue =>
      obtain ⟨worker, hi, hnone⟩ := task?_of_isReady hready
      obtain ⟨others, htasks, hset⟩ :=
        tasksOf_set pool.entering? pool.queue.tail hi
      rw [hqueue, List.tail_cons] at htasks hset
      apply hsame (mover?_of_isReady hready)
      rw [tasks, tasks, hqueue, tasksOf_cons, hset, htasks, hnone]
      simp only [Worker.task?, Option.toList_some, Option.toList_none,
        Multiset.coe_singleton, Multiset.coe_nil,
        Multiset.singleton_add, zero_add]
  | leave hready =>
      obtain ⟨worker, hi, hnone⟩ := task?_of_isReady hready
      exact hsame (mover?_of_isReady hready)
        (tasksOf_set_same _ _ hi hnone.symm)
  | park hready =>
      obtain ⟨worker, hi, hnone⟩ := task?_of_isReady hready
      exact hsame (mover?_of_isReady hready)
        (tasksOf_set_same _ _ hi hnone.symm)
  | finish hi hmove =>
      obtain ⟨others, htasks, hset⟩ := hheld hi
      have hnext : (pool.finishOne _).tasks = others :=
        (hset .looking).trans (zero_add others)
      exact (TaskStep.finish (mover?_of_running hi) htasks hmove).of_eq hnext
  | act hi hmove =>
      obtain ⟨others, htasks, hset⟩ := hheld hi
      exact (TaskStep.act (mover?_of_running hi) htasks hmove).of_eq
        (hset (.running _))
  | spawnRefused hi hmove hfree hstopped =>
      obtain ⟨others, htasks, hset⟩ := hheld hi
      have hnext := TaskStep.spawnRefused (mover?_of_running hi) htasks hmove
        hstopped
      exact hnext.of_eq (hset (.running _))
  | @spawn i task child rest hi hmove hfree hopen =>
      obtain ⟨others, htasks, hset⟩ := hheld hi
      have hnext : tasksOf (some ⟨child, some i⟩) pool.queue
            (pool.workers.set i (.running rest)) =
          child ::ₘ rest ::ₘ others := by
        rw [tasksOf_some, ← hfree, hset]
        rfl
      exact (TaskStep.spawn (mover?_of_running hi) htasks hmove hopen).of_eq
        hnext
  | stopWithin hi hmove =>
      obtain ⟨others, htasks, hset⟩ := hheld hi
      exact (TaskStep.stop (mover?_of_running hi) htasks hmove).of_eq
        (hset (.running _))
  | awaitWithin hi hmove =>
      obtain ⟨others, htasks, hset⟩ := hheld hi
      exact (TaskStep.await (mover?_of_running hi) htasks hmove).of_eq
        (hset (.awaiting _ _))
  | resume hi =>
      exact hsame (by simp only [mover?, hi]) (tasksOf_set_same _ _ hi rfl)
  | stop => exact .same rfl
  | notify => exact hsame rfl (tasksOf_wake _ _ _)
  | await => exact .same rfl
  | pass => exact .same rfl
  | stay => exact .same rfl

/-- The number of pending tasks is that of the tasks accepted and not ended. -/
theorem pending_eq_of_step {work : Work σ τ} {pool next : Pool σ τ}
    {event : PoolEvent τ} (h : Step work pool event next)
    (hpending : pool.pending = pool.tasks.card) :
    next.pending = next.tasks.card := by
  have hcases := taskStep_of_step h
  generalize next.shared = shared at hcases
  generalize next.tasks = tasks at hcases ⊢
  generalize next.pending = pending at hcases ⊢
  cases hcases with
  | same => exact hpending
  | come => rw [Multiset.card_cons, hpending]
  | act hmover htasks =>
      rw [hpending, htasks, Multiset.card_cons, Multiset.card_cons]
  | spawn hmover htasks =>
      rw [hpending, htasks, Multiset.card_cons, Multiset.card_cons,
        Multiset.card_cons]
  | spawnRefused hmover htasks =>
      rw [hpending, htasks, Multiset.card_cons, Multiset.card_cons]
  | stop hmover htasks =>
      rw [hpending, htasks, Multiset.card_cons, Multiset.card_cons]
  | await hmover htasks =>
      rw [hpending, htasks, Multiset.card_cons, Multiset.card_cons]
  | finish hmover htasks =>
      rw [hpending, htasks, Multiset.card_cons, Nat.add_sub_cancel]

theorem card_tasks (pool : Pool σ τ) :
    pool.tasks.card =
      pool.queue.length + pool.running.length +
        (if pool.entering?.isSome then 1 else 0) := by
  rw [tasks, tasksOf, running, Multiset.card_add, Multiset.card_add,
    Multiset.coe_card, Multiset.coe_card, Multiset.coe_card]
  cases pool.entering? with
  | none => simp
  | some entering => simp; omega

end Pool

end Concordance
