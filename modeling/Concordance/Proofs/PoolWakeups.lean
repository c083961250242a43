import Concordance.Proofs.PoolAccounts

/-!
# Nobody sleeps through its work

A worker parks only when the queue is empty, and a task that comes into the
queue wakes a worker if one is parked. So while workers are parked there are
at least as many woken ones as there are tasks in the queue. A stop that has
made its notification leaves nobody parked, and neither does the end of the
last pending task among the threads that wait for it. `Pool.Awake` is these
three facts, and every step keeps them, whatever the tasks do.

What they are good for is the second half. A pool in which nothing can move by
itself has done all it can: unless a task itself waits for something, the queue
is empty, and if it was stopped the workers have left.
-/

namespace Concordance

namespace Worker

variable {τ : Type}

def isWoken : Worker τ → Bool
  | woken => true
  | _ => false

end Worker

/-- The event comes from within the pool or from a thread that waits for it. -/
def PoolEvent.isInner {τ : Type} : PoolEvent τ → Bool
  | enqueue _ | move _ | notify | test _ => true
  | submit _ | stop | await => false

namespace Pool

variable {σ τ : Type}

/-- Nobody is parked who should not be. -/
structure Awake (pool : Pool σ τ) : Prop where
  /-- While a worker is parked, each task in the queue has a woken one. -/
  served : 0 < pool.workers.countP Worker.isParked →
    pool.queue.length ≤ pool.workers.countP Worker.isWoken
  /-- Stops that have woken the workers have woken all of them. -/
  roused : pool.stopped = true → pool.notices = 0 →
    pool.workers.countP Worker.isParked = 0
  /-- Who waits for the last task knows that it has ended. -/
  told : pool.pending = 0 → Waiter.parked ∉ pool.waiters

theorem awake_start (workers : Nat) (shared : σ) :
    (start workers shared : Pool σ τ).Awake where
  served := by
    intro _
    exact Nat.zero_le _
  roused := by
    intro hstopped
    cases hstopped
  told := by
    intro _ hparked
    cases hparked

/-! ## What a step keeps -/

/-- How many of a list satisfy a property when one of them is changed. -/
theorem countP_set {α : Type} (p : α → Bool) {xs : List α} {i : Nat} {x : α}
    (hi : xs[i]? = some x) (y : α) :
    (xs.set i y).countP p + (if p x then 1 else 0) =
      xs.countP p + (if p y then 1 else 0) := by
  obtain ⟨others, hperm, hset⟩ := set_perm hi
  rw [hperm.countP_eq, (hset y).countP_eq, List.countP_cons, List.countP_cons]
  omega

/-- A worker that neither parks nor was parked, nor was woken. -/
theorem Awake.of_busy {pool next : Pool σ τ} {i : Nat} {v w : Worker τ}
    (hawake : pool.Awake) (hi : pool.workers[i]? = some v)
    (hworkers : next.workers = pool.workers.set i w)
    (hv : v.isParked = false ∧ v.isWoken = false)
    (hw : w.isParked = false ∧ w.isWoken = false)
    (hqueue : next.queue = pool.queue)
    (hstopped : next.notices = 0 →
      next.stopped = pool.stopped ∧ pool.notices = 0)
    (htold : next.pending = 0 → Waiter.parked ∉ next.waiters) :
    next.Awake := by
  have hparked := countP_set Worker.isParked hi w
  have hwoken := countP_set Worker.isWoken hi w
  rw [hv.1, hw.1, ← hworkers] at hparked
  rw [hv.2, hw.2, ← hworkers] at hwoken
  refine ⟨?_, ?_, htold⟩
  · have hserved := hawake.served
    rw [hqueue]
    omega
  · intro hstop hnotices
    obtain ⟨hsame, hquiet⟩ := hstopped hnotices
    have hroused := hawake.roused (hsame ▸ hstop) hquiet
    omega

/-- Woken is who was parked; nobody is parked any more. -/
theorem countP_wake (workers : List (Worker τ)) :
    (workers.map Worker.wake).countP Worker.isParked = 0 := by
  rw [List.countP_eq_zero]
  intro worker hworker
  obtain ⟨before, -, rfl⟩ := List.mem_map.mp hworker
  cases before <;> exact Bool.false_ne_true

/-- Waking one leaves one less parked and one more woken, unless there was
nobody to wake. -/
theorem counts_wakeOne? {pool : Pool σ τ} {woken? : Option Nat}
    {workers : List (Worker τ)} (h : pool.wakeOne? woken? = some workers) :
    workers.countP Worker.isParked ≤ pool.workers.countP Worker.isParked ∧
      (workers.countP Worker.isParked = 0 ∨
        workers.countP Worker.isWoken =
          pool.workers.countP Worker.isWoken + 1) := by
  unfold wakeOne? at h
  split at h
  · split at h
    · cases h
    · next hnone =>
        cases h
        refine ⟨le_refl _, .inl ?_⟩
        rw [List.countP_eq_zero]
        intro worker hworker hparked
        exact hnone (List.any_eq_true.mpr ⟨worker, hworker, hparked⟩)
  · next i =>
      split at h
      · next hi =>
          cases h
          have hparked := countP_set Worker.isParked hi .woken
          have hwoken := countP_set Worker.isWoken hi .woken
          simp only [Worker.isParked, Worker.isWoken, if_true,
            Bool.false_eq_true, if_false] at hparked hwoken
          omega
      · cases h

theorem parked_of_mem_append {waiters : List Waiter}
    (h : Waiter.parked ∈ waiters ++ [.testing]) : .parked ∈ waiters := by
  rcases List.mem_append.mp h with hmem | hlast
  · exact hmem
  · cases List.mem_singleton.mp hlast

theorem awake_of_step {work : Work σ τ} {pool next : Pool σ τ}
    {event : PoolEvent τ} (h : Step work pool event next)
    (hawake : pool.Awake) : next.Awake := by
  cases h with
  | refuse => exact hawake
  | accept =>
      exact ⟨hawake.served, hawake.roused, fun hidle => by cases hidle⟩
  | enqueue hentering hwoken =>
      obtain ⟨hfewer, hwho⟩ := counts_wakeOne? hwoken
      have hserved := hawake.served
      refine ⟨?_, ?_, hawake.told⟩
      · dsimp only
        rw [List.length_append, List.length_singleton]
        omega
      · intro hstopped hnotices
        have hnobody := hawake.roused hstopped hnotices
        dsimp only
        omega
  | @take i task queue hready hfree hqueue =>
      have hserved := hawake.served
      rw [hqueue, List.length_cons] at hserved
      rcases hready with hi | hi
      all_goals
        have hparked := countP_set Worker.isParked hi (.running task)
        have hwoken := countP_set Worker.isWoken hi (.running task)
        simp only [Worker.isParked, Worker.isWoken, if_true,
          Bool.false_eq_true, if_false] at hparked hwoken
        refine ⟨by dsimp only; omega, ?_, hawake.told⟩
        intro hstopped hnotices
        have hnobody := hawake.roused hstopped hnotices
        dsimp only
        omega
  | @leave i hready hfree hqueue =>
      refine ⟨?_, ?_, hawake.told⟩
      · rw [hqueue]
        exact fun _ => Nat.zero_le _
      · intro hstopped hnotices
        have hnobody := hawake.roused hstopped hnotices
        rcases hready with hi | hi
        all_goals
          have hparked := countP_set Worker.isParked hi .gone
          simp only [Worker.isParked, Bool.false_eq_true,
            if_false] at hparked
          dsimp only
          omega
  | park hready hfree hqueue hopen =>
      refine ⟨?_, ?_, hawake.told⟩
      · rw [hqueue]
        exact fun _ => Nat.zero_le _
      · intro hstopped
        rw [show pool.stopped = true from hstopped] at hopen
        cases hopen
  | finish hi =>
      refine hawake.of_busy hi rfl ⟨rfl, rfl⟩ ⟨rfl, rfl⟩ rfl
        (fun h => ⟨rfl, h⟩) ?_
      intro hidle hparked
      obtain ⟨waiter, -, hwaiter⟩ := List.mem_map.mp hparked
      rw [show pool.pending - 1 = 0 from hidle] at hwaiter
      cases waiter <;> cases hwaiter
  | act hi =>
      exact hawake.of_busy hi rfl ⟨rfl, rfl⟩ ⟨rfl, rfl⟩ rfl
        (fun h => ⟨rfl, h⟩) hawake.told
  | spawnRefused hi =>
      exact hawake.of_busy hi rfl ⟨rfl, rfl⟩ ⟨rfl, rfl⟩ rfl
        (fun h => ⟨rfl, h⟩) hawake.told
  | spawn hi =>
      exact hawake.of_busy hi rfl ⟨rfl, rfl⟩ ⟨rfl, rfl⟩ rfl
        (fun h => ⟨rfl, h⟩) (fun hidle => by cases hidle)
  | stopWithin hi =>
      exact hawake.of_busy hi rfl ⟨rfl, rfl⟩ ⟨rfl, rfl⟩ rfl
        (fun h => by cases h) hawake.told
  | awaitWithin hi =>
      exact hawake.of_busy hi rfl ⟨rfl, rfl⟩ ⟨rfl, rfl⟩ rfl
        (fun h => ⟨rfl, h⟩)
        (fun hidle hparked => hawake.told hidle (parked_of_mem_append hparked))
  | resume hi =>
      exact hawake.of_busy hi rfl ⟨rfl, rfl⟩ ⟨rfl, rfl⟩ rfl
        (fun h => ⟨rfl, h⟩) hawake.told
  | stop =>
      exact ⟨hawake.served, fun _ hnotices => (by cases hnotices), hawake.told⟩
  | notify =>
      have hnobody := countP_wake pool.workers
      refine ⟨?_, fun _ _ => hnobody, hawake.told⟩
      intro hsome
      exact absurd hnobody hsome.ne'
  | await =>
      exact ⟨hawake.served, hawake.roused, fun hidle hparked =>
        hawake.told hidle (parked_of_mem_append hparked)⟩
  | @pass k hk hidle =>
      refine ⟨hawake.served, hawake.roused, ?_⟩
      intro _ hparked
      rcases List.mem_or_eq_of_mem_set hparked with hmem | heq
      · exact hawake.told hidle hmem
      · cases heq
  | stay hk hbusy =>
      exact ⟨hawake.served, hawake.roused, fun hidle => absurd hidle hbusy⟩

/-- Nobody sleeps through its work in any run of a pool. -/
theorem awake_of_run {work : Work σ τ} {workers : Nat} {shared : σ}
    {pool : Pool σ τ} {events : List (PoolEvent τ)}
    (h : (start workers shared).run? work events = some pool) :
    pool.Sound ∧ pool.Awake :=
  run?_keeps (fun pool => pool.Sound ∧ pool.Awake)
    (fun hstep hkept =>
      ⟨sound_of_step hstep hkept.1, awake_of_step hstep hkept.2⟩)
    ⟨sound_start workers shared, awake_start workers shared⟩ h

/-! ## When nothing moves -/

variable {work : Work σ τ} {pool : Pool σ τ}

/-- Nothing can happen in the pool by itself. -/
structure Still (work : Work σ τ) (pool : Pool σ τ) : Prop where
  free : pool.entering? = none
  quiet : pool.notices = 0
  unmoved : ∀ i, pool.step? work (.move i) = none

theorem still_of_next? (h : pool.next? work = none) : pool.Still work := by
  unfold next? at h
  split at h
  · cases h
  · next hfree =>
      split at h
      · cases h
      · next hnotices =>
          refine ⟨entering_eq_none hfree, not_not.mp hnotices, ?_⟩
          intro i
          have hnone := List.find?_eq_none.mp (Option.map_eq_none_iff.mp h) i
          by_cases hlt : i < pool.workers.length
          · exact Option.not_isSome_iff_eq_none.mp
              (hnone (List.mem_range.mpr hlt))
          · have hi : pool.workers[i]? = none :=
              List.getElem?_eq_none (Nat.le_of_not_lt hlt)
            simp only [step?, hi]

/-- Of the workers that can be woken the first that is parked will do. -/
theorem wakeOne?_findIdx? (pool : Pool σ τ) :
    pool.wakeOne? (pool.workers.findIdx? Worker.isParked) ≠ none := by
  cases hfind : pool.workers.findIdx? Worker.isParked with
  | none =>
      have hnone := List.findIdx?_eq_none_iff.mp hfind
      rw [wakeOne?, if_neg]
      · exact Option.some_ne_none _
      · intro hany
        obtain ⟨worker, hworker, hparked⟩ := List.any_eq_true.mp hany
        rw [hnone worker hworker] at hparked
        cases hparked
  | some i =>
      obtain ⟨hlt, hparked, -⟩ := List.findIdx?_eq_some_iff_getElem.mp hfind
      have hi : pool.workers[i]? = some pool.workers[i] :=
        List.getElem?_eq_getElem hlt
      generalize pool.workers[i] = worker at hparked hi
      cases worker with
      | parked =>
          simp only [wakeOne?, hi]
          exact Option.some_ne_none _
      | looking => cases hparked
      | woken => cases hparked
      | running => cases hparked
      | awaiting => cases hparked
      | gone => cases hparked

/-- What is said to happen next can happen. -/
theorem step?_of_next? {event : PoolEvent τ}
    (h : pool.next? work = some event) :
    event.isInner = true ∧ pool.step? work event ≠ none := by
  unfold next? at h
  split at h
  · next hsome =>
      obtain ⟨entering, hentering⟩ := Option.isSome_iff_exists.mp hsome
      cases h
      refine ⟨rfl, ?_⟩
      simp only [step?, hentering, ne_eq, Option.map_eq_none_iff]
      exact wakeOne?_findIdx? pool
  · split at h
    · next hnotices =>
        cases h
        refine ⟨rfl, ?_⟩
        simp only [step?, if_neg hnotices]
        exact Option.some_ne_none _
    · obtain ⟨i, hfind, rfl⟩ := Option.map_eq_some_iff.mp h
      have hsome := List.find?_some hfind
      exact ⟨rfl, Option.isSome_iff_ne_none.mp hsome⟩

/-- In a pool where nothing moves, a worker is parked, has left, or is in the
middle of a task that waits. -/
theorem Still.worker (h : pool.Still work) {worker : Worker τ}
    (hworker : worker ∈ pool.workers) :
    worker = .parked ∨ worker = .gone ∨
      (∃ task, worker = .running task ∧ work.move pool.shared task = .wait) ∨
      ∃ k rest, worker = .awaiting k rest ∧
        pool.waiters[k]? ≠ some .through := by
  obtain ⟨i, hi⟩ := List.getElem?_of_mem hworker
  have hstep := h.unmoved i
  have hfree := h.free
  cases worker with
  | parked => exact .inl rfl
  | gone => exact .inr (.inl rfl)
  | looking =>
      simp only [step?, hi, hfree, Option.isSome_none, Bool.false_eq_true,
        if_false] at hstep
      cases hstep
  | woken =>
      simp only [step?, hi, hfree, Option.isSome_none, Bool.false_eq_true,
        if_false] at hstep
      cases hstep
  | running task =>
      refine .inr (.inr (.inl ⟨task, rfl, ?_⟩))
      simp only [step?, hi, isSubmitting, hfree, Option.any_none,
        Bool.false_eq_true, if_false, advance?, Option.isSome_none] at hstep
      split at hstep
      · cases hstep
      · cases hstep
      · cases hstep
      · cases hstep
      · cases hstep
      · next hmove => exact hmove
  | awaiting k rest =>
      refine .inr (.inr (.inr ⟨k, rest, rfl, ?_⟩))
      intro hk
      simp only [step?, hi, hk, if_true] at hstep
      cases hstep

/-- Where every worker is parked or has left, there is nothing in the queue. -/
theorem Awake.queue_eq_nil (hawake : pool.Awake) (hsound : pool.Sound)
    (hout : ∀ worker ∈ pool.workers, worker = .parked ∨ worker = .gone) :
    pool.queue = [] := by
  obtain ⟨worker, hworker⟩ := List.exists_mem_of_ne_nil _ hsound.staffed
  rcases hout worker hworker with rfl | rfl
  · have hparked : 0 < pool.workers.countP Worker.isParked :=
      List.countP_pos_iff.mpr ⟨.parked, hworker, rfl⟩
    have hnowoken : pool.workers.countP Worker.isWoken = 0 := by
      rw [List.countP_eq_zero]
      intro other hother
      rcases hout other hother with rfl | rfl <;> exact Bool.false_ne_true
    have hserved := hawake.served hparked
    exact List.eq_nil_of_length_eq_zero (by omega)
  · exact (hsound.left hworker).2

/-- Where nothing moves and no worker is in the middle of a task, no task is
pending, nobody sleeps over that, and after a stop the workers have left. -/
theorem Still.drained (h : pool.Still work) (hsound : pool.Sound)
    (hawake : pool.Awake) (hidle : pool.running = []) :
    pool.pending = 0 ∧ Waiter.parked ∉ pool.waiters ∧
      (pool.stopped = true → ∀ worker ∈ pool.workers, worker = .gone) := by
  have hout : ∀ worker ∈ pool.workers, worker = .parked ∨ worker = .gone := by
    intro worker hworker
    have hnone : worker.task? = none :=
      List.filterMap_eq_nil_iff.mp hidle worker hworker
    rcases h.worker hworker with hp | hg | ⟨task, rfl, -⟩ | ⟨k, rest, rfl, -⟩
    · exact .inl hp
    · exact .inr hg
    · cases hnone
    · cases hnone
  have hqueue := hawake.queue_eq_nil hsound hout
  have hpending : pool.pending = 0 := by
    rw [hsound.pending_eq, hqueue, hidle, h.free]
    rfl
  refine ⟨hpending, hawake.told hpending, ?_⟩
  intro hstopped worker hworker
  rcases hout worker hworker with rfl | rfl
  · have hnobody := hawake.roused hstopped h.quiet
    exact absurd rfl (List.countP_eq_zero.mp hnobody .parked hworker)
  · rfl

end Pool

end Concordance
