import Concordance.Proofs.PoolWakeups

/-!
# When a worker parks, and when it leaves

Putting a task into the queue wakes one worker, but a busy one may come for the
task first, so a woken worker may find nothing and park again. What stays true
is a matter of numbers: while anybody is parked, there are at least as many
woken workers on their way as tasks in the queue (`Pool.Awake`).

A stop leaves its mark and wakes the workers in two steps, and other stops may
do the same in between. Since nobody parks under the mark, the first waking is
for good, whichever stop made it: from then on no worker is parked, not even
while a later stop still owes its own.

Together with the two conditions of leaving, the mark and an empty queue, this
says that a task in the queue always has a worker that is up for it, and that
whoever sees the workers off after a stop finds none that sleeps.
-/

namespace Concordance

namespace Pool

variable {σ τ : Type} {work : Work σ τ} {pool next : Pool σ τ}
  {event : PoolEvent τ}

/-! ## Under the mark of a stop -/

/-- Whoever owes the workers a waking has left the mark. -/
theorem marked_of_step (h : Step work pool event next)
    (hmarked : pool.notices ≠ 0 → pool.stopped = true) :
    next.notices ≠ 0 → next.stopped = true := by
  intro hnotices
  cases h with
  | stopWithin => rfl
  | stop => rfl
  | notify hsome => exact hmarked hsome
  | refuse => exact hmarked hnotices
  | accept => exact hmarked hnotices
  | enqueue => exact hmarked hnotices
  | take => exact hmarked hnotices
  | leave => exact hmarked hnotices
  | park => exact hmarked hnotices
  | finish => exact hmarked hnotices
  | act => exact hmarked hnotices
  | spawnRefused => exact hmarked hnotices
  | spawn => exact hmarked hnotices
  | awaitWithin => exact hmarked hnotices
  | resume => exact hmarked hnotices
  | await => exact hmarked hnotices
  | pass => exact hmarked hnotices
  | stay => exact hmarked hnotices

/-- What is left when a stop has woken the workers: the mark, and nobody
parked. -/
structure Roused (pool : Pool σ τ) : Prop where
  stopped : pool.stopped = true
  nobody : .parked ∉ pool.workers

theorem roused_of_notify (h : Step work pool .notify next)
    (hmarked : pool.notices ≠ 0 → pool.stopped = true) : next.Roused := by
  cases h with
  | notify hnotices =>
      refine ⟨hmarked hnotices, ?_⟩
      intro hparked
      exact List.countP_eq_zero.mp (countP_wake pool.workers) .parked hparked rfl

theorem roused_of_step (h : Step work pool event next)
    (hroused : pool.Roused) : next.Roused := by
  refine ⟨stopped_of_step h hroused.stopped, ?_⟩
  intro hparked
  rcases comes_of_mem h hparked with hmem | hcomes
  · exact hroused.nobody hmem
  · cases hcomes with
    | parked hqueue hopen =>
        rw [hroused.stopped] at hopen
        cases hopen

/-- Once a stop has woken the workers, nobody is parked for the rest of the
run. -/
theorem roused_of_run? {workers : Nat} {shared : σ}
    {events : List (PoolEvent τ)}
    (h : (start workers shared).run? work events = some pool)
    (hnotify : .notify ∈ events) : pool.Roused := by
  obtain ⟨before, after, rfl⟩ := List.append_of_mem hnotify
  rw [run?, List.foldlM_append] at h
  obtain ⟨mid, hbefore, hafter⟩ := Option.bind_eq_some_iff.mp h
  obtain ⟨late, hstep, hrest⟩ := step_of_run hafter
  have hmarked : mid.notices ≠ 0 → mid.stopped = true :=
    run?_keeps (fun pool => pool.notices ≠ 0 → pool.stopped = true)
      marked_of_step (fun hnotices => absurd rfl hnotices) hbefore
  exact run?_keeps Roused roused_of_step
    (roused_of_notify (step_of_step? hstep) hmarked) hrest

/-! ## A worker for every task -/

/-- No thread of a pool sleeps when there is something for it to do. -/
structure Vigilant (work : Work σ τ) (pool : Pool σ τ) : Prop where
  /-- While a worker is parked, there are no more tasks in the queue than woken
  workers that have not looked yet. -/
  served : .parked ∈ pool.workers →
    pool.queue.length ≤ pool.workers.countP Worker.isWoken
  /-- When all stops have woken the workers, nobody is parked. -/
  roused : pool.stopped = true → pool.notices = 0 → .parked ∉ pool.workers
  /-- A worker leaves only a stopped pool with nothing in the queue. -/
  leaving : ∀ event next (i : Nat), pool.step? work event = some next →
    next.workers[i]? = some .gone → pool.workers[i]? ≠ some .gone →
      pool.stopped = true ∧ pool.queue = []
  left : .gone ∈ pool.workers → pool.stopped = true ∧ pool.queue = []
  /-- Who waits for the pool to be idle is not parked when it is. -/
  told : pool.pending = 0 → .parked ∉ pool.waiters
  unstuck : ¬(pool.queue ≠ [] ∧
    ∀ worker ∈ pool.workers, worker = .parked ∨ worker = .gone)

theorem vigilant_of_awake (work : Work σ τ) (hsound : pool.Sound)
    (hawake : pool.Awake) : pool.Vigilant work where
  served := fun hparked =>
    hawake.served (List.countP_pos_iff.mpr ⟨.parked, hparked, rfl⟩)
  roused := by
    intro hstopped hnotices hparked
    have hnobody := hawake.roused hstopped hnotices
    exact List.countP_eq_zero.mp hnobody .parked hparked rfl
  leaving := by
    intro event next i hstep hgone hbefore
    rcases comes_of_step (step_of_step? hstep) hgone with hold | hcomes
    · exact absurd hold hbefore
    · cases hcomes with
      | gone hqueue hstopped => exact ⟨hstopped, hqueue⟩
  left := hsound.left
  told := hawake.told
  unstuck := by
    rintro ⟨hqueue, hout⟩
    exact hqueue (hawake.queue_eq_nil hsound hout)

/-- However the threads of a pool interleave, none of them sleeps when there is
something for it to do; and after a stop has woken the workers none of them is
ever parked, so that all can be seen off. -/
theorem run_vigilant {workers : Nat} {shared : σ}
    {events : List (PoolEvent τ)}
    (h : (start workers shared).run? work events = some pool) :
    pool.Vigilant work ∧
      (.notify ∈ events → pool.stopped = true ∧ .parked ∉ pool.workers) := by
  constructor
  · obtain ⟨hsound, hawake⟩ := awake_of_run h
    exact vigilant_of_awake work hsound hawake
  · intro hnotify
    have hroused := roused_of_run? h hnotify
    exact ⟨hroused.stopped, hroused.nobody⟩

/-- Of two workers the second is woken for an errand twice, and the first time
the other comes for it before. Then the pool is stopped twice, and only one of
the stops has woken the workers. -/
def stolenErrand : List (PoolEvent Errand.Stage) :=
  let first := Errand.errand "first" false .done []
  let second := Errand.errand "second" false .failed []
  [.move 1, .submit (.arriving first), .enqueue (some 1), .move 0, .move 1,
    .submit (.arriving second), .enqueue (some 1), .move 0, .move 0, .move 0,
    .move 1, .stop, .stop, .notify, .submit (.arriving first)]

theorem stolenErrand_vigilant : ∃ pool : ErrandPool,
    (start 2 ⟨true, []⟩).run? Errand.work stolenErrand = some pool ∧
      pool.Vigilant Errand.work ∧ pool.notices = 1 ∧ pool.pending = 1 ∧
      pool.stopped = true ∧ .parked ∉ pool.workers := by
  have hrun : (start 2 ⟨true, []⟩).run? Errand.work stolenErrand = some _ := rfl
  have hnotify : PoolEvent.notify ∈ stolenErrand :=
    List.mem_append_right (stolenErrand.take 13) (List.mem_cons_self ..)
  obtain ⟨hvigilant, hroused⟩ := run_vigilant hrun
  exact ⟨_, hrun, hvigilant, rfl, rfl, hroused hnotify⟩

end Pool

end Concordance
