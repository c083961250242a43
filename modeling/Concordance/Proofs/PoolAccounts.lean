import Mathlib.Data.List.ReduceOption
import Mathlib.Data.Multiset.Range
import Concordance.Pool.Errand
import Concordance.Proofs.PoolLedger

/-!
# The books of a pool balance

Between a pool and its ledger three things are kept by every step. The accepted
tasks are those taken, then those in the queue, then the one on its way, in
this order, so the queue gives back what it was given. Of the numbers taken,
each is either with one worker or among those that ended, and never twice. And
the number of pending tasks counts what is accepted and not ended.

From there the rest is counting. No pending task means that every number has
ended, which is what a waiting thread learns when it goes through. A task that
is submitted later is submitted by a task that has not ended or from outside,
so nothing that descends from the tasks accepted by then is still to come.
-/

namespace Concordance

namespace Pool

variable {σ τ : Type}

/-! ## What a step keeps -/

/-- What every step keeps of a pool. -/
structure Sound (pool : Pool σ τ) : Prop where
  pending : pool.pending = pool.tasks.card
  /-- A stop waits for a submission to be over, and there is no other after
  it. -/
  closed : pool.stopped = true → pool.entering? = none
  left : .gone ∈ pool.workers → pool.stopped = true ∧ pool.queue = []
  staffed : pool.workers ≠ []

theorem sound_start (workers : Nat) (shared : σ) :
    (start workers shared : Pool σ τ).Sound where
  pending := by
    rw [tasks_start]
    rfl
  closed := by
    intro _
    rfl
  left := by
    intro hgone
    cases List.eq_of_mem_replicate hgone
  staffed := by
    intro hnil
    have hlength := congrArg List.length hnil
    simp only [start, List.length_replicate, List.length_nil] at hlength
    omega

/-- The workers are as many after a step as before. -/
theorem length_workers_of_step {work : Work σ τ} {pool next : Pool σ τ}
    {event : PoolEvent τ} (h : Step work pool event next) :
    next.workers.length = pool.workers.length := by
  have hbusy : next.busy.length = pool.busy.length := by
    have hbooked := booked_of_step h ⟨[], [], [], []⟩
    generalize Ledger.note work pool ⟨[], [], [], []⟩ event = ledger at hbooked
    cases hbooked with
    | nothing _ hbusy => rw [hbusy]
    | accepted _ _ hbusy => rw [hbusy]
    | taken _ _ hbusy => rw [hbusy, List.length_set]
    | ended _ _ hbusy => rw [hbusy, List.length_set]
  rwa [busy, busy, List.length_map, List.length_map] at hbusy

theorem sound_of_step {work : Work σ τ} {pool next : Pool σ τ}
    {event : PoolEvent τ} (h : Step work pool event next)
    (hsound : pool.Sound) : next.Sound := by
  have hstaffed : next.workers ≠ [] := by
    intro hnil
    have hlength := length_workers_of_step h
    rw [hnil] at hlength
    exact hsound.staffed (List.eq_nil_of_length_eq_zero hlength.symm)
  have hpending := pending_eq_of_step h hsound.pending
  -- Whoever is gone afterwards left a stopped pool with nothing in the queue.
  have hleft : .gone ∈ next.workers →
      pool.stopped = true ∧ pool.queue = [] := by
    intro hgone
    rcases comes_of_mem h hgone with hmem | hcomes
    · exact hsound.left hmem
    · cases hcomes with
      | gone hqueue hstopped => exact ⟨hstopped, hqueue⟩
  cases h with
  | refuse => exact hsound
  | accept hfree hopen =>
      refine ⟨hpending, ?_, hleft, hstaffed⟩
      intro hstopped
      rw [hopen] at hstopped
      cases hstopped
  | enqueue hentering hwoken =>
      refine ⟨hpending, fun _ => rfl, ?_, hstaffed⟩
      intro hgone
      rw [hsound.closed (hleft hgone).1] at hentering
      cases hentering
  | take hready hfree hqueue =>
      refine ⟨hpending, hsound.closed, ?_, hstaffed⟩
      intro hgone
      have hempty := (hleft hgone).2
      rw [hqueue] at hempty
      cases hempty
  | leave => exact ⟨hpending, hsound.closed, hleft, hstaffed⟩
  | park => exact ⟨hpending, hsound.closed, hleft, hstaffed⟩
  | finish => exact ⟨hpending, hsound.closed, hleft, hstaffed⟩
  | act => exact ⟨hpending, hsound.closed, hleft, hstaffed⟩
  | spawnRefused => exact ⟨hpending, hsound.closed, hleft, hstaffed⟩
  | spawn hi hmove hfree hopen =>
      refine ⟨hpending, ?_, hleft, hstaffed⟩
      intro hstopped
      rw [show pool.stopped = true from hstopped] at hopen
      cases hopen
  | stopWithin hi hmove hfree =>
      exact ⟨hpending, fun _ => hfree, fun hgone => ⟨rfl, (hleft hgone).2⟩,
        hstaffed⟩
  | awaitWithin => exact ⟨hpending, hsound.closed, hleft, hstaffed⟩
  | resume => exact ⟨hpending, hsound.closed, hleft, hstaffed⟩
  | stop hfree =>
      exact ⟨hpending, fun _ => hfree, fun hgone => ⟨rfl, (hleft hgone).2⟩,
        hstaffed⟩
  | notify => exact ⟨hpending, hsound.closed, hleft, hstaffed⟩
  | await => exact ⟨hpending, hsound.closed, hleft, hstaffed⟩
  | pass => exact ⟨hpending, hsound.closed, hleft, hstaffed⟩
  | stay => exact ⟨hpending, hsound.closed, hleft, hstaffed⟩

/-- What every step keeps between a pool and its ledger. -/
structure Kept (pool : Pool σ τ) (ledger : Ledger τ) : Prop where
  order : ledger.accepted.map Prod.fst = ledger.taken ++ pool.waiting
  busy : ledger.held.map Option.isSome = pool.busy
  once : (↑ledger.held.reduceOption + ↑ledger.ended : Multiset Nat) =
    Multiset.range ledger.taken.length

theorem kept_start (workers : Nat) (shared : σ) :
    (start workers shared : Pool σ τ).Kept
      (Ledger.opened (start workers shared)) where
  order := rfl
  busy := by
    simp only [Ledger.opened, start, busy, List.map_replicate]
    rfl
  once := by
    simp only [Ledger.opened, start, List.map_replicate,
      List.reduceOption_replicate_none]
    rfl

/-- What one worker holds, beside what all others do, before and after it
changes. -/
theorem reduceOption_set {held : List (Option Nat)} {i : Nat} {n? : Option Nat}
    (hi : held[i]? = some n?) :
    ∃ others : Multiset Nat,
      (↑held.reduceOption : Multiset Nat) = ↑n?.toList + others ∧
      ∀ m?, (↑(held.set i m?).reduceOption : Multiset Nat) =
        ↑m?.toList + others :=
  coe_filterMap_set id hi

/-- The number that a worker holds, if it is in the middle of a task. -/
theorem Kept.held {pool : Pool σ τ} {ledger : Ledger τ}
    (hkept : pool.Kept ledger) {i : Nat} {isBusy : Bool}
    (hi : pool.busy[i]? = some isBusy) :
    ∃ n?, ledger.held[i]? = some n? ∧ n?.isSome = isBusy := by
  rw [← hkept.busy, List.getElem?_map] at hi
  exact Option.map_eq_some_iff.mp hi

theorem kept_of_booked {pool next : Pool σ τ} {ledger later : Ledger τ}
    (h : Booked pool next ledger later) (hkept : pool.Kept ledger) :
    next.Kept later := by
  cases h with
  | nothing hwaiting hbusy =>
      refine ⟨?_, ?_, hkept.once⟩
      · rw [hwaiting, hkept.order]
      · rw [hbusy, hkept.busy]
  | accepted hparent hwaiting hbusy =>
      refine ⟨?_, ?_, hkept.once⟩
      · rw [Ledger.accept, hwaiting, List.map_append, hkept.order,
          List.append_assoc]
        rfl
      · rw [hbusy, ← hkept.busy]
        rfl
  | @taken i task hwaiting hi hbusy =>
      obtain ⟨n?, hheld, hnone⟩ := hkept.held hi
      obtain ⟨others, hbefore, hafter⟩ := reduceOption_set hheld
      rw [Option.isSome_eq_false_iff, Option.isNone_iff_eq_none] at hnone
      refine ⟨?_, ?_, ?_⟩
      · show ledger.accepted.map Prod.fst =
          (ledger.taken ++ [task]) ++ next.waiting
        rw [hkept.order, hwaiting, List.append_assoc]
        rfl
      · rw [hbusy, ← hkept.busy]
        exact List.map_set ..
      · have honce := hkept.once
        rw [hbefore, hnone] at honce
        show (↑(ledger.held.set i (some ledger.taken.length)).reduceOption +
            ↑ledger.ended : Multiset Nat) =
          Multiset.range (ledger.taken ++ [task]).length
        rw [hafter, List.length_append, List.length_singleton,
          Multiset.range_succ, ← honce]
        simp only [Option.toList_some, Option.toList_none,
          Multiset.coe_singleton, Multiset.coe_nil, Multiset.singleton_add,
          Multiset.cons_add, zero_add]
  | @ended i hwaiting hi hbusy =>
      obtain ⟨n?, hheld, hsome⟩ := hkept.held hi
      obtain ⟨n, rfl⟩ := Option.isSome_iff_exists.mp hsome
      obtain ⟨others, hbefore, hafter⟩ := reduceOption_set hheld
      have hnumber : ledger.number? i = some n := by
        rw [Ledger.number?, hheld]
        rfl
      refine ⟨?_, ?_, ?_⟩
      · rw [hwaiting]
        exact hkept.order
      · rw [hbusy, ← hkept.busy]
        exact List.map_set ..
      · have honce := hkept.once
        rw [hbefore] at honce
        show (↑(ledger.held.set i none).reduceOption +
            ↑(ledger.ended ++ (ledger.number? i).toList) : Multiset Nat) =
          Multiset.range ledger.taken.length
        rw [hafter, hnumber, ← honce, ← Multiset.coe_add]
        simp only [Option.toList_none, Multiset.coe_nil]
        abel

/-! ## What a run keeps -/

theorem kept_after {work : Work σ τ} {pool last : Pool σ τ} {ledger : Ledger τ}
    {events : List (PoolEvent τ)} (hsound : pool.Sound) (hkept : pool.Kept ledger)
    (h : pool.run? work events = some last) :
    last.Sound ∧ last.Kept (ledger.after work pool events) := by
  refine notes_keep (fun pool ledger => pool.Sound ∧ pool.Kept ledger) ?_
    ⟨hsound, hkept⟩ h
  rintro pool event next ledger ⟨hsound, hkept⟩ hstep
  have hcase := step_of_step? hstep
  exact ⟨sound_of_step hcase hsound,
    kept_of_booked (booked_of_step hcase ledger) hkept⟩

/-- As many workers hold a number as are in the middle of a task. -/
theorem Kept.length_held {pool : Pool σ τ} {ledger : Ledger τ}
    (hkept : pool.Kept ledger) :
    ledger.held.reduceOption.length = pool.running.length := by
  have hcount : ∀ {α β : Type} (f : α → Option β) (xs : List α),
      (xs.filterMap f).length = (xs.map fun x => (f x).isSome).count true := by
    intro α β f xs
    rw [List.length_filterMap_eq_countP, List.count, List.countP_map]
    exact List.countP_congr fun x _ => by simp
  rw [List.reduceOption, running, hcount, hcount]
  exact congrArg (List.count true) hkept.busy

/-- When no task is queued, with a worker or on its way, every accepted task has
ended, once. -/
theorem Kept.ended_of_idle {pool : Pool σ τ} {ledger : Ledger τ}
    (hkept : pool.Kept ledger) (hwaiting : pool.waiting = [])
    (hrunning : pool.running.length = 0) :
    ledger.held.reduceOption = [] ∧
      ledger.taken = ledger.accepted.map Prod.fst ∧
      (ledger.ended : Multiset Nat) =
        Multiset.range ledger.accepted.length := by
  have hheld : ledger.held.reduceOption = [] := by
    apply List.eq_nil_of_length_eq_zero
    rw [hkept.length_held, hrunning]
  have htaken : ledger.accepted.map Prod.fst = ledger.taken := by
    rw [hkept.order, hwaiting, List.append_nil]
  refine ⟨hheld, htaken.symm, ?_⟩
  have honce := hkept.once
  rw [hheld, ← htaken, List.length_map, Multiset.coe_nil, zero_add] at honce
  exact honce

theorem Sound.pending_eq {pool : Pool σ τ} (hsound : pool.Sound) :
    pool.pending = pool.queue.length + pool.running.length +
      (if pool.entering?.isSome then 1 else 0) := by
  rw [hsound.pending, card_tasks]

theorem Sound.idle {pool : Pool σ τ} (hsound : pool.Sound)
    (hidle : pool.pending = 0) :
    pool.waiting = [] ∧ pool.running.length = 0 := by
  have hsum := hsound.pending_eq
  rw [hidle] at hsum
  have hqueue : pool.queue = [] := List.eq_nil_of_length_eq_zero (by omega)
  refine ⟨?_, by omega⟩
  cases hentering : pool.entering? with
  | none => rw [waiting_of_free hentering, hqueue]
  | some entering =>
      rw [hentering, Option.isSome_some, if_pos rfl] at hsum
      omega

/-- A worker in the middle of a task has a pending one. -/
theorem Sound.pending_ne_zero {pool : Pool σ τ} (hsound : pool.Sound) {i : Nat}
    {task : τ} (hi : pool.workers[i]? = some (.running task)) :
    pool.pending ≠ 0 := by
  intro hidle
  have hmem : task ∈ pool.running :=
    List.mem_filterMap.mpr ⟨.running task, List.mem_of_getElem? hi, rfl⟩
  rw [List.eq_nil_of_length_eq_zero (hsound.idle hidle).2] at hmem
  cases hmem

/-! ## What comes after an idle moment -/

/-- The ledger after a moment at which the first so many tasks were accepted
and had ended: none of them submits another. -/
structure Since (bound : Nat) (ledger : Ledger τ) : Prop where
  taken : bound ≤ ledger.taken.length
  held : ∀ n, some n ∈ ledger.held → bound ≤ n
  later : ∀ parent child, ledger.Submitted parent child →
    bound ≤ child → bound ≤ parent

theorem since_of_booked {pool next : Pool σ τ} {ledger later : Ledger τ}
    {bound : Nat} (h : Booked pool next ledger later)
    (hsince : Since bound ledger) : Since bound later := by
  cases h with
  | nothing => exact hsince
  | accepted hparent =>
      refine ⟨hsince.taken, hsince.held, ?_⟩
      rintro parent child ⟨submitted, hchild⟩ hbound
      rw [Ledger.accept, List.getElem?_append] at hchild
      split at hchild
      · exact hsince.later parent child ⟨submitted, hchild⟩ hbound
      · have hlast := List.mem_of_getElem? hchild
        rw [List.mem_singleton, Prod.mk.injEq] at hlast
        exact hsince.held parent (hparent parent hlast.2.symm)
  | taken =>
      refine ⟨?_, ?_, hsince.later⟩
      · rw [Ledger.take, List.length_append]
        have := hsince.taken
        omega
      · intro n hn
        rcases List.mem_or_eq_of_mem_set hn with hmem | heq
        · exact hsince.held n hmem
        · cases heq
          exact hsince.taken
  | ended =>
      refine ⟨hsince.taken, ?_, hsince.later⟩
      intro n hn
      rcases List.mem_or_eq_of_mem_set hn with hmem | heq
      · exact hsince.held n hmem
      · cases heq

theorem accepted_of_booked {pool next : Pool σ τ} {ledger later : Ledger τ}
    (h : Booked pool next ledger later) :
    ledger.accepted <+: later.accepted := by
  cases h with
  | nothing => exact List.prefix_rfl
  | accepted => exact List.prefix_append ..
  | taken => exact List.prefix_rfl
  | ended => exact List.prefix_rfl

theorem since_after {work : Work σ τ} {pool last : Pool σ τ} {bound : Nat}
    {ledger : Ledger τ} {events : List (PoolEvent τ)}
    (hsince : Since bound ledger) (h : pool.run? work events = some last) :
    Since bound (ledger.after work pool events) ∧
      ledger.accepted <+: (ledger.after work pool events).accepted := by
  refine notes_keep (fun _ (later : Ledger τ) =>
    Since bound later ∧ ledger.accepted <+: later.accepted) ?_
    ⟨hsince, List.prefix_rfl⟩ h
  rintro pool event next later ⟨hsince, hgrown⟩ hstep
  have hbooked := booked_of_step (step_of_step? hstep) later
  exact ⟨since_of_booked hbooked hsince,
    hgrown.trans (accepted_of_booked hbooked)⟩

theorem Since.descends {bound n m : Nat} {ledger : Ledger τ}
    (hsince : Since bound ledger) (hn : n < bound) (h : ledger.Descends n m) :
    m < bound := by
  induction h with
  | refl => exact hn
  | tail _ hsubmitted ih =>
      by_contra hbound
      have := hsince.later _ _ hsubmitted (Nat.le_of_not_lt hbound)
      omega

/-! ## A thread that goes through -/

/-- A waiting thread goes through by its own test only, and only when nothing is
pending. -/
theorem through_of_step {work : Work σ τ} {pool next : Pool σ τ}
    {event : PoolEvent τ} {k : Nat} (h : Step work pool event next)
    (hk : next.waiters[k]? = some .through) :
    pool.waiters[k]? = some .through ∨
      event = .test k ∧ pool.waiters[k]? = some .testing ∧
        pool.pending = 0 := by
  have hadded : (pool.waiters ++ [.testing])[k]? = some .through →
      pool.waiters[k]? = some .through := by
    intro h
    rw [List.getElem?_append] at h
    split at h
    · exact h
    · cases List.mem_singleton.mp (List.mem_of_getElem? h)
  cases h with
  | finish =>
      left
      obtain ⟨waiter, hwaiter, hthrough⟩ :=
        Option.map_eq_some_iff.mp (List.getElem?_map ▸ hk)
      rw [hwaiter]
      split at hthrough
      · cases hthrough
      · rw [hthrough]
  | awaitWithin => exact .inl (hadded hk)
  | await => exact .inl (hadded hk)
  | @pass j hj hidle =>
      by_cases heq : j = k
      · subst heq
        exact .inr ⟨rfl, hj, hidle⟩
      · rw [List.getElem?_set_ne heq] at hk
        exact .inl hk
  | @stay j hj hbusy =>
      by_cases heq : j = k
      · subst heq
        rw [List.getElem?_set_self (List.getElem?_eq_some_iff.mp hj).1] at hk
        cases hk
      · rw [List.getElem?_set_ne heq] at hk
        exact .inl hk
  | refuse => exact .inl hk
  | accept => exact .inl hk
  | enqueue => exact .inl hk
  | take => exact .inl hk
  | leave => exact .inl hk
  | park => exact .inl hk
  | act => exact .inl hk
  | spawnRefused => exact .inl hk
  | spawn => exact .inl hk
  | stopWithin => exact .inl hk
  | resume => exact .inl hk
  | stop => exact .inl hk
  | notify => exact .inl hk

theorem test_of_through {work : Work σ τ} {last : Pool σ τ} {k : Nat}
    (hk : last.waiters[k]? = some .through) (events : List (PoolEvent τ)) :
    ∀ {pool : Pool σ τ}, pool.run? work events = some last →
      pool.waiters[k]? = some .through ∨
        ∃ before after mid, events = before ++ .test k :: after ∧
          pool.run? work before = some mid ∧
          mid.waiters[k]? = some .testing ∧ mid.pending = 0 := by
  induction events with
  | nil =>
      intro pool h
      cases h
      exact .inl hk
  | cons event events ih =>
      intro pool h
      obtain ⟨next, hstep, hrest⟩ := step_of_run h
      rcases ih hrest with
        hthrough | ⟨before, after, mid, rfl, hbefore, hmid, hidle⟩
      · rcases through_of_step (step_of_step? hstep) hthrough with
          hthrough | ⟨rfl, htesting, hidle⟩
        · exact .inl hthrough
        · exact .inr ⟨[], events, pool, rfl, rfl, htesting, hidle⟩
      · refine .inr ⟨event :: before, after, mid, rfl, ?_, hmid, hidle⟩
        exact (run_cons hstep before).trans hbefore

/-! ## The balance -/

/-- How the books of a pool stand after a run. -/
structure Accounted (work : Work σ τ) (pool : Pool σ τ) (ledger : Ledger τ) :
    Prop where
  /-- Pending are the tasks in the queue, those with a worker, and the one on
  its way. -/
  pending : pool.pending = pool.queue.length + pool.running.length +
    (if pool.entering?.isSome then 1 else 0)
  /-- A task that ends is pending, so the number never falls below zero. -/
  counted : ∀ (i : Nat) (task : τ),
    pool.workers[i]? = some (.running task) → pool.pending ≠ 0
  /-- Nobody finds nothing pending while an accepted task has not ended. -/
  idle : pool.pending = 0 →
    (ledger.ended : Multiset Nat) = Multiset.range ledger.accepted.length
  /-- The tasks are taken in the order in which they were accepted, each
  once. -/
  order : ledger.accepted.map Prod.fst =
    ledger.taken ++ pool.queue ++ pool.entering?.toList.map Entering.task
  /-- A task that was taken is with one worker, or has ended once. -/
  once : (↑ledger.held.reduceOption + ↑ledger.ended : Multiset Nat) =
    Multiset.range ledger.taken.length
  /-- The workers that have a number are those in the middle of a task. -/
  held : ledger.held.map Option.isSome =
    pool.workers.map fun worker => worker.task?.isSome
  refused : pool.stopped = true →
    ∀ task, pool.step? work (.submit task) = some pool
  /-- The same for a task of the pool that submits another: it goes on, and that
  is all. -/
  spawnRefused : pool.stopped = true → ∀ (i : Nat) (task child rest : τ),
    pool.workers[i]? = some (.running task) →
      work.move pool.shared task = .spawn child rest →
      pool.step? work (.move i) =
        some { pool with workers := pool.workers.set i (.running rest) }
  /-- When all workers have left a stopped pool, every accepted task was taken
  and has ended, once. -/
  drained : pool.stopped = true → (∀ worker ∈ pool.workers, worker = .gone) →
    pool.queue = [] ∧ ledger.taken = ledger.accepted.map Prod.fst ∧
      (ledger.ended : Multiset Nat) = Multiset.range ledger.accepted.length

/-- In the run there was a moment at which a waiting thread tested the number of
pending tasks, and every task accepted by then had ended, with all that descends
from it in the whole run. -/
def SawIdle (work : Work σ τ) (pool : Pool σ τ) (events : List (PoolEvent τ))
    (k : Nat) : Prop :=
  ∃ before after mid, events = before ++ .test k :: after ∧
    pool.run? work before = some mid ∧
    mid.waiters[k]? = some .testing ∧ mid.pending = 0 ∧
    (Ledger.ofRun work pool before).accepted <+:
      (Ledger.ofRun work pool events).accepted ∧
    ∀ n < (Ledger.ofRun work pool before).accepted.length, ∀ m,
      (Ledger.ofRun work pool events).Descends n m →
      m ∈ (Ledger.ofRun work pool before).ended

theorem accounted_of_kept {pool : Pool σ τ} {ledger : Ledger τ}
    (work : Work σ τ) (hsound : pool.Sound) (hkept : pool.Kept ledger) :
    pool.Accounted work ledger where
  pending := hsound.pending_eq
  counted := fun _ _ hi => hsound.pending_ne_zero hi
  idle := by
    intro hidle
    obtain ⟨hwaiting, hrunning⟩ := hsound.idle hidle
    exact (hkept.ended_of_idle hwaiting hrunning).2.2
  order := by
    rw [hkept.order, waiting, List.append_assoc]
  once := hkept.once
  held := hkept.busy
  refused := by
    intro hstopped task
    rw [step?, hsound.closed hstopped, accept_of_stopped hstopped]
    rfl
  spawnRefused := by
    intro hstopped i task child rest hi hmove
    have hfree := hsound.closed hstopped
    simp only [step?, hi, isSubmitting, hfree, Option.any_none,
      Bool.false_eq_true, if_false, advance?, hmove, Option.isSome_none,
      accept_of_stopped hstopped]
  drained := by
    intro hstopped hgone
    have hempty : pool.queue = [] := by
      obtain ⟨worker, hworker⟩ := List.exists_mem_of_ne_nil _ hsound.staffed
      exact (hsound.left (hgone worker hworker ▸ hworker)).2
    have hwaiting : pool.waiting = [] := by
      rw [waiting_of_free (hsound.closed hstopped), hempty]
    have hrunning : pool.running = [] := by
      apply List.filterMap_eq_nil_iff.mpr
      intro worker hworker
      rw [hgone worker hworker]
      rfl
    have hended := hkept.ended_of_idle hwaiting (congrArg List.length hrunning)
    exact ⟨hempty, hended.2⟩

theorem sawIdle_of_test {work : Work σ τ} {workers : Nat} {shared : σ}
    {mid last : Pool σ τ} {before after : List (PoolEvent τ)} {k : Nat}
    (hbefore : (start workers shared).run? work before = some mid)
    (htesting : mid.waiters[k]? = some .testing) (hidle : mid.pending = 0)
    (hlast : (start workers shared).run? work (before ++ .test k :: after) =
      some last) :
    SawIdle work (start workers shared) (before ++ .test k :: after) k := by
  obtain ⟨hsound, hkept⟩ :=
    kept_after (sound_start workers shared) (kept_start workers shared) hbefore
  obtain ⟨hwaiting, hrunning⟩ := hsound.idle hidle
  obtain ⟨hheld, htaken, hended⟩ := hkept.ended_of_idle hwaiting hrunning
  have hrest : mid.run? work (.test k :: after) = some last :=
    (run_append hbefore _).symm.trans hlast
  -- At this moment all that was accepted has ended, so nobody is left to
  -- submit for it.
  have hsince :
      Since (Ledger.ofRun work (start workers shared) before).accepted.length
        (Ledger.ofRun work (start workers shared) before) := by
    refine ⟨?_, ?_, ?_⟩
    · rw [Ledger.ofRun, htaken, List.length_map]
    · intro n hn
      have hmem := List.reduceOption_mem_iff.mpr hn
      rw [Ledger.ofRun, hheld] at hmem
      cases hmem
    · rintro parent child ⟨task, hchild⟩ hbound
      have hlt := (List.getElem?_eq_some_iff.mp hchild).1
      omega
  obtain ⟨hlater, hgrown⟩ := since_after hsince hrest
  have hledger : Ledger.ofRun work (start workers shared)
      (before ++ .test k :: after) =
        (Ledger.ofRun work (start workers shared) before).after work mid
          (.test k :: after) := notes_append hbefore
  rw [← hledger] at hlater hgrown
  refine ⟨before, after, mid, rfl, hbefore, htesting, hidle, hgrown, ?_⟩
  intro n hn m hdescends
  have hm := hlater.descends hn hdescends
  rw [← Multiset.mem_coe, Ledger.ofRun, hended]
  exact Multiset.mem_range.mpr hm

/-- The tasks of a pool are accounted for after any run, and no waiting thread
goes through without having seen every task accepted by then ended, and
everything that descends from it. -/
theorem run_accounted {work : Work σ τ} {workers : Nat} {shared : σ}
    {events : List (PoolEvent τ)} {pool : Pool σ τ}
    (h : (start workers shared).run? work events = some pool) :
    pool.Accounted work (Ledger.ofRun work (start workers shared) events) ∧
      ∀ k, pool.waiters[k]? = some .through →
        SawIdle work (start workers shared) events k := by
  constructor
  · obtain ⟨hsound, hkept⟩ :=
      kept_after (sound_start workers shared) (kept_start workers shared) h
    exact accounted_of_kept work hsound hkept
  · intro k hk
    rcases test_of_through hk events h with
      hthrough | ⟨before, after, mid, rfl, hbefore, htesting, hidle⟩
    · cases hthrough
    · exact sawIdle_of_test hbefore htesting hidle h

/-- A day in the life of one worker: an errand is submitted and submits another,
a thread waits for both, and then the pool is stopped and one errand too
late. -/
def errandDay : List (PoolEvent Errand.Stage) :=
  let second := Errand.errand "second" false .crashed []
  let first := Errand.errand "first" false .done [second]
  [.submit (.arriving first), .enqueue none, .move 0, .await, .test 0,
    .move 0, .move 0, .enqueue none, .move 0, .move 0, .move 0,
    .move 0, .test 0, .stop, .submit (.arriving second), .notify, .move 0]

theorem errandDay_accounted : ∃ pool : ErrandPool,
    (start 1 ⟨true, []⟩).run? Errand.work errandDay = some pool ∧
      pool.Accounted Errand.work
        (Ledger.ofRun Errand.work (start 1 ⟨true, []⟩) errandDay) ∧
      SawIdle Errand.work (start 1 ⟨true, []⟩) errandDay 0 ∧
      pool.workers = [.gone] ∧
      (Ledger.ofRun Errand.work (start 1 ⟨true, []⟩) errandDay).ended =
        [0, 1] := by
  refine ⟨_, rfl, ?_, ?_, rfl, rfl⟩
  · exact (run_accounted rfl).1
  · exact (run_accounted rfl).2 0 rfl

end Pool

end Concordance
