import Concordance.Pool.Client
import Concordance.Proofs.PoolWakeups

/-!
# The steps of a thread and its pool

A thread that goes through its orders takes a step of its own or lets the pool
take one. `Client.Step` lists the cases. Two things are read off them.

Of the tasks it is enough to know which are still owed, be they in the pool or
yet to be submitted. A step acts as one of them, ends one, or leaves all as
they were; a pool that was stopped drops what is submitted. Who does what and
where a task is in the meantime makes no difference to it.

And every step leaves less to do, as long as tasks do nothing but act, and act
towards their end. The end of the last task may wake everybody who waits, which
is why a task is counted with so much to spare.
-/

namespace Concordance

/-- A task ends, or keeps a condition on the shared data and acts towards its
end. -/
inductive Work.SteadyMove {σ τ : Type} (work : Work σ τ) (Free : σ → Prop)
    (task : τ) : Move σ τ → Prop where
  | finish {ending : Ending} : SteadyMove work Free task (.finish ending)
  | act {after : σ} {rest : τ} (hfree : Free after)
      (hless : work.cost rest < work.cost task) :
      SteadyMove work Free task (.act after rest)

/-- While the shared data satisfy a condition, every task keeps it and goes on
to its end. -/
def Work.Steady {σ τ : Type} (work : Work σ τ) (Free : σ → Prop) : Prop :=
  ∀ shared task, Free shared →
    work.SteadyMove Free task (work.move shared task)

theorem Work.Steady.move {σ τ : Type} {work : Work σ τ} {Free : σ → Prop}
    {shared : σ} {task : τ} {move : Move σ τ} (hsteady : work.Steady Free)
    (hfree : Free shared) (hmove : work.move shared task = move) :
    work.SteadyMove Free task move :=
  hmove ▸ hsteady shared task hfree

/-- The task that an order submits. -/
def Order.task? {τ : Type} : Order τ → Option τ
  | submit task => some task
  | _ => none

namespace Client

variable {σ τ : Type}

/-- What can happen to a thread and its pool. -/
inductive Step (work : Work σ τ) (client : Client σ τ) : Client σ τ → Prop where
  | within {event : PoolEvent τ} {pool : Pool σ τ}
      (hinner : event.isInner = true)
      (hstep : Pool.Step work client.pool event pool) :
      Step work client { client with pool }
  | submit {task : τ} {orders : List (Order τ)} {pool : Pool σ τ}
      (hidle : client.waiter? = none)
      (horders : client.orders = .submit task :: orders)
      (hstep : Pool.Step work client.pool (.submit task) pool) :
      Step work client { client with pool, orders }
  | await {orders : List (Order τ)} {pool : Pool σ τ}
      (hidle : client.waiter? = none)
      (horders : client.orders = .await :: orders)
      (hstep : Pool.Step work client.pool .await pool) :
      Step work client
        { pool, orders, waiter? := some client.pool.waiters.length }
  | stop {orders : List (Order τ)} {pool : Pool σ τ}
      (hidle : client.waiter? = none)
      (horders : client.orders = .stop :: orders)
      (hstep : Pool.Step work client.pool .stop pool) :
      Step work client { client with pool, orders }
  | join {orders : List (Order τ)} (hidle : client.waiter? = none)
      (horders : client.orders = .join :: orders)
      (hgone : ∀ worker ∈ client.pool.workers, worker = .gone) :
      Step work client { client with orders }
  | resume {k : Nat} (hwaiter : client.waiter? = some k)
      (hthrough : client.pool.waiters[k]? = some .through) :
      Step work client { client with waiter? := none }

theorem eq_gone_of_isGone {worker : Worker τ} (h : worker.isGone = true) :
    worker = .gone := by
  cases worker with
  | gone => rfl
  | looking => cases h
  | parked => cases h
  | woken => cases h
  | running => cases h
  | awaiting => cases h

theorem step_of_obey? {work : Work σ τ} {client next : Client σ τ}
    {order : Order τ} {orders : List (Order τ)} (hidle : client.waiter? = none)
    (horders : client.orders = order :: orders)
    (h : client.obey? work orders order = some next) :
    Step work client next := by
  cases order with
  | submit task =>
      obtain ⟨pool, hpool, rfl⟩ := Option.map_eq_some_iff.mp h
      exact .submit hidle horders (Pool.step_of_step? hpool)
  | await =>
      cases h
      exact .await hidle horders .await
  | stop =>
      obtain ⟨pool, hpool, rfl⟩ := Option.map_eq_some_iff.mp h
      exact .stop hidle horders (Pool.step_of_step? hpool)
  | join =>
      simp only [obey?] at h
      split at h
      · next hall =>
          cases h
          refine .join hidle horders ?_
          intro worker hworker
          exact eq_gone_of_isGone (List.all_eq_true.mp hall worker hworker)
      · cases h

theorem step_of_ownStep? {work : Work σ τ} {client next : Client σ τ}
    (h : client.ownStep? work = some next) : Step work client next := by
  unfold ownStep? at h
  split at h
  · cases h
  · split at h
    · next k _ hwaiter =>
        split at h
        · next hthrough =>
            cases h
            exact .resume hwaiter hthrough
        · obtain ⟨pool, hpool, rfl⟩ := Option.map_eq_some_iff.mp h
          exact .within rfl (Pool.step_of_step? hpool)
    · next order orders hidle horders =>
        exact step_of_obey? hidle horders h
    · cases h

/-- Whatever an event makes of a thread and its pool, it is one of the listed
cases. -/
theorem step_of_step? {work : Work σ τ} {client next : Client σ τ}
    {event : ClientEvent τ} (h : client.step? work event = some next) :
    Step work client next := by
  have hwithin : ∀ {event : PoolEvent τ}, event.isInner = true →
      (client.pool.step? work event).map
        (fun pool => { client with pool }) = some next →
      Step work client next := by
    intro event hinner h
    obtain ⟨pool, hpool, rfl⟩ := Option.map_eq_some_iff.mp h
    exact .within hinner (Pool.step_of_step? hpool)
  cases event with
  | own => exact step_of_ownStep? h
  | pool event =>
      cases event with
      | submit => cases h
      | await => cases h
      | stop => cases h
      | enqueue => exact hwithin rfl h
      | move => exact hwithin rfl h
      | notify => exact hwithin rfl h
      | test => exact hwithin rfl h

/-! ## Tasks that are owed -/

/-- The tasks that are in the pool or yet to be submitted. -/
def owed (client : Client σ τ) : Multiset τ :=
  client.pool.tasks + ↑(client.orders.filterMap Order.task?)

/-- What a step leaves of the shared data and of the tasks that are owed. -/
inductive OwedStep (work : Work σ τ) (client : Client σ τ) :
    σ → Multiset τ → Prop where
  | same : OwedStep work client client.pool.shared client.owed
  | drop {task : τ} {others : Multiset τ}
      (howed : client.owed = task ::ₘ others)
      (hstopped : client.pool.stopped = true) :
      OwedStep work client client.pool.shared others
  | act {task rest : τ} {shared : σ} {others : Multiset τ}
      (howed : client.owed = task ::ₘ others)
      (hmove : work.move client.pool.shared task = .act shared rest) :
      OwedStep work client shared (rest ::ₘ others)
  | finish {task : τ} {ending : Ending} {others : Multiset τ}
      (howed : client.owed = task ::ₘ others)
      (hmove : work.move client.pool.shared task = .finish ending) :
      OwedStep work client client.pool.shared others

variable {work : Work σ τ} {Free : σ → Prop} {client next : Client σ τ}

theorem owed_of_orders {orders : List (Order τ)} {order : Order τ}
    (horders : client.orders = order :: orders) :
    client.owed = ↑order.task?.toList +
      (client.pool.tasks + ↑(orders.filterMap Order.task?)) := by
  rw [owed, horders, List.filterMap_cons]
  cases order.task? with
  | none => exact (zero_add _).symm
  | some task =>
      rw [← Multiset.cons_coe, Multiset.add_cons]
      rfl

/-- The order that was carried out was no submission. -/
theorem owed_of_tail {orders : List (Order τ)} {order : Order τ}
    (horders : client.orders = order :: orders) (hnone : order.task? = none) :
    client.pool.tasks + ↑(orders.filterMap Order.task?) = client.owed := by
  rw [owed_of_orders horders, hnone]
  exact (zero_add _).symm

theorem owedStep_of_within {event : PoolEvent τ} {pool : Pool σ τ}
    (hsteady : work.Steady Free) (hfree : Free client.pool.shared)
    (hinner : event.isInner = true)
    (hstep : Pool.Step work client.pool event pool) :
    OwedStep work client pool.shared
      (pool.tasks + ↑(client.orders.filterMap Order.task?)) := by
  have hcases := Pool.taskStep_of_step hstep
  -- A task in the pool is one that is owed.
  have howed : ∀ {task : τ} {others : Multiset τ},
      client.pool.tasks = task ::ₘ others →
      client.owed =
        task ::ₘ (others + ↑(client.orders.filterMap Order.task?)) := by
    intro task others htasks
    rw [owed, htasks, Multiset.cons_add]
  generalize pool.shared = shared at hcases ⊢
  generalize pool.tasks = tasks at hcases ⊢
  generalize pool.pending = pending at hcases
  cases hcases with
  | same => exact .same
  | come => cases hinner
  | act hmover htasks hmove =>
      rw [Multiset.cons_add]
      exact .act (howed htasks) hmove
  | finish hmover htasks hmove => exact .finish (howed htasks) hmove
  -- A steady task does nothing but act and end.
  | spawn _ _ hmove =>
      cases hsteady.move hfree hmove
  | spawnRefused _ _ hmove =>
      cases hsteady.move hfree hmove
  | stop _ _ hmove =>
      cases hsteady.move hfree hmove
  | await _ _ hmove =>
      cases hsteady.move hfree hmove

/-- What a step does to the tasks that are owed is one of the listed cases. -/
theorem owedStep_of_step (hsteady : work.Steady Free)
    (hfree : Free client.pool.shared) (h : Step work client next) :
    OwedStep work client next.pool.shared next.owed := by
  cases h with
  | within hinner hstep => exact owedStep_of_within hsteady hfree hinner hstep
  | @submit task orders pool hidle horders hstep =>
      cases hstep with
      | refuse hfree hstopped =>
          exact .drop (owed_of_orders horders) hstopped
      | accept hentering hopen =>
          have howed : client.owed =
              task ::ₘ (client.pool.tasks + ↑(orders.filterMap Order.task?)) :=
            owed_of_orders horders
          show OwedStep work client client.pool.shared
            (Pool.tasksOf (some ⟨task, none⟩) client.pool.queue
              client.pool.workers + ↑(orders.filterMap Order.task?))
          rw [Pool.tasks_accept hentering, Multiset.cons_add, ← howed]
          exact .same
  | @await orders pool hidle horders hstep =>
      cases hstep
      show OwedStep work client client.pool.shared
        (client.pool.tasks + ↑(orders.filterMap Order.task?))
      rw [owed_of_tail horders rfl]
      exact .same
  | @stop orders pool hidle horders hstep =>
      cases hstep
      show OwedStep work client client.pool.shared
        (client.pool.tasks + ↑(orders.filterMap Order.task?))
      rw [owed_of_tail horders rfl]
      exact .same
  | @join orders hidle horders =>
      show OwedStep work client client.pool.shared
        (client.pool.tasks + ↑(orders.filterMap Order.task?))
      rw [owed_of_tail horders rfl]
      exact .same
  | resume => exact .same

/-! ## Pools that are not stopped -/

/-- The pool is not stopped, and is not going to be. -/
structure Unstopped (client : Client σ τ) : Prop where
  now : client.pool.stopped = false
  later : Order.stop ∉ client.orders

/-- Steady tasks do not stop their pool. -/
theorem stopped_of_poolStep {pool next : Pool σ τ} {event : PoolEvent τ}
    (hsteady : work.Steady Free) (hfree : Free pool.shared)
    (h : Pool.Step work pool event next) (hstop : event ≠ .stop) :
    next.stopped = pool.stopped := by
  cases h with
  | stop => exact absurd rfl hstop
  | stopWithin hi hmove =>
      cases hsteady.move hfree hmove
  | refuse => rfl
  | accept => rfl
  | enqueue => rfl
  | take => rfl
  | leave => rfl
  | park => rfl
  | finish => rfl
  | act => rfl
  | spawnRefused => rfl
  | spawn => rfl
  | awaitWithin => rfl
  | resume => rfl
  | notify => rfl
  | await => rfl
  | pass => rfl
  | stay => rfl

theorem unstopped_of_step (hsteady : work.Steady Free)
    (hfree : Free client.pool.shared) (h : Step work client next)
    (hopen : client.Unstopped) : next.Unstopped := by
  have hnow : ∀ {event : PoolEvent τ} {pool : Pool σ τ}, event ≠ .stop →
      Pool.Step work client.pool event pool → pool.stopped = false :=
    fun hstop hstep =>
      (stopped_of_poolStep hsteady hfree hstep hstop).trans hopen.now
  have hlater : ∀ {order : Order τ} {orders : List (Order τ)},
      client.orders = order :: orders → Order.stop ∉ orders :=
    fun horders hmem =>
      hopen.later (horders ▸ List.mem_cons_of_mem _ hmem)
  cases h with
  | within hinner hstep =>
      refine ⟨hnow ?_ hstep, hopen.later⟩
      rintro rfl
      cases hinner
  | submit _ horders hstep => exact ⟨hnow (by simp) hstep, hlater horders⟩
  | await _ horders hstep => exact ⟨hnow (by simp) hstep, hlater horders⟩
  | stop _ horders =>
      exact absurd (horders ▸ List.mem_cons_self ..) hopen.later
  | join _ horders => exact ⟨hopen.now, hlater horders⟩
  | resume => exact ⟨hopen.now, hopen.later⟩

/-! ## Less to do -/

theorem sumOf_eq {α : Type} (f : α → Nat) (xs : List α) :
    sumOf f xs = (xs.map f).sum := by
  induction xs with
  | nil => rfl
  | cons x xs ih => rw [List.map_cons, List.sum_cons, ← ih]; rfl

/-- A sum over a list of which one member is changed. -/
theorem sum_map_set {α : Type} (f : α → Nat) {xs : List α} {i : Nat} {x : α}
    (hi : xs[i]? = some x) (y : α) :
    ((xs.set i y).map f).sum + f x = (xs.map f).sum + f y := by
  obtain ⟨others, hperm, hset⟩ := Pool.set_perm hi
  rw [(hperm.map f).sum_nat, ((hset y).map f).sum_nat, List.map_cons,
    List.map_cons, List.sum_cons, List.sum_cons]
  omega

/-- Each member of a list may grow by one. -/
theorem sum_map_le {α : Type} (f : α → Nat) {g : α → α}
    (h : ∀ x, f (g x) ≤ f x + 1) (xs : List α) :
    ((xs.map g).map f).sum ≤ (xs.map f).sum + xs.length := by
  induction xs with
  | nil => exact le_refl _
  | cons x xs ih =>
      have hx := h x
      simp only [List.map_cons, List.sum_cons, List.length_cons]
      omega

theorem workerEffort_wakeOne? (work : Work σ τ) {pool : Pool σ τ}
    {woken? : Option Nat}
    {workers : List (Worker τ)} (waits : Nat)
    (h : pool.wakeOne? woken? = some workers) :
    (workers.map (workerEffort work waits)).sum ≤
      (pool.workers.map (workerEffort work waits)).sum + 1 := by
  unfold Pool.wakeOne? at h
  split at h
  · split at h
    · cases h
    · cases h
      exact Nat.le_succ _
  · split at h
    · next hi =>
        cases h
        have hsum := sum_map_set (workerEffort work waits) hi .woken
        simp only [workerEffort] at hsum
        omega
    · cases h

/-- How much an event from outside adds to what a pool has to do. -/
def eventEffort (work : Work σ τ) (waits workers : Nat) : PoolEvent τ → Nat
  | .submit task => work.cost task + waits + 6
  | .stop => workers + 2
  | .await => 2
  | .enqueue _ | .move _ | .notify | .test _ => 0

theorem poolEffort_lt {pool next : Pool σ τ} {event : PoolEvent τ} {waits : Nat}
    (hsteady : work.Steady Free) (hfree : Free pool.shared)
    (hwaits : pool.waiters.length ≤ waits)
    (h : Pool.Step work pool event next) :
    poolEffort work waits next <
      poolEffort work waits pool +
        eventEffort work waits pool.workers.length event := by
  -- What becomes of the sum over the workers when one of them moves on.
  have hset : ∀ {i : Nat} {v : Worker τ} (w : Worker τ),
      pool.workers[i]? = some v →
      ((pool.workers.set i w).map (workerEffort work waits)).sum +
          workerEffort work waits v =
        (pool.workers.map (workerEffort work waits)).sum +
          workerEffort work waits w :=
    fun w hi => sum_map_set _ hi w
  simp only [poolEffort, sumOf_eq]
  cases h with
  | refuse => simp only [eventEffort]; omega
  | accept hentering =>
      simp only [eventEffort, hentering, Option.toList_none, List.map_nil,
        List.sum_nil, Option.toList_some, List.map_cons, List.sum_cons]
      omega
  | enqueue hentering hwoken =>
      have hsum := workerEffort_wakeOne? work waits hwoken
      have hstep : Pool.Step work pool _ _ := .enqueue hentering hwoken
      have hlength := Pool.length_workers_of_step hstep
      dsimp only at hlength
      simp only [eventEffort, hentering, hlength, Option.toList_none,
        List.map_nil, List.sum_nil, Option.toList_some, List.map_cons,
        List.sum_cons, List.map_append, List.sum_append]
      omega
  | @take i task queue hready hentering hqueue =>
      simp only [eventEffort, hqueue, List.map_cons, List.sum_cons,
        List.length_set]
      rcases hready with hi | hi
      all_goals
        have hsum := hset (.running task) hi
        simp only [workerEffort] at hsum
        omega
  | leave hready =>
      simp only [eventEffort, List.length_set]
      rcases hready with hi | hi
      all_goals
        have hsum := hset .gone hi
        simp only [workerEffort] at hsum
        omega
  | park hready =>
      simp only [eventEffort, List.length_set]
      rcases hready with hi | hi
      all_goals
        have hsum := hset .parked hi
        simp only [workerEffort] at hsum
        omega
  | finish hi hmove =>
      have hsum := hset .looking hi
      simp only [workerEffort] at hsum
      have hwoken : ∀ waiter : Waiter,
          waiterEffort (if (pool.pending - 1 = 0 && waiter == .parked) = true
            then .testing else waiter) ≤ waiterEffort waiter + 1 := by
        intro waiter
        split
        · exact Nat.le_add_left ..
        · exact Nat.le_succ _
      have hwaiters := sum_map_le waiterEffort hwoken pool.waiters
      simp only [eventEffort, Pool.finishOne, List.length_set]
      omega
  | @act i task rest shared hi hmove =>
      cases hsteady.move hfree hmove with
      | act _ hless =>
          have hsum := hset (.running rest) hi
          simp only [workerEffort] at hsum
          simp only [eventEffort, List.length_set]
          omega
  | @resume i k rest hi hk =>
      have hsum := hset (.running rest) hi
      simp only [workerEffort] at hsum
      simp only [eventEffort, List.length_set]
      omega
  | stop =>
      simp only [eventEffort, Pool.halt, Nat.succ_mul]
      omega
  | notify hnotices =>
      have hwoken : ∀ worker : Worker τ, workerEffort work waits worker.wake ≤
          workerEffort work waits worker + 1 := by
        intro worker
        cases worker <;> simp [Worker.wake, workerEffort]
      have hsum := sum_map_le (workerEffort work waits) hwoken pool.workers
      obtain ⟨notices, hn⟩ := Nat.exists_eq_succ_of_ne_zero hnotices
      simp only [eventEffort, List.length_map, hn, Nat.succ_sub_one,
        Nat.succ_mul]
      omega
  | await =>
      simp only [eventEffort, List.map_append, List.sum_append, List.map_cons,
        List.map_nil, List.sum_cons, List.sum_nil, waiterEffort]
      omega
  | pass hk =>
      have hsum := sum_map_set waiterEffort hk .through
      simp only [waiterEffort] at hsum
      simp only [eventEffort]
      omega
  | stay hk =>
      have hsum := sum_map_set waiterEffort hk .parked
      simp only [waiterEffort] at hsum
      simp only [eventEffort]
      omega
  | spawnRefused hi hmove =>
      cases hsteady.move hfree hmove
  | spawn hi hmove =>
      cases hsteady.move hfree hmove
  | stopWithin hi hmove =>
      cases hsteady.move hfree hmove
  | awaitWithin hi hmove =>
      cases hsteady.move hfree hmove

/-- The number of waiting threads changes only when one more comes. -/
theorem length_waiters_of_step {pool next : Pool σ τ} {event : PoolEvent τ}
    (hsteady : work.Steady Free) (hfree : Free pool.shared)
    (h : Pool.Step work pool event next) (hawait : event ≠ .await) :
    next.waiters.length = pool.waiters.length := by
  cases h with
  | await => exact absurd rfl hawait
  | awaitWithin hi hmove =>
      cases hsteady.move hfree hmove
  | finish => exact List.length_map _
  | pass => exact List.length_set
  | stay => exact List.length_set
  | refuse => rfl
  | accept => rfl
  | enqueue => rfl
  | take => rfl
  | leave => rfl
  | park => rfl
  | act => rfl
  | spawnRefused => rfl
  | spawn => rfl
  | stopWithin => rfl
  | resume => rfl
  | stop => rfl
  | notify => rfl

theorem ne_await_of_isInner {event : PoolEvent τ} (h : event.isInner = true) :
    event ≠ .await := by
  rintro rfl
  cases h

theorem length_workers_of_step (h : Step work client next) :
    next.pool.workers.length = client.pool.workers.length := by
  cases h with
  | within _ hstep => exact Pool.length_workers_of_step hstep
  | submit _ _ hstep => exact Pool.length_workers_of_step hstep
  | await _ _ hstep => exact Pool.length_workers_of_step hstep
  | stop _ _ hstep => exact Pool.length_workers_of_step hstep
  | join => rfl
  | resume => rfl

/-- Who waits has come from the orders, and nowhere else. -/
theorem waits_of_step (hsteady : work.Steady Free)
    (hfree : Free client.pool.shared) (h : Step work client next) :
    next.waits = client.waits := by
  unfold waits
  cases h with
  | within hinner hstep =>
      rw [length_waiters_of_step hsteady hfree hstep
        (ne_await_of_isInner hinner)]
  | submit hidle horders hstep =>
      rw [length_waiters_of_step hsteady hfree hstep (by simp), horders]
      rfl
  | await hidle horders hstep =>
      cases hstep
      rw [horders, List.countP_cons]
      simp only [Order.isAwait, if_true, List.length_append,
        List.length_singleton]
      omega
  | stop hidle horders hstep =>
      rw [length_waiters_of_step hsteady hfree hstep (by simp), horders]
      rfl
  | join hidle horders => rw [horders]; rfl
  | resume => rfl

/-- Every step leaves less to do. -/
theorem effort_lt_of_step (hsteady : work.Steady Free)
    (hfree : Free client.pool.shared) (h : Step work client next) :
    next.effort work < client.effort work := by
  have hwaits := waits_of_step hsteady hfree h
  have hworkers := length_workers_of_step h
  have hle : client.pool.waiters.length ≤ client.waits := Nat.le_add_right ..
  rw [effort, effort, hwaits, hworkers, sumOf_eq, sumOf_eq]
  generalize client.waits = waits at hle
  cases h with
  | within hinner hstep =>
      have hless := poolEffort_lt hsteady hfree hle hstep
      have hnothing : ∀ {event : PoolEvent τ}, event.isInner = true →
          eventEffort work waits client.pool.workers.length event = 0 := by
        intro event hinner
        cases event <;> first | rfl | cases hinner
      rw [hnothing hinner] at hless
      dsimp only
      omega
  | submit hidle horders hstep =>
      have hless := poolEffort_lt hsteady hfree hle hstep
      rw [horders, List.map_cons, List.sum_cons]
      simp only [eventEffort, orderEffort] at hless ⊢
      omega
  | await hidle horders hstep =>
      have hless := poolEffort_lt hsteady hfree hle hstep
      rw [horders, hidle, List.map_cons, List.sum_cons]
      simp only [eventEffort, orderEffort, Option.toList_none,
        Option.toList_some, List.length_nil, List.length_singleton] at hless ⊢
      omega
  | stop hidle horders hstep =>
      have hless := poolEffort_lt hsteady hfree hle hstep
      rw [horders, List.map_cons, List.sum_cons]
      simp only [eventEffort, orderEffort] at hless ⊢
      omega
  | join hidle horders =>
      rw [horders, List.map_cons, List.sum_cons]
      simp only [orderEffort]
      omega
  | resume hwaiter =>
      rw [hwaiter]
      simp only [Option.toList_none, Option.toList_some, List.length_nil,
        List.length_singleton]
      omega

end Client

end Concordance
