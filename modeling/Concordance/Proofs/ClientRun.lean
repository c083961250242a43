import Concordance.Proofs.ClientStep

/-!
# A thread gets through its orders

A thread that waits for its tasks before it is done, and sees nobody off before
the pool is stopped, gets through its orders whatever the schedule. Every step
leaves less to do, so no schedule goes on forever. And as long as the thread is
not done, something can happen: where nothing moves in the pool no task is
pending, so nothing holds the thread back.

`Client.Fit` is what has to be kept for that. At the end no task is owed any
more, so whatever a step keeps of the shared data and of the tasks that are
owed says at the end what the shared data are.
-/

namespace Concordance

/-- Whatever happens, and in whatever order, the goal is reached: before that
something can always happen, and not forever. -/
inductive Inevitably {σ ε : Type} (step? : σ → ε → Option σ) (goal : σ → Prop) :
    σ → Prop where
  | now {s : σ} (h : goal s) : Inevitably step? goal s
  | later {s : σ} (hmoves : ∃ event, step? s event ≠ none)
      (hall : ∀ event next, step? s event = some next →
        Inevitably step? goal next) :
      Inevitably step? goal s

/-- What is kept by every step, leaves less to do with each and is not stuck
before the goal, comes to the goal. -/
theorem inevitably_of_measure {σ ε α : Type} [LT α] [WellFoundedLT α]
    {step? : σ → ε → Option σ} {goal : σ → Prop} (Inv : σ → Prop)
    (measure : σ → α)
    (hmoves : ∀ s, Inv s → ¬goal s → ∃ event, step? s event ≠ none)
    (hkeeps : ∀ s event next, Inv s → step? s event = some next →
      Inv next ∧ measure next < measure s) :
    ∀ {s : σ}, Inv s → Inevitably step? goal s := by
  intro s
  induction hmeasure : measure s using WellFoundedLT.induction
    generalizing s with
  | ind left ih =>
      intro hinv
      by_cases hgoal : goal s
      · exact .now hgoal
      · refine .later (hmoves s hinv hgoal) ?_
        intro event next hstep
        obtain ⟨hnext, hless⟩ := hkeeps s event next hinv hstep
        exact ih _ (hmeasure ▸ hless) rfl hnext

namespace Order

variable {τ : Type}

/-- Every submission is followed by an order to wait. -/
def awaited : List (Order τ) → Bool
  | [] => true
  | submit _ :: orders => orders.any isAwait && awaited orders
  | _ :: orders => awaited orders

/-- The workers are seen off only when the pool is stopped. -/
def joinable : Bool → List (Order τ) → Bool
  | _, [] => true
  | _, stop :: orders => joinable true orders
  | stopped, join :: orders => stopped && joinable stopped orders
  | stopped, _ :: orders => joinable stopped orders

theorem joinable_mono {stopped later : Bool}
    (hle : stopped = true → later = true) (orders : List (Order τ)) :
    joinable stopped orders = true → joinable later orders = true := by
  induction orders generalizing stopped later with
  | nil => exact fun h => h
  | cons order orders ih =>
      cases order with
      | submit => exact ih hle
      | await => exact ih hle
      | stop => exact fun h => h
      | join =>
          intro h
          obtain ⟨hstopped, hrest⟩ := (Bool.and_eq_true _ _).mp h
          exact (Bool.and_eq_true _ _).mpr ⟨hle hstopped, ih hle hrest⟩

end Order

namespace Client

variable {σ τ : Type} {work : Work σ τ} {Free : σ → Prop}

/-! ## What a step keeps -/

/-- A thread that will get through its orders. -/
structure Fit (Free : σ → Prop) (client : Client σ τ) : Prop where
  sound : client.pool.Sound
  awake : client.pool.Awake
  free : Free client.pool.shared
  /-- No task waits for the pool. -/
  plain : ∀ k rest, Worker.awaiting k rest ∉ client.pool.workers
  awaited : Order.awaited client.orders = true
  joinable : Order.joinable client.pool.stopped client.orders = true
  waiting : ∀ k, client.waiter? = some k → k < client.pool.waiters.length
  /-- Who waits no more, and is not going to, has no task pending. -/
  idle : client.waiter? = none → client.orders.any Order.isAwait = false →
    client.pool.pending = 0
  through : ∀ k, client.waiter? = some k →
    client.pool.waiters[k]? = some .through → client.pool.pending = 0

section

variable {pool next : Pool σ τ} {event : PoolEvent τ}

theorem free_of_poolStep (hsteady : work.Steady Free) (hfree : Free pool.shared)
    (h : Pool.Step work pool event next) : Free next.shared := by
  have hcases := Pool.taskStep_of_step h
  generalize next.shared = shared at hcases ⊢
  generalize next.tasks = tasks at hcases
  generalize next.pending = pending at hcases
  cases hcases with
  | act _ _ hmove =>
      cases hsteady.move hfree hmove with
      | act hafter _ => exact hafter
  | same => exact hfree
  | come => exact hfree
  | spawn => exact hfree
  | spawnRefused => exact hfree
  | stop => exact hfree
  | await => exact hfree
  | finish => exact hfree

/-- A steady task never waits for its pool. -/
theorem plain_of_poolStep (hsteady : work.Steady Free)
    (hfree : Free pool.shared) (h : Pool.Step work pool event next)
    (hplain : ∀ k rest, Worker.awaiting k rest ∉ pool.workers) :
    ∀ k rest, Worker.awaiting k rest ∉ next.workers := by
  intro k rest hmem
  rcases Pool.comes_of_mem h hmem with hold | hcomes
  · exact hplain k rest hold
  · cases hcomes with
    | awaiting hmove => cases hsteady.move hfree hmove

/-- Where no task is pending, none is until one is submitted. -/
theorem idle_of_poolStep (hsound : pool.Sound) (hidle : pool.pending = 0)
    (hinner : ∀ task, event ≠ .submit task)
    (h : Pool.Step work pool event next) : next.pending = 0 := by
  have hcases := Pool.taskStep_of_step h
  have htasks : ∀ {task : τ} {others : Multiset τ},
      pool.tasks ≠ task ::ₘ others := by
    intro task others htasks
    have hpending := hsound.pending
    rw [hidle, htasks, Multiset.card_cons] at hpending
    cases hpending
  generalize next.shared = shared at hcases
  generalize next.tasks = tasks at hcases
  generalize next.pending = pending at hcases ⊢
  cases hcases with
  | same => exact hidle
  | come => exact absurd rfl (hinner _)
  | act _ h => exact absurd h htasks
  | spawn _ h => exact absurd h htasks
  | spawnRefused _ h => exact absurd h htasks
  | stop _ h => exact absurd h htasks
  | await _ h => exact absurd h htasks
  | finish _ h => exact absurd h htasks

end

variable {client next : Client σ τ}

theorem fit_of_within (hsteady : work.Steady Free) {event : PoolEvent τ}
    {pool : Pool σ τ} (hinner : event.isInner = true)
    (hstep : Pool.Step work client.pool event pool) (hfit : client.Fit Free) :
    Fit Free { client with pool } := by
  have hidle : client.pool.pending = 0 → pool.pending = 0 := by
    intro hidle
    refine idle_of_poolStep hfit.sound hidle ?_ hstep
    rintro task rfl
    cases hinner
  exact {
    sound := Pool.sound_of_step hstep hfit.sound
    awake := Pool.awake_of_step hstep hfit.awake
    free := free_of_poolStep hsteady hfit.free hstep
    plain := plain_of_poolStep hsteady hfit.free hstep hfit.plain
    awaited := hfit.awaited
    joinable := Order.joinable_mono (Pool.stopped_of_step hstep) _ hfit.joinable
    waiting := by
      intro k hk
      show k < pool.waiters.length
      rw [length_waiters_of_step hsteady hfit.free hstep
        (ne_await_of_isInner hinner)]
      exact hfit.waiting k hk
    idle := fun hwaiter horders => hidle (hfit.idle hwaiter horders)
    through := by
      intro k hk hthrough
      rcases Pool.through_of_step hstep hthrough with hbefore | ⟨-, -, hnow⟩
      · exact hidle (hfit.through k hk hbefore)
      · exact hidle hnow }

theorem fit_of_submit (hsteady : work.Steady Free) {task : τ}
    {orders : List (Order τ)} {pool : Pool σ τ}
    (hwaiter : client.waiter? = none)
    (horders : client.orders = .submit task :: orders)
    (hstep : Pool.Step work client.pool (.submit task) pool)
    (hfit : client.Fit Free) : Fit Free { client with pool, orders } := by
  have hawaited := hfit.awaited
  have hjoinable := hfit.joinable
  rw [horders] at hawaited hjoinable
  obtain ⟨hany, hrest⟩ := (Bool.and_eq_true _ _).mp hawaited
  have hnobody : ∀ {k}, client.waiter? ≠ some k := by
    intro k hk
    rw [hwaiter] at hk
    cases hk
  exact {
    sound := Pool.sound_of_step hstep hfit.sound
    awake := Pool.awake_of_step hstep hfit.awake
    free := free_of_poolStep hsteady hfit.free hstep
    plain := plain_of_poolStep hsteady hfit.free hstep hfit.plain
    awaited := hrest
    joinable := Order.joinable_mono (Pool.stopped_of_step hstep) _ hjoinable
    waiting := fun k hk => absurd hk hnobody
    idle := by
      intro _ hnone
      rw [show orders.any Order.isAwait = false from hnone] at hany
      cases hany
    through := fun k hk => absurd hk hnobody }

theorem fit_of_await (hsteady : work.Steady Free) {orders : List (Order τ)}
    {pool : Pool σ τ} (horders : client.orders = .await :: orders)
    (hstep : Pool.Step work client.pool .await pool)
    (hfit : client.Fit Free) :
    Fit Free { pool, orders, waiter? := some client.pool.waiters.length } := by
  have hawaited := hfit.awaited
  have hjoinable := hfit.joinable
  rw [horders] at hawaited hjoinable
  refine {
    sound := Pool.sound_of_step hstep hfit.sound
    awake := Pool.awake_of_step hstep hfit.awake
    free := free_of_poolStep hsteady hfit.free hstep
    plain := plain_of_poolStep hsteady hfit.free hstep hfit.plain
    awaited := hawaited
    joinable := Order.joinable_mono (Pool.stopped_of_step hstep) _ hjoinable
    waiting := ?_
    idle := fun h => by cases h
    through := ?_ }
  · rintro k ⟨⟩
    cases hstep
    rw [List.length_append]
    exact Nat.lt_succ_self _
  · rintro k ⟨⟩ hthrough
    cases hstep
    simp only [List.getElem?_append_right (Nat.le_refl _), Nat.sub_self,
      List.getElem?_cons_zero] at hthrough
    cases hthrough

theorem fit_of_stop {orders : List (Order τ)} {pool : Pool σ τ}
    (hwaiter : client.waiter? = none)
    (horders : client.orders = .stop :: orders)
    (hstep : Pool.Step work client.pool .stop pool)
    (hfit : client.Fit Free) : Fit Free { client with pool, orders } := by
  have hawaited := hfit.awaited
  have hjoinable := hfit.joinable
  have hidle := hfit.idle hwaiter
  rw [horders] at hawaited hjoinable hidle
  have hnobody : ∀ {k}, client.waiter? ≠ some k := by
    intro k hk
    rw [hwaiter] at hk
    cases hk
  have hsound := Pool.sound_of_step hstep hfit.sound
  have hawake := Pool.awake_of_step hstep hfit.awake
  cases hstep
  exact {
    sound := hsound
    awake := hawake
    free := hfit.free
    plain := hfit.plain
    awaited := hawaited
    joinable := hjoinable
    waiting := fun k hk => absurd hk hnobody
    idle := fun _ hnone => hidle hnone
    through := fun k hk => absurd hk hnobody }

theorem fit_of_join {orders : List (Order τ)} (hwaiter : client.waiter? = none)
    (horders : client.orders = .join :: orders) (hfit : client.Fit Free) :
    Fit Free { client with orders } := by
  have hawaited := hfit.awaited
  have hjoinable := hfit.joinable
  have hidle := hfit.idle hwaiter
  rw [horders] at hawaited hjoinable hidle
  exact { hfit with
    awaited := hawaited
    joinable := ((Bool.and_eq_true _ _).mp hjoinable).2
    idle := fun _ hnone => hidle hnone }

theorem fit_of_step (hsteady : work.Steady Free) (h : Step work client next)
    (hfit : client.Fit Free) : next.Fit Free := by
  cases h with
  | within hinner hstep => exact fit_of_within hsteady hinner hstep hfit
  | submit hwaiter horders hstep =>
      exact fit_of_submit hsteady hwaiter horders hstep hfit
  | await hwaiter horders hstep => exact fit_of_await hsteady horders hstep hfit
  | stop hwaiter horders hstep =>
      exact fit_of_stop hwaiter horders hstep hfit
  | join hwaiter horders => exact fit_of_join hwaiter horders hfit
  | resume hwaiter hthrough =>
      exact { hfit with
        waiting := fun k hk => by cases hk
        idle := fun _ _ => hfit.through _ hwaiter hthrough
        through := fun k hk => by cases hk }

/-! ## Something can always happen -/

/-- In the pool of a fit thread no worker is in the middle of a task while
nothing moves. -/
theorem Fit.running (hsteady : work.Steady Free) (hfit : client.Fit Free)
    (hstill : client.pool.Still work) : client.pool.running = [] := by
  apply List.filterMap_eq_nil_iff.mpr
  intro worker hworker
  rcases hstill.worker hworker with
    rfl | rfl | ⟨task, rfl, hmove⟩ | ⟨k, rest, rfl, -⟩
  · rfl
  · rfl
  · cases hsteady.move hfit.free hmove
  · exact absurd hworker (hfit.plain k rest)

/-- Where the pool can do nothing, the thread can. -/
theorem Fit.ownStep? (hsteady : work.Steady Free) (hfit : client.Fit Free)
    (hstill : client.pool.Still work) (hover : client.isOver = false) :
    client.ownStep? work ≠ none := by
  obtain ⟨hidle, hawake, hleft⟩ := hstill.drained hfit.sound hfit.awake
    (hfit.running hsteady hstill)
  have hfree := hstill.free
  have hsubmitting : client.isSubmitting = false := by
    rw [isSubmitting, hfree]
    rfl
  rw [Client.ownStep?, hsubmitting, if_neg Bool.false_ne_true]
  cases hwaiter : client.waiter? with
  | some k =>
      obtain ⟨waiter, hk⟩ : ∃ waiter, client.pool.waiters[k]? = some waiter :=
        ⟨_, List.getElem?_eq_getElem (hfit.waiting k hwaiter)⟩
      cases waiter with
      | testing => simp [hk, Pool.step?]
      | parked => exact absurd (List.mem_of_getElem? hk) hawake
      | through => simp [hk]
  | none =>
      cases horders : client.orders with
      | nil =>
          rw [isOver, horders, hwaiter, hsubmitting] at hover
          cases hover
      | cons order orders =>
          cases order with
          | submit task => simp [obey?, Pool.step?, hfree]
          | await => simp [obey?, Pool.step?]
          | stop => simp [obey?, Pool.step?, hfree]
          | join =>
              have hjoinable := hfit.joinable
              rw [horders] at hjoinable
              obtain ⟨hstopped, -⟩ := (Bool.and_eq_true _ _).mp hjoinable
              have hgone : client.pool.workers.all Worker.isGone = true := by
                apply List.all_eq_true.mpr
                intro worker hworker
                rw [hleft hstopped worker hworker]
                rfl
              simp [obey?, hgone]

/-- What is said to happen next can happen. -/
theorem step?_of_next? {event : ClientEvent τ}
    (h : client.next? work = some event) : client.step? work event ≠ none := by
  unfold next? at h
  split at h
  · next hown =>
      cases h
      exact Option.isSome_iff_ne_none.mp ((Bool.and_eq_true _ _).mp hown).2
  · obtain ⟨event, hnext, rfl⟩ := Option.map_eq_some_iff.mp h
    obtain ⟨hinner, hstep⟩ := Pool.step?_of_next? hnext
    cases event with
    | submit => cases hinner
    | await => cases hinner
    | stop => cases hinner
    | enqueue => simpa [step?] using hstep
    | move => simpa [step?] using hstep
    | notify => simpa [step?] using hstep
    | test => simpa [step?] using hstep

/-- Until the thread is done there is always something to happen next. -/
theorem Fit.next? (hsteady : work.Steady Free) (hfit : client.Fit Free)
    (hover : client.isOver = false) : client.next? work ≠ none := by
  intro hnone
  unfold Client.next? at hnone
  split at hnone
  · cases hnone
  · next hown =>
      have hstill := Pool.still_of_next? (Option.map_eq_none_iff.mp hnone)
      have hsome := hfit.ownStep? hsteady hstill hover
      rw [hstill.free] at hown
      simp only [Option.isNone_none, Bool.true_and] at hown
      exact hown (Option.isSome_iff_ne_none.mpr hsome)

theorem Fit.over_or_step (hsteady : work.Steady Free)
    (hfit : client.Fit Free) :
    client.isOver = true ∨ ∃ event, client.step? work event ≠ none := by
  by_cases hover : client.isOver = true
  · exact .inl hover
  · obtain ⟨event, hevent⟩ := Option.ne_none_iff_exists'.mp
      (hfit.next? hsteady (Bool.eq_false_iff.mpr hover))
    exact .inr ⟨event, step?_of_next? hevent⟩

/-- What can happen keeps a thread fit, and leaves it less to do. -/
theorem Fit.step? (hsteady : work.Steady Free) (hfit : client.Fit Free)
    {event : ClientEvent τ} (h : client.step? work event = some next) :
    next.Fit Free ∧ next.effort work < client.effort work := by
  have hstep := step_of_step? h
  exact ⟨fit_of_step hsteady hstep hfit,
    effort_lt_of_step hsteady hfit.free hstep⟩

/-! ## Runs -/

/-- What every step keeps, every run keeps. -/
theorem run?_keeps (Inv : Client σ τ → Prop)
    (hkeeps : ∀ {client next}, Step work client next → Inv client → Inv next)
    {last : Client σ τ} {events : List (ClientEvent τ)} (hstart : Inv client)
    (h : client.run? work events = some last) : Inv last :=
  run_keeps Inv (fun _ hinv hstep => hkeeps (step_of_step? hstep) hinv) hstart h

theorem fit_of_run (hsteady : work.Steady Free) {last : Client σ τ}
    {events : List (ClientEvent τ)} (hfit : client.Fit Free)
    (h : client.run? work events = some last) : last.Fit Free :=
  run?_keeps (Fit Free) (fit_of_step hsteady) hfit h

/-- Some run leads from the one to the other. -/
def Reaches (work : Work σ τ) (client last : Client σ τ) : Prop :=
  ∃ events, client.run? work events = some last

theorem Reaches.refl (client : Client σ τ) : client.Reaches work client :=
  ⟨[], rfl⟩

theorem Reaches.step {last : Client σ τ} {event : ClientEvent τ}
    (h : client.Reaches work next) (hstep : next.step? work event = some last) :
    client.Reaches work last := by
  obtain ⟨events, hrun⟩ := h
  exact ⟨events ++ [event],
    (run_append hrun [event]).trans (run_cons hstep [])⟩

theorem Reaches.fit {last : Client σ τ} (h : client.Reaches work last)
    (hsteady : work.Steady Free) (hfit : client.Fit Free) : last.Fit Free := by
  obtain ⟨events, hrun⟩ := h
  exact fit_of_run hsteady hfit hrun

/-- No schedule keeps a thread from getting through its orders. -/
theorem Fit.inevitably (hsteady : work.Steady Free) (hfit : client.Fit Free) :
    Inevitably (Client.step? work) (·.isOver = true) client := by
  refine inevitably_of_measure (Fit Free) (effort work) ?_ ?_ hfit
  · exact fun client hfit hover =>
      (hfit.over_or_step hsteady).resolve_left hover
  · exact fun client event next hfit hstep => hfit.step? hsteady hstep

/-- The usual schedule is one of the schedules, and gets through as well. -/
theorem Fit.completeFor (hsteady : work.Steady Free) (steps : Nat) :
    ∀ {client : Client σ τ}, client.Fit Free → client.effort work ≤ steps →
      (client.completeFor work steps).isOver = true ∧
        ∃ events,
          client.run? work events = some (client.completeFor work steps) := by
  induction steps with
  | zero =>
      intro client hfit heffort
      rw [Client.completeFor]
      refine ⟨?_, [], rfl⟩
      refine (hfit.over_or_step hsteady).resolve_right ?_
      rintro ⟨event, hstep⟩
      obtain ⟨next, hnext⟩ := Option.ne_none_iff_exists'.mp hstep
      have hless := (hfit.step? hsteady hnext).2
      omega
  | succ steps ih =>
      intro client hfit heffort
      rw [Client.completeFor]
      split
      · next hover => exact ⟨hover, [], rfl⟩
      · next hover =>
          obtain ⟨event, hevent⟩ := Option.ne_none_iff_exists'.mp
            (hfit.next? hsteady (Bool.eq_false_iff.mpr hover))
          obtain ⟨next, hnext⟩ := Option.ne_none_iff_exists'.mp
            (step?_of_next? hevent)
          obtain ⟨hafter, hless⟩ := hfit.step? hsteady hnext
          rw [hevent, Option.bind_some, hnext]
          obtain ⟨hdone, events, hrun⟩ := ih hafter (by omega)
          exact ⟨hdone, event :: events, (run_cons hnext events).trans hrun⟩

theorem Fit.complete (hsteady : work.Steady Free) (hfit : client.Fit Free) :
    (client.complete work).isOver = true ∧
      ∃ events, client.run? work events = some (client.complete work) :=
  Fit.completeFor hsteady _ hfit (Nat.le_refl _)

/-- A thread that is done is owed nothing. -/
theorem Fit.owed (hfit : client.Fit Free) (hover : client.isOver = true) :
    client.pool.pending = 0 ∧ client.owed = 0 := by
  rw [isOver, Bool.and_eq_true, Bool.and_eq_true, List.isEmpty_iff,
    Option.isNone_iff_eq_none] at hover
  obtain ⟨⟨horders, hwaiter⟩, -⟩ := hover
  have hidle := hfit.idle hwaiter (by rw [horders]; rfl)
  have htasks : client.pool.tasks = 0 := by
    rw [← Multiset.card_eq_zero, ← hfit.sound.pending, hidle]
  refine ⟨hidle, ?_⟩
  rw [Client.owed, htasks, horders]
  rfl

/-- Whatever tasks keep, by their actions and by their end, of the shared data
and the tasks that are owed, holds when the thread is done and nothing is
owed. -/
theorem Fit.outcome (hsteady : work.Steady Free) (Φ : σ → Multiset τ → Prop)
    (hact : ∀ {shared after task rest others}, Free shared →
      work.move shared task = .act after rest → Φ shared (task ::ₘ others) →
      Φ after (rest ::ₘ others))
    (hfinish : ∀ {shared task ending others}, Free shared →
      work.move shared task = .finish ending → Φ shared (task ::ₘ others) →
      Φ shared others)
    (hfit : client.Fit Free) (hopen : client.Unstopped)
    (hstart : Φ client.pool.shared client.owed) {events : List (ClientEvent τ)}
    {last : Client σ τ} (h : client.run? work events = some last) :
    last.Fit Free ∧ last.Unstopped ∧
      (last.isOver = true → Φ last.pool.shared 0) := by
  obtain ⟨hlast, hstill, hΦ⟩ := run?_keeps
    (fun client => client.Fit Free ∧ client.Unstopped ∧
      Φ client.pool.shared client.owed) (by
    rintro client next hstep ⟨hfit, hopen, hΦ⟩
    refine ⟨fit_of_step hsteady hstep hfit,
      unstopped_of_step hsteady hfit.free hstep hopen, ?_⟩
    have hcases := owedStep_of_step hsteady hfit.free hstep
    generalize next.pool.shared = shared at hcases ⊢
    generalize next.owed = owed at hcases ⊢
    cases hcases with
    | same => exact hΦ
    | drop howed hstopped =>
        rw [hopen.now] at hstopped
        cases hstopped
    | act howed hmove => exact hact hfit.free hmove (howed ▸ hΦ)
    | finish howed hmove => exact hfinish hfit.free hmove (howed ▸ hΦ))
    ⟨hfit, hopen, hstart⟩ h
  refine ⟨hlast, hstill, fun hover => ?_⟩
  rw [(hlast.owed hover).2] at hΦ
  exact hΦ

end Client

end Concordance
