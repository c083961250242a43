import Concordance.Proofs.ClientRun

/-!
# Pools to begin with

A pool without a pending task is as good as new, whatever it was used for
before: a thread that begins with it gets through its orders. It stays so when
its workers are put to work of another kind.
-/

namespace Concordance

namespace Pool

variable {σ τ : Type}

/-- A pool without a pending task. -/
structure Ready (pool : Pool σ τ) : Prop where
  sound : pool.Sound
  awake : pool.Awake
  idle : pool.pending = 0

theorem ready_start (workers : Nat) (shared : σ) :
    (start workers shared : Pool σ τ).Ready :=
  ⟨sound_start workers shared, awake_start workers shared, rfl⟩

/-- A pool is ready whenever no task is pending, whatever it was used for. -/
theorem ready_of_run {work : Work σ τ} {workers : Nat} {shared : σ}
    {pool : Pool σ τ} (events : List (PoolEvent τ))
    (h : (start workers shared).run? work events = some pool)
    (hidle : pool.pending = 0) : pool.Ready := by
  obtain ⟨hsound, hawake⟩ := awake_of_run h
  exact ⟨hsound, hawake, hidle⟩

/-- No worker of a ready pool is in the middle of a task. -/
theorem Ready.task? {pool : Pool σ τ} (hready : pool.Ready) {worker : Worker τ}
    (hworker : worker ∈ pool.workers) : worker.task? = none := by
  have hrunning := (hready.sound.idle hready.idle).2
  exact List.filterMap_eq_nil_iff.mp (List.eq_nil_of_length_eq_zero hrunning)
    worker hworker

theorem Ready.tasks {pool : Pool σ τ} (hready : pool.Ready) :
    pool.tasks = 0 := by
  rw [← Multiset.card_eq_zero, ← hready.sound.pending, hready.idle]

theorem task?_reassign {υ : Type} (worker : Worker τ) :
    (worker.reassign : Worker υ).task? = none := by
  cases worker <;> rfl

theorem isParked_reassign {υ : Type} (worker : Worker τ) :
    (worker.reassign : Worker υ).isParked = worker.isParked := by
  cases worker <;> rfl

/-- A ready pool stays so when it is put to other work. -/
theorem Ready.reassign {ρ υ : Type} {pool : Pool σ τ} (hready : pool.Ready)
    (shared : ρ) : (pool.reassign shared : Pool ρ υ).Ready := by
  have hworkers : (pool.workers.map Worker.reassign : List (Worker υ)).filterMap
      Worker.task? = [] := by
    apply List.filterMap_eq_nil_iff.mpr
    intro worker hworker
    obtain ⟨before, -, rfl⟩ := List.mem_map.mp hworker
    exact task?_reassign before
  have hparked : (pool.workers.map Worker.reassign : List (Worker υ)).countP
      Worker.isParked = pool.workers.countP Worker.isParked := by
    rw [List.countP_map]
    exact List.countP_congr fun worker _ => by
      rw [Function.comp_apply, isParked_reassign]
  refine ⟨⟨?_, fun _ => rfl, ?_, ?_⟩, ⟨fun _ => Nat.zero_le _, ?_, ?_⟩, rfl⟩
  · show 0 = (tasksOf none [] (pool.workers.map Worker.reassign)).card
    rw [tasksOf, hworkers]
    rfl
  · intro hgone
    obtain ⟨before, hmem, hbefore⟩ := List.mem_map.mp hgone
    cases before <;> cases hbefore
    exact ⟨(hready.sound.left hmem).1, rfl⟩
  · intro hnil
    exact hready.sound.staffed (List.map_eq_nil_iff.mp hnil)
  · intro hstopped hnotices
    exact hparked.trans (hready.awake.roused hstopped hnotices)
  · intro _
    exact hready.awake.told hready.idle

end Pool

namespace Client

variable {σ τ : Type} {Free : σ → Prop} {pool : Pool σ τ}

/-- A thread that begins with a ready pool gets through its orders. -/
theorem fit_start (hready : pool.Ready) (hfree : Free pool.shared)
    {orders : List (Order τ)} (hawaited : Order.awaited orders = true)
    (hjoinable : Order.joinable pool.stopped orders = true) :
    Fit Free (start pool orders) where
  sound := hready.sound
  awake := hready.awake
  free := hfree
  plain := by
    intro k rest hmem
    cases hready.task? hmem
  awaited := hawaited
  joinable := hjoinable
  waiting := fun k hk => by cases hk
  idle := fun _ _ => hready.idle
  through := fun k hk => by cases hk

/-- A thread without orders leaves a ready pool as it is. -/
theorem idle_outcome {work : Work σ τ} (hsteady : work.Steady Free)
    (hready : pool.Ready) (hopen : pool.stopped = false)
    (hfree : Free pool.shared) {events : List (ClientEvent τ)}
    {last : Client σ τ} (h : (start pool []).run? work events = some last)
    (hover : last.isOver = true) :
    last.pool.Ready ∧ last.pool.stopped = false ∧
      last.pool.shared = pool.shared := by
  have hfit : (start pool []).Fit Free := fit_start hready hfree rfl rfl
  have howed : (start pool []).owed = 0 := by
    rw [owed, start, hready.tasks]
    rfl
  obtain ⟨hlast, hstill, hΦ⟩ := hfit.outcome hsteady
    (fun shared owed => shared = pool.shared ∧ owed = 0)
    (fun _ _ h => absurd h.2 (Multiset.cons_ne_zero))
    (fun _ _ h => absurd h.2 (Multiset.cons_ne_zero))
    ⟨hopen, List.not_mem_nil⟩ ⟨rfl, howed⟩ h
  exact ⟨⟨hlast.sound, hlast.awake, (hlast.owed hover).1⟩, hstill.now,
    (hΦ hover).1⟩

theorem awaited_asking (tasks : List τ) :
    Order.awaited (tasks.map .submit ++ [.await]) = true := by
  induction tasks with
  | nil => rfl
  | cons task tasks ih =>
      rw [List.map_cons, List.cons_append, Order.awaited, ih, List.any_append]
      simp [Order.isAwait]

theorem joinable_asking (stopped : Bool) (tasks : List τ) :
    Order.joinable stopped (tasks.map .submit ++ [.await]) = true := by
  induction tasks with
  | nil => cases stopped <;> rfl
  | cons task tasks ih => exact ih

theorem fit_asking (hready : pool.Ready) (hfree : Free pool.shared)
    (tasks : List τ) : Fit Free (asking pool tasks) :=
  fit_start hready hfree (awaited_asking tasks) (joinable_asking _ tasks)

theorem owed_asking (hready : pool.Ready) (tasks : List τ) :
    (asking pool tasks).owed = ↑tasks := by
  have horders : (tasks.map Order.submit ++ [Order.await]).filterMap
      Order.task? = tasks := by
    rw [List.filterMap_append, List.filterMap_map]
    show tasks.filterMap (fun task => some task) ++ [] = tasks
    rw [List.filterMap_some, List.append_nil]
  rw [owed, asking, start, hready.tasks, horders, zero_add]

/-- A thread that asks for tasks and waits for them gets through whatever the
schedule, and when it does the pool is ready again and the shared data are as
the tasks leave them. -/
theorem asking_outcome {work : Work σ τ} (hsteady : work.Steady Free)
    (Φ : σ → Multiset τ → Prop)
    (hact : ∀ {shared after task rest others}, Free shared →
      work.move shared task = .act after rest → Φ shared (task ::ₘ others) →
      Φ after (rest ::ₘ others))
    (hfinish : ∀ {shared task ending others}, Free shared →
      work.move shared task = .finish ending → Φ shared (task ::ₘ others) →
      Φ shared others)
    (hready : pool.Ready) (hopen : pool.stopped = false)
    (hfree : Free pool.shared) {tasks : List τ}
    (hstart : Φ pool.shared ↑tasks) {events : List (ClientEvent τ)}
    {last : Client σ τ} (h : (asking pool tasks).run? work events = some last)
    (hover : last.isOver = true) :
    last.pool.Ready ∧ last.pool.stopped = false ∧ Free last.pool.shared ∧
      Φ last.pool.shared 0 := by
  have hfit : (asking pool tasks).Fit Free := fit_asking hready hfree tasks
  have hunstopped : (asking pool tasks).Unstopped := by
    refine ⟨hopen, ?_⟩
    intro hmem
    rcases List.mem_append.mp hmem with hsubmit | hawait
    · obtain ⟨task, -, htask⟩ := List.mem_map.mp hsubmit
      cases htask
    · cases List.mem_singleton.mp hawait
  obtain ⟨hlast, hstill, hΦ⟩ := hfit.outcome hsteady Φ hact hfinish hunstopped
    (by rw [owed_asking hready]; exact hstart) h
  exact ⟨⟨hlast.sound, hlast.awake, (hlast.owed hover).1⟩, hstill.now,
    hlast.free, hΦ hover⟩

end Client

end Concordance
