import Mathlib.Logic.Relation
import Concordance.Proofs.PoolStep

/-!
# The ledger of a pool

A pool does not remember which tasks it was given and what became of them. The
ledger of a run does. It numbers the accepted tasks in the order of acceptance
and writes down who submitted each, which were taken from the queue, which
number every worker is busy with, and which numbers have ended. Nothing in the
pool reads it. It is only there to say what a run has done.

The ledger is written by looking at the same things as the step of the pool,
and there are only three things to write: that a task was accepted, taken or
ended. `Pool.Booked` lists them, each with what becomes at the same time of the
queue and of the workers.
-/

namespace Concordance

/-- What happened in a run of a pool. A task goes by the number of tasks that
were accepted before it. -/
structure Ledger (τ : Type) where
  /-- The accepted tasks, each with the number of the task that submitted it, if
  one did. -/
  accepted : List (τ × Option Nat)
  /-- The tasks that workers took from the queue. -/
  taken : List τ
  /-- The number of the task that each worker is busy with. -/
  held : List (Option Nat)
  ended : List Nat

namespace Ledger

variable {σ τ : Type}

/-- The ledger of a run that is about to begin. -/
def opened (pool : Pool σ τ) : Ledger τ :=
  ⟨[], [], pool.workers.map fun _ => none, []⟩

/-- The number of the task that a worker is busy with. -/
def number? (ledger : Ledger τ) (i : Nat) : Option Nat := ledger.held[i]?.join

def accept (ledger : Ledger τ) (task : τ) (parent? : Option Nat) : Ledger τ :=
  { ledger with accepted := ledger.accepted ++ [(task, parent?)] }

def take (ledger : Ledger τ) (i : Nat) (task : τ) : Ledger τ :=
  { ledger with
    taken := ledger.taken ++ [task]
    held := ledger.held.set i (some ledger.taken.length) }

def finish (ledger : Ledger τ) (i : Nat) : Ledger τ :=
  { ledger with
    ended := ledger.ended ++ (ledger.number? i).toList
    held := ledger.held.set i none }

/-- Writes down what an event does to a pool. -/
def note (work : Work σ τ) (pool : Pool σ τ) (ledger : Ledger τ) :
    PoolEvent τ → Ledger τ
  | .submit task => if pool.stopped then ledger else ledger.accept task none
  | .move i =>
    match pool.workers[i]? with
    | some .looking | some .woken =>
      match pool.queue with
      | task :: _ => ledger.take i task
      | [] => ledger
    | some (.running task) =>
      match work.move pool.shared task with
      | .finish _ => ledger.finish i
      | .spawn child _ =>
          if pool.stopped then ledger
          else ledger.accept child (ledger.number? i)
      | _ => ledger
    | _ => ledger
  | _ => ledger

/-- The ledger after a run of events that can happen in turn. -/
def after (work : Work σ τ) (pool : Pool σ τ) (ledger : Ledger τ)
    (events : List (PoolEvent τ)) : Ledger τ :=
  notesAfter (Pool.step? work)
    (fun ledger pool event _ => ledger.note work pool event) ledger pool events

/-- The ledger of a run. -/
def ofRun (work : Work σ τ) (pool : Pool σ τ) (events : List (PoolEvent τ)) :
    Ledger τ :=
  after work pool (opened pool) events

/-- One task was submitted by another. -/
def Submitted (ledger : Ledger τ) (parent child : Nat) : Prop :=
  ∃ task, ledger.accepted[child]? = some (task, some parent)

/-- One task is another, or was submitted by it, or by one that descends from
it. -/
def Descends (ledger : Ledger τ) : Nat → Nat → Prop :=
  Relation.ReflTransGen ledger.Submitted

end Ledger

namespace Pool

variable {σ τ : Type}

/-! ## What a step writes down -/

/-- The tasks that no worker has taken yet, in the order of acceptance. -/
def waiting (pool : Pool σ τ) : List τ :=
  pool.queue ++ pool.entering?.toList.map Entering.task

theorem waiting_of_free {pool : Pool σ τ} (hfree : pool.entering? = none) :
    pool.waiting = pool.queue := by
  rw [waiting, hfree]
  exact List.append_nil _

theorem waiting_of_entering {pool : Pool σ τ} {entering : Entering τ}
    (hentering : pool.entering? = some entering) :
    pool.waiting = pool.queue ++ [entering.task] := by
  rw [waiting, hentering]
  rfl

/-- Which workers are in the middle of a task. -/
def busy (pool : Pool σ τ) : List Bool :=
  pool.workers.map fun worker => worker.task?.isSome

/-- What is written down, and what has become of the pool at the same time. -/
inductive Booked (pool next : Pool σ τ) (ledger : Ledger τ) :
    Ledger τ → Prop where
  | nothing (hwaiting : next.waiting = pool.waiting)
      (hbusy : next.busy = pool.busy) :
      Booked pool next ledger ledger
  | accepted {task : τ} {parent? : Option Nat}
      (hparent : ∀ parent, parent? = some parent → some parent ∈ ledger.held)
      (hwaiting : next.waiting = pool.waiting ++ [task])
      (hbusy : next.busy = pool.busy) :
      Booked pool next ledger (ledger.accept task parent?)
  | taken {i : Nat} {task : τ} (hwaiting : pool.waiting = task :: next.waiting)
      (hi : pool.busy[i]? = some false)
      (hbusy : next.busy = pool.busy.set i true) :
      Booked pool next ledger (ledger.take i task)
  | ended {i : Nat} (hwaiting : next.waiting = pool.waiting)
      (hi : pool.busy[i]? = some true)
      (hbusy : next.busy = pool.busy.set i false) :
      Booked pool next ledger (ledger.finish i)

theorem getElem?_busy {pool : Pool σ τ} {i : Nat} {worker : Worker τ}
    (hi : pool.workers[i]? = some worker) :
    pool.busy[i]? = some worker.task?.isSome := by
  rw [busy, List.getElem?_map, hi, Option.map_some]

/-- A worker that neither takes nor ends a task. -/
theorem busy_set_same {pool : Pool σ τ} {i : Nat} {worker w : Worker τ}
    (hi : pool.workers[i]? = some worker)
    (hw : w.task?.isSome = worker.task?.isSome) :
    (pool.workers.set i w).map (fun worker => worker.task?.isSome) =
      pool.busy := by
  obtain ⟨hlt, hget⟩ := List.getElem?_eq_some_iff.mp (getElem?_busy hi)
  rw [List.map_set, hw, ← hget]
  exact List.set_getElem_self hlt

theorem busy_wakeOne? {pool : Pool σ τ} {woken? : Option Nat}
    {workers : List (Worker τ)} (h : pool.wakeOne? woken? = some workers) :
    workers.map (fun worker => worker.task?.isSome) = pool.busy := by
  unfold wakeOne? at h
  split at h
  · split at h
    · cases h
    · cases h; rfl
  · next i =>
      split at h
      · next hi => cases h; exact busy_set_same hi rfl
      · cases h

theorem busy_wake (pool : Pool σ τ) :
    (pool.workers.map Worker.wake).map (fun worker => worker.task?.isSome) =
      pool.busy := by
  rw [List.map_map]
  exact List.map_congr_left fun worker _ =>
    congrArg Option.isSome (task?_wake worker)

theorem note_of_ready {work : Work σ τ} {pool : Pool σ τ} {i : Nat}
    (hready : pool.isReady i) (ledger : Ledger τ) :
    ledger.note work pool (.move i) =
      match pool.queue with
      | task :: _ => ledger.take i task
      | [] => ledger := by
  rcases hready with h | h <;> simp only [Ledger.note, h]

theorem note_of_running {work : Work σ τ} {pool : Pool σ τ} {i : Nat} {task : τ}
    (hi : pool.workers[i]? = some (.running task)) (ledger : Ledger τ) :
    ledger.note work pool (.move i) =
      match work.move pool.shared task with
      | .finish _ => ledger.finish i
      | .spawn child _ =>
          if pool.stopped then ledger
          else ledger.accept child (ledger.number? i)
      | _ => ledger := by
  simp only [Ledger.note, hi]

theorem booked_of_step {work : Work σ τ} {pool next : Pool σ τ}
    {event : PoolEvent τ} (h : Step work pool event next) (ledger : Ledger τ) :
    Booked pool next ledger (ledger.note work pool event) := by
  -- A worker that goes on with the rest of its task.
  have hgoing : ∀ {i task}, pool.workers[i]? = some (.running task) →
      ∀ rest : τ,
        (pool.workers.set i (.running rest)).map
          (fun worker => worker.task?.isSome) = pool.busy :=
    fun hi _ => busy_set_same hi rfl
  cases h with
  | refuse hfree hstopped =>
      rw [Ledger.note, if_pos hstopped]
      exact .nothing rfl rfl
  | accept hfree hopen =>
      rw [Ledger.note, if_neg (Bool.eq_false_iff.mp hopen)]
      refine .accepted (fun _ h => by cases h) ?_ rfl
      rw [waiting_of_free hfree, waiting_of_entering rfl]
  | enqueue hentering hwoken =>
      refine .nothing ?_ (busy_wakeOne? hwoken)
      rw [waiting_of_free rfl, waiting_of_entering hentering]
  | take hready hfree hqueue =>
      obtain ⟨worker, hi, hnone⟩ := task?_of_isReady hready
      rw [note_of_ready hready, hqueue]
      refine .taken ?_ ?_ (List.map_set ..)
      · rw [waiting, waiting, hqueue]
        rfl
      · rw [getElem?_busy hi, hnone]
        rfl
  | @leave i hready hfree hqueue =>
      obtain ⟨worker, hi, hnone⟩ := task?_of_isReady hready
      have hnote : ledger.note work pool (.move i) = ledger := by
        rw [note_of_ready hready, hqueue]
      rw [hnote]
      exact .nothing rfl (busy_set_same hi (by rw [hnone]; rfl))
  | @park i hready hfree hqueue =>
      obtain ⟨worker, hi, hnone⟩ := task?_of_isReady hready
      have hnote : ledger.note work pool (.move i) = ledger := by
        rw [note_of_ready hready, hqueue]
      rw [hnote]
      exact .nothing rfl (busy_set_same hi (by rw [hnone]; rfl))
  | finish hi hmove =>
      rw [note_of_running hi, hmove]
      exact .ended rfl (getElem?_busy hi) (List.map_set ..)
  | act hi hmove =>
      rw [note_of_running hi, hmove]
      exact .nothing rfl (hgoing hi _)
  | spawnRefused hi hmove hfree hstopped =>
      rw [note_of_running hi, hmove]
      simp only [hstopped, if_true]
      exact .nothing rfl (hgoing hi _)
  | spawn hi hmove hfree hopen =>
      rw [note_of_running hi, hmove]
      simp only [hopen, Bool.false_eq_true, if_false]
      refine .accepted ?_ ?_ (hgoing hi _)
      · intro parent hparent
        exact List.mem_of_getElem? (Option.join_eq_some_iff.mp hparent)
      · rw [waiting_of_free hfree, waiting_of_entering rfl]
  | stopWithin hi hmove =>
      rw [note_of_running hi, hmove]
      exact .nothing rfl (hgoing hi _)
  | awaitWithin hi hmove =>
      rw [note_of_running hi, hmove]
      exact .nothing rfl (busy_set_same hi rfl)
  | resume hi =>
      simp only [Ledger.note, hi]
      exact .nothing rfl (busy_set_same hi rfl)
  | stop => exact .nothing rfl rfl
  | notify => exact .nothing rfl (busy_wake pool)
  | await => exact .nothing rfl rfl
  | pass => exact .nothing rfl rfl
  | stay => exact .nothing rfl rfl

end Pool

end Concordance
