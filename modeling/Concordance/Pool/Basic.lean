import Concordance.Pool.Work

/-!
# A pool of workers on one queue

Workers take tasks from the front of one queue. Two things are guarded apart:
the queue with its stop mark, and the number of pending tasks. Looking at the
queue, submitting and stopping exclude each other; lowering the number of
pending tasks and testing it exclude each other. A submission is two steps:
it first counts the task and then puts it into the queue, and nobody can get
at the queue in between.

A worker that finds the queue empty parks until it is woken, or leaves if the
pool was stopped. Putting a task into the queue wakes one parked worker, if
there is one; which one is not determined. Stopping leaves the mark first and
then, in a step of its own, wakes all. A thread that waits for the pool to be
idle parks until the last pending task has ended and tests the number again.
A task of the pool can do all of this too. If it waits for the pool to be
idle, it waits for itself.

`Pool.step?` gives what one event makes of a pool, or nothing if the event
cannot happen now. An event names the thread that moves, so a list of events
is an interleaving of all threads, and every interleaving is such a list.
-/

namespace Concordance

inductive Worker (τ : Type) where
  /-- About to look at the queue. -/
  | looking
  | parked
  /-- Woken, and about to look at the queue again. -/
  | woken
  | running (task : τ)
  /-- In the middle of a task that waits, as one of the waiting threads, for the pool to be idle. -/
  | awaiting (waiter : Nat) (rest : τ)
  | gone
deriving DecidableEq

namespace Worker

def isParked {τ : Type} : Worker τ → Bool
  | parked => true
  | _ => false

/-- A parked worker is woken, any other goes on as it was. -/
def wake {τ : Type} : Worker τ → Worker τ
  | parked => woken
  | worker => worker

/-- The task that a worker has taken and not yet ended. -/
def task? {τ : Type} : Worker τ → Option τ
  | running task => some task
  | awaiting _ rest => some rest
  | _ => none

end Worker

/-- A thread that waits for the pool to be idle. -/
inductive Waiter where
  /-- About to test the number of pending tasks. -/
  | testing
  | parked
  | through
deriving DecidableEq, Repr

/-- A submission that has counted its task and not yet put it into the queue. -/
structure Entering (τ : Type) where
  task : τ
  /-- The worker whose task submits, or nobody for a thread outside. -/
  worker? : Option Nat
deriving DecidableEq

structure Pool (σ τ : Type) where
  shared : σ
  queue : List τ
  entering? : Option (Entering τ)
  pending : Nat
  stopped : Bool
  /-- How many stops have left the mark and not yet woken the workers. -/
  notices : Nat
  workers : List (Worker τ)
  waiters : List Waiter

/-- What can happen next in a pool. -/
inductive PoolEvent (τ : Type) where
  /-- A thread outside starts a submission. -/
  | submit (task : τ)
  /-- A submission puts its task into the queue and wakes the parked worker named, if any. -/
  | enqueue (woken? : Option Nat)
  /-- A worker takes its next step. -/
  | move (worker : Nat)
  /-- A thread outside marks the pool as stopped. -/
  | stop
  /-- A stop wakes the workers. -/
  | notify
  /-- One more thread starts to wait for the pool to be idle. -/
  | await
  /-- A waiting thread tests the number of pending tasks. -/
  | test (waiter : Nat)

namespace Pool

variable {σ τ : Type}

/-- A pool of at least one worker. -/
def start (workers : Nat) (shared : σ) : Pool σ τ :=
  { shared, queue := [], entering? := none, pending := 0, stopped := false, notices := 0
    workers := .replicate (max workers 1) .looking, waiters := [] }

/-- The tasks that workers are busy with. -/
def running (pool : Pool σ τ) : List τ := pool.workers.filterMap Worker.task?

/-- The first step of a submission. After a stop the task is dropped. -/
def accept (pool : Pool σ τ) (task : τ) (worker? : Option Nat) : Pool σ τ :=
  if pool.stopped then pool
  else { pool with pending := pool.pending + 1, entering? := some ⟨task, worker?⟩ }

/-- The workers after one of them was woken. Nobody may be named only if nobody is parked. -/
def wakeOne? (pool : Pool σ τ) : Option Nat → Option (List (Worker τ))
  | none => if pool.workers.any Worker.isParked then none else some pool.workers
  | some i =>
    match pool.workers[i]? with
    | some .parked => some (pool.workers.set i .woken)
    | _ => none

/-- The first step of a stop. -/
def halt (pool : Pool σ τ) : Pool σ τ := { pool with stopped := true, notices := pool.notices + 1 }

/-- A worker has ended its task: it is no longer pending, and the worker looks for another. -/
def finishOne (pool : Pool σ τ) (i : Nat) : Pool σ τ :=
  let pending := pool.pending - 1
  let woken (waiter : Waiter) : Waiter := if pending = 0 && waiter == .parked then .testing else waiter
  { pool with pending, waiters := pool.waiters.map woken, workers := pool.workers.set i .looking }

/-- A worker looks at the queue: it takes the first task, leaves, or parks. -/
def look (pool : Pool σ τ) (i : Nat) : Pool σ τ :=
  match pool.queue with
  | task :: queue => { pool with queue, workers := pool.workers.set i (.running task) }
  | [] => { pool with workers := pool.workers.set i (if pool.stopped then .gone else .parked) }

/-- The next step of a worker in the middle of a task. -/
def advance? (work : Work σ τ) (pool : Pool σ τ) (i : Nat) (task : τ) : Option (Pool σ τ) :=
  match work.move pool.shared task with
  | .finish _ => some (pool.finishOne i)
  | .act shared rest => some { pool with shared, workers := pool.workers.set i (.running rest) }
  | .spawn child rest =>
    if pool.entering?.isSome then none
    else some { pool.accept child (some i) with workers := pool.workers.set i (.running rest) }
  | .stop rest =>
    if pool.entering?.isSome then none
    else some { pool.halt with workers := pool.workers.set i (.running rest) }
  | .await rest =>
    some { pool with
      workers := pool.workers.set i (.awaiting pool.waiters.length rest)
      waiters := pool.waiters ++ [.testing] }
  | .wait => none

/-- The worker is in the middle of a submission. -/
def isSubmitting (pool : Pool σ τ) (i : Nat) : Bool :=
  pool.entering?.any fun entering => entering.worker? == some i

/-- What an event makes of a pool, if it can happen. -/
def step? (work : Work σ τ) (pool : Pool σ τ) : PoolEvent τ → Option (Pool σ τ)
  | .submit task => if pool.entering?.isSome then none else some (pool.accept task none)
  | .enqueue woken? =>
    match pool.entering? with
    | none => none
    | some entering => (pool.wakeOne? woken?).map fun workers =>
        { pool with queue := pool.queue ++ [entering.task], entering? := none, workers }
  | .move i =>
    match pool.workers[i]? with
    | some .looking | some .woken => if pool.entering?.isSome then none else some (pool.look i)
    | some (.running task) => if pool.isSubmitting i then none else pool.advance? work i task
    | some (.awaiting k rest) =>
      if pool.waiters[k]? = some .through then
        some { pool with workers := pool.workers.set i (.running rest) }
      else none
    | _ => none
  | .stop => if pool.entering?.isSome then none else some pool.halt
  | .notify =>
    if pool.notices = 0 then none
    else some { pool with
      notices := pool.notices - 1
      workers := pool.workers.map Worker.wake }
  | .await => some { pool with waiters := pool.waiters ++ [.testing] }
  | .test k =>
    match pool.waiters[k]? with
    | some .testing =>
      some { pool with waiters := pool.waiters.set k (if pool.pending = 0 then .through else .parked) }
    | _ => none

/-- What a run of events makes of a pool, if each can happen in turn. -/
def run? (work : Work σ τ) (pool : Pool σ τ) (events : List (PoolEvent τ)) : Option (Pool σ τ) :=
  events.foldlM (step? work) pool

end Pool

end Concordance
