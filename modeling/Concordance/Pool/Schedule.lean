import Concordance.Pool.Basic

/-!
# One schedule of a pool

The pool is left to itself until nothing in it can move: every task has ended,
or waits for the shared data to change, or is still in the queue because all
workers hold waiting tasks. The schedule chosen here completes a submission
first and then moves the first worker that can move, so tasks run in the order
of submission as far as the workers allow. A stop that is under way wakes the
workers before any of them moves.

`settle` goes on for at most the steps that the kind of work has bounded, and
by then nothing can move any more.
-/

namespace Concordance.Pool

variable {σ τ : Type}

/-- What happens next by itself, if anything does. -/
def next? (work : Work σ τ) (pool : Pool σ τ) : Option (PoolEvent τ) :=
  if pool.entering?.isSome then
    some (.enqueue (pool.workers.findIdx? Worker.isParked))
  else if pool.notices ≠ 0 then
    some .notify
  else
    ((List.range pool.workers.length).find? fun i => (pool.step? work (.move i)).isSome).map .move

/-- A bound on the steps until nothing moves by itself. -/
def bound (work : Work σ τ) (pool : Pool σ τ) : Nat :=
  let entering := pool.entering?.toList.map Entering.task
  let tasks := entering ++ pool.queue ++ pool.running
  4 * (work.reserve pool.shared + tasks.foldr (fun task sum => work.cost task + 1 + sum) 0)
    + 2 * (pool.workers.length + 1) + pool.notices

/-- Lets things happen by themselves, so many of them at most. -/
def settleFor (work : Work σ τ) : Nat → Pool σ τ → Pool σ τ
  | 0, pool => pool
  | steps + 1, pool =>
    match (pool.next? work).bind (pool.step? work) with
    | some next => settleFor work steps next
    | none => pool

/-- Lets things happen by themselves until nothing can move. -/
def settle (work : Work σ τ) (pool : Pool σ τ) : Pool σ τ := settleFor work (pool.bound work) pool

/-- A thread outside submits a task, and nothing else happens until it is in the queue. -/
def submit (work : Work σ τ) (pool : Pool σ τ) (task : τ) : Pool σ τ :=
  let complete (accepted : Pool σ τ) : Option (Pool σ τ) :=
    if accepted.entering?.isSome then (accepted.next? work).bind (accepted.step? work)
    else some accepted
  ((pool.step? work (.submit task)).bind complete).getD pool

/-- Submits tasks one after the other, before any of them is begun. -/
def submitAll (work : Work σ τ) (pool : Pool σ τ) (tasks : List τ) : Pool σ τ :=
  tasks.foldl (submit work) pool

/-- Marks the pool as stopped and wakes every worker. -/
def stop (work : Work σ τ) (pool : Pool σ τ) : Pool σ τ := (pool.run? work [.stop, .notify]).getD pool

/-- Waits until no task is pending. Nothing comes of it if a task cannot go on. -/
def awaitIdle? (work : Work σ τ) (pool : Pool σ τ) : Option (Pool σ τ) :=
  let settled := pool.settle work
  if settled.pending = 0 then some settled else none

/-- Waits until no task is pending, stops the pool, and sees all workers leave. -/
def shutDown? (work : Work σ τ) (pool : Pool σ τ) : Option (Pool σ τ) :=
  (pool.awaitIdle? work).map fun idle => { (idle.stop work).settle work with workers := [] }

/-- The number of workers that the pool still has. -/
def size (pool : Pool σ τ) : Nat := pool.workers.length

end Concordance.Pool
