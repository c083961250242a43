/-!
# Work for a pool

A kind of work says what one task does next, given the data that all tasks of
the pool share. A task goes on by atomic steps: it acts on the shared data,
submits another task, stops the pool, starts to wait for the pool to be idle,
ends, or cannot go on until someone else has changed the shared data. Between
two steps any other task may move.

A kind of work also bounds how long it goes on: every action of a task leaves
less to do, counting what the shared data still holds in store. The bound
only says when a schedule is long enough; no answer depends on it.
-/

namespace Concordance

/-- How a task ends. Nobody but the log hears of it. -/
inductive Ending where
  | done | failed | crashed
deriving DecidableEq, Repr

/-- What a running task does next. -/
inductive Move (σ τ : Type) where
  | finish (ending : Ending)
  | act (shared : σ) (rest : τ)
  | spawn (child rest : τ)
  /-- Stops the pool that the task runs on. -/
  | stop (rest : τ)
  /-- Waits for the pool that the task runs on to be idle. -/
  | await (rest : τ)
  | wait

/-- A kind of tasks `τ` over shared data `σ`. -/
structure Work (σ τ : Type) where
  move : σ → τ → Move σ τ
  /-- A bound on the steps of a task and all that it submits. -/
  cost : τ → Nat
  /-- A bound on the steps that the shared data can still give rise to. -/
  reserve : σ → Nat

end Concordance
