import Concordance.Pool.Schedule

/-!
# A thread that uses a pool

One thread outside a pool goes through a list of orders: it submits tasks,
waits for the pool to be idle, stops it, and sees the workers off. It takes
its own steps between those of the pool, in any order, but not in the middle
of a submission of its own, and not while it waits. Nobody else submits to the
pool, waits for it or stops it, except tasks.

The thread is done when it has gone through all orders. The pool may still
move then.
-/

namespace Concordance

/-- What a thread does next with a pool. -/
inductive Order (τ : Type) where
  | submit (task : τ)
  /-- Waits for the pool to be idle. -/
  | await
  | stop
  /-- Waits until all workers have left. -/
  | join

namespace Order

/-- What ends the use of a pool: all work is waited for, and all workers are seen off. -/
def shutDown {τ : Type} : List (Order τ) := [.await, .stop, .join]

def isAwait {τ : Type} : Order τ → Bool
  | await => true
  | _ => false

end Order

def Worker.isGone {τ : Type} : Worker τ → Bool
  | gone => true
  | _ => false

/-- A pool, and the thread that uses it. -/
structure Client (σ τ : Type) where
  pool : Pool σ τ
  orders : List (Order τ)
  /-- Which of the waiting threads it is, while it waits. -/
  waiter? : Option Nat

inductive ClientEvent (τ : Type) where
  /-- The thread takes its next step. -/
  | own
  | pool (event : PoolEvent τ)

namespace Client

variable {σ τ : Type}

/-- A thread about to begin with its orders. -/
def start (pool : Pool σ τ) (orders : List (Order τ)) : Client σ τ := ⟨pool, orders, none⟩

/-- A thread that has tasks done and waits for them. -/
def asking (pool : Pool σ τ) (tasks : List τ) : Client σ τ :=
  start pool (tasks.map .submit ++ [.await])

/-- The thread is in the middle of a submission. -/
def isSubmitting (client : Client σ τ) : Bool :=
  client.pool.entering?.any fun entering => entering.worker?.isNone

/-- Whether the thread has gone through all its orders. -/
def isOver (client : Client σ τ) : Bool :=
  client.orders.isEmpty && client.waiter?.isNone && !client.isSubmitting

/-- Begins with an order. -/
def obey? (work : Work σ τ) (client : Client σ τ) (orders : List (Order τ)) :
    Order τ → Option (Client σ τ)
  | .submit task => (client.pool.step? work (.submit task)).map fun pool => { client with pool, orders }
  | .await => (client.pool.step? work .await).map fun pool =>
      { pool, orders, waiter? := some client.pool.waiters.length }
  | .stop => (client.pool.step? work .stop).map fun pool => { client with pool, orders }
  | .join => if client.pool.workers.all Worker.isGone then some { client with orders } else none

/-- The next step of the thread. -/
def ownStep? (work : Work σ τ) (client : Client σ τ) : Option (Client σ τ) :=
  if client.isSubmitting then none
  else match client.waiter?, client.orders with
    | some k, _ =>
      if client.pool.waiters[k]? = some .through then some { client with waiter? := none }
      else (client.pool.step? work (.test k)).map fun pool => { client with pool }
    | none, order :: orders => client.obey? work orders order
    | none, [] => none

/-- What an event makes of a thread and its pool, if it can happen. -/
def step? (work : Work σ τ) (client : Client σ τ) : ClientEvent τ → Option (Client σ τ)
  | .own => client.ownStep? work
  | .pool (.submit _) | .pool .await | .pool .stop => none
  | .pool event => (client.pool.step? work event).map fun pool => { client with pool }

/-- What a run of events makes of a thread and its pool, if each can happen in turn. -/
def run? (work : Work σ τ) (client : Client σ τ) (events : List (ClientEvent τ)) :
    Option (Client σ τ) :=
  events.foldlM (step? work) client

/-! ## How long it takes

Every step leaves less to do. A task is counted where it is: the further it
has come the less is left of it, and its end may wake every thread that ever
waits, of which there are `waits`. -/

/-- How many threads wait for the pool to be idle before all orders are carried out. -/
def waits (client : Client σ τ) : Nat :=
  client.pool.waiters.length + client.orders.countP Order.isAwait

def workerEffort (work : Work σ τ) (waits : Nat) : Worker τ → Nat
  | .looking | .woken => 1
  | .parked | .gone => 0
  | .running task => work.cost task + waits + 2
  | .awaiting _ rest => work.cost rest + waits + 3

def waiterEffort : Waiter → Nat
  | .testing => 1
  | .parked | .through => 0

def orderEffort (work : Work σ τ) (waits workers : Nat) : Order τ → Nat
  | .submit task => work.cost task + waits + 6
  | .await => 3
  | .stop => workers + 2
  | .join => 1

/-- What all members of a list come to. -/
def sumOf {α : Type} (effort : α → Nat) (xs : List α) : Nat := xs.foldr (effort · + ·) 0

/-- A bound on the steps of the pool, if nothing comes from outside. -/
def poolEffort (work : Work σ τ) (waits : Nat) (pool : Pool σ τ) : Nat :=
  sumOf (fun entering => work.cost entering.task + waits + 5) pool.entering?.toList
    + sumOf (fun task => work.cost task + waits + 3) pool.queue
    + sumOf (workerEffort work waits) pool.workers
    + sumOf waiterEffort pool.waiters
    + pool.notices * (pool.workers.length + 1)

/-- A bound on the steps of a thread and its pool. -/
def effort (work : Work σ τ) (client : Client σ τ) : Nat :=
  poolEffort work client.waits client.pool
    + sumOf (orderEffort work client.waits client.pool.workers.length) client.orders
    + client.waiter?.toList.length

/-! ## One schedule

A submission is completed first. Then the thread goes on, and the workers only
when it has to wait. -/

/-- What happens next, if anything does. -/
def next? (work : Work σ τ) (client : Client σ τ) : Option (ClientEvent τ) :=
  if client.pool.entering?.isNone && (client.ownStep? work).isSome then some .own
  else (client.pool.next? work).map .pool

/-- Goes on until the thread is done, by so many steps at most. -/
def completeFor (work : Work σ τ) : Nat → Client σ τ → Client σ τ
  | 0, client => client
  | steps + 1, client =>
    if client.isOver then client
    else match (client.next? work).bind (client.step? work) with
      | some next => completeFor work steps next
      | none => client

/-- Goes on until the thread is done. -/
def complete (work : Work σ τ) (client : Client σ τ) : Client σ τ :=
  client.completeFor work (client.effort work)

end Client

/-! ## Other work for the same workers -/

/-- A worker without a task, as a worker for tasks of another kind. -/
def Worker.reassign {τ υ : Type} : Worker τ → Worker υ
  | looking | running _ | awaiting .. => looking
  | parked => parked
  | woken => woken
  | gone => gone

/-- A pool without a pending task goes on with other data and tasks of another kind. -/
def Pool.reassign {σ τ ρ υ : Type} (pool : Pool σ τ) (shared : ρ) : Pool ρ υ :=
  { shared, queue := [], entering? := none, pending := 0, stopped := pool.stopped
    notices := pool.notices, workers := pool.workers.map Worker.reassign
    waiters := pool.waiters }

end Concordance
