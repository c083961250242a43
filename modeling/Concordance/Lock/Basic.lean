/-!
# A lock with many readers or one writer

Readers are let in while nobody writes and nobody waits to write. From the
moment a writer waits, new readers queue behind it, so a stream of readers
cannot keep a writer out for ever. Trying to write does not wait and looks
only at who is in, so it may overtake waiting writers.

The lock counts the readers and waiting writers and marks a writer. Each of
its operations is one atomic step on these three, up to the point where the
thread is in, has failed to get in, or parks. A thread that parked tests again
when it is woken, and may have to park once more. Which of several waiting
writers is woken is not determined.

The lock never asks who calls. So what is called a thread here is one use of
the lock, from the call to the release: a thread that asks for the lock while
it is in, or hands what it holds to another, is two of them.

`SharedLock.step?` gives what one event makes of the lock and its threads, or
nothing if the event cannot happen now. An event names the thread that moves,
so a list of events is an interleaving of all threads.
-/

namespace Concordance

/-- What a thread has to do with the lock. -/
inductive Stance where
  | outside
  | reading
  | writing
  | awaitingRead (woken : Bool)
  | awaitingWrite (woken : Bool)
deriving DecidableEq, Repr

structure SharedLock where
  readers : Nat
  writer : Bool
  waitingWriters : Nat
  threads : List Stance
deriving DecidableEq, Repr

inductive LockEvent where
  | read (thread : Nat)
  | tryRead (thread : Nat)
  | write (thread : Nat)
  | tryWrite (thread : Nat)
  /-- A thread that was woken tests again. -/
  | retest (thread : Nat)
  /-- A thread that is in lets go, which may wake the waiting writer named. -/
  | release (thread : Nat) (woken? : Option Nat)
deriving DecidableEq, Repr

namespace SharedLock

/-- A lock that nobody uses, with so many threads that may. -/
def unused (threads : Nat) : SharedLock := ⟨0, false, 0, .replicate threads .outside⟩

def isLocked (lock : SharedLock) : Bool := lock.writer || lock.readers > 0

def isLockedExclusive (lock : SharedLock) : Bool := lock.writer

def admitsReader (lock : SharedLock) : Bool := !lock.writer && lock.waitingWriters == 0

def admitsWriter (lock : SharedLock) : Bool := !lock.writer && lock.readers == 0

def place (lock : SharedLock) (thread : Nat) (stance : Stance) : SharedLock :=
  { lock with threads := lock.threads.set thread stance }

/-- A reader comes in, or is left as said. -/
def enterRead (lock : SharedLock) (thread : Nat) (otherwise : Stance) : SharedLock :=
  if lock.admitsReader then { lock.place thread .reading with readers := lock.readers + 1 }
  else lock.place thread otherwise

/-- A writer comes in, or is left as said. -/
def enterWrite (lock : SharedLock) (thread : Nat) (otherwise : Stance) : SharedLock :=
  if lock.admitsWriter then { lock.place thread .writing with writer := true }
  else lock.place thread otherwise

/-- A writer that is counted as waiting comes in, or parks. -/
def enterWaiting (lock : SharedLock) (thread : Nat) : SharedLock :=
  if lock.admitsWriter then
    { lock.place thread .writing with writer := true, waitingWriters := lock.waitingWriters - 1 }
  else lock.place thread (.awaitingWrite false)

/-- Wakes one parked writer. Nobody may be named only if none is parked. -/
def wakeWriter? (lock : SharedLock) : Option Nat → Option SharedLock
  | none => if .awaitingWrite false ∈ lock.threads then none else some lock
  | some i =>
    if lock.threads[i]? = some (.awaitingWrite false) then some (lock.place i (.awaitingWrite true))
    else none

/-- Wakes all parked readers. -/
def wakeReaders (lock : SharedLock) : SharedLock :=
  let woken (stance : Stance) : Stance :=
    if stance = .awaitingRead false then .awaitingRead true else stance
  { lock with threads := lock.threads.map woken }

/-- A reader lets go. The last one wakes a writer. -/
def leaveRead? (lock : SharedLock) (thread : Nat) (woken? : Option Nat) : Option SharedLock :=
  let left := { lock.place thread .outside with readers := lock.readers - 1 }
  if left.readers = 0 then left.wakeWriter? woken?
  else if woken?.isSome then none else some left

/-- A writer lets go and wakes a waiting writer, or else all waiting readers. -/
def leaveWrite? (lock : SharedLock) (thread : Nat) (woken? : Option Nat) : Option SharedLock :=
  let left := { lock.place thread .outside with writer := false }
  if 0 < left.waitingWriters then left.wakeWriter? woken?
  else if woken?.isSome then none else some left.wakeReaders

/-- What an event makes of the lock, if it can happen. -/
def step? (lock : SharedLock) (event : LockEvent) : Option SharedLock :=
  match event with
  | .read i => match lock.threads[i]? with
    | some .outside => some (lock.enterRead i (.awaitingRead false))
    | _ => none
  | .tryRead i => match lock.threads[i]? with
    | some .outside => some (lock.enterRead i .outside)
    | _ => none
  | .write i => match lock.threads[i]? with
    | some .outside => some (enterWaiting { lock with waitingWriters := lock.waitingWriters + 1 } i)
    | _ => none
  | .tryWrite i => match lock.threads[i]? with
    | some .outside => some (lock.enterWrite i .outside)
    | _ => none
  | .retest i => match lock.threads[i]? with
    | some (.awaitingRead true) => some (lock.enterRead i (.awaitingRead false))
    | some (.awaitingWrite true) => some (lock.enterWaiting i)
    | _ => none
  | .release i woken? => match lock.threads[i]? with
    | some .reading => lock.leaveRead? i woken?
    | some .writing => lock.leaveWrite? i woken?
    | _ => none

/-- What a run of events makes of the lock, if each can happen in turn. -/
def run? (lock : SharedLock) (events : List LockEvent) : Option SharedLock :=
  events.foldlM step? lock

end SharedLock

end Concordance
