import Concordance.Lock.Basic

/-!
# A list behind a lock

Holders with names read a list of texts, or write to it, one call after the
other; a call that would have to wait is refused. Besides them there are late
threads, which do wait: a late writer appends one text as soon as it is let
in, and a late reader remembers what it saw. A late thread lets go at once.

Late threads are let in only in an order that the lock itself determines, so
one that could race with another is refused. After each call the threads that
were woken move on until all that remain are parked.
-/

namespace Concordance

/-- What a thread wants the lock for. -/
inductive Purpose where
  | hold (name : String)
  | append (text : String)
  | look (name : String)
deriving DecidableEq, Repr

/-- Why a call was refused. -/
inductive LockRefusal where
  | wouldBlock | nameInUse | notAWriter | noSuchHolder | orderOpen
deriving DecidableEq, Repr

/-- The reason in words. Having to wait needs none. -/
def LockRefusal.message : LockRefusal → String
  | wouldBlock => ""
  | nameInUse => "name in use"
  | notAWriter => "not a writer"
  | noSuchHolder => "no such holder"
  | orderOpen => "order would not be fixed"

/-- A list behind a lock, with a purpose for each of the lock's threads. -/
structure Guarded where
  lock : SharedLock
  purposes : List Purpose
  value : List String
  /-- What each late reader saw, in the order of looking. -/
  seen : List (String × List String)
deriving Repr

namespace Guarded

def empty : Guarded := ⟨.unused 0, [], [], []⟩

/-- One more thread, outside the lock. -/
def join (guarded : Guarded) (purpose : Purpose) : Guarded :=
  { guarded with
    lock := { guarded.lock with threads := guarded.lock.threads ++ [.outside] }
    purposes := guarded.purposes ++ [purpose] }

/-- The threads with their purpose, numbered. -/
def crew (guarded : Guarded) : List (Nat × Purpose × Stance) :=
  (List.range guarded.purposes.length).zip (guarded.purposes.zip guarded.lock.threads)

/-- The thread of a holder that is in, and whether it writes. -/
def holder? (guarded : Guarded) (name : String) : Option (Nat × Bool) :=
  guarded.crew.findSome? fun (i, purpose, stance) =>
    if purpose ≠ .hold name then none
    else match stance with
      | .reading => some (i, false)
      | .writing => some (i, true)
      | _ => none

/-- A late writer that has not been let in. -/
def writerWaits (guarded : Guarded) : Bool := guarded.lock.waitingWriters > 0

/-- A late reader that has not been let in. -/
def readerWaits (guarded : Guarded) : Bool :=
  guarded.lock.threads.any fun stance => stance = .awaitingRead true || stance = .awaitingRead false

/-- The writer that letting go wakes: the first one parked. -/
def nextWriter? (guarded : Guarded) : Option Nat :=
  guarded.lock.threads.findIdx? (· = .awaitingWrite false)

/-- What a thread lets go of, with the writer that this wakes, if any. -/
def letGo (guarded : Guarded) (thread : Nat) : Guarded :=
  let release (woken? : Option Nat) := guarded.lock.step? (.release thread woken?)
  { guarded with lock := (release guarded.nextWriter? <|> release none).getD guarded.lock }

/-- A late thread that is in does what it came for and lets go. -/
def fulfil (guarded : Guarded) (thread : Nat) : Purpose → Guarded
  | .hold _ => guarded
  | .append text => letGo { guarded with value := guarded.value ++ [text] } thread
  | .look name => letGo { guarded with seen := guarded.seen ++ [(name, guarded.value)] } thread

/-- The next move of a late thread, if one can move. -/
def next? (guarded : Guarded) : Option Guarded :=
  guarded.crew.findSome? fun (i, purpose, stance) =>
    match purpose, stance with
    | .hold _, _ => none
    | _, .reading | _, .writing => some (guarded.fulfil i purpose)
    | _, _ => (guarded.lock.step? (.retest i)).map fun lock => { guarded with lock }

/-- Lets late threads move, so many times at most. -/
def settleFor : Nat → Guarded → Guarded
  | 0, guarded => guarded
  | steps + 1, guarded =>
    match guarded.next? with
    | some next => settleFor steps next
    | none => guarded

/-- Lets late threads move until all are parked or through. Each is woken at most twice. -/
def settle (guarded : Guarded) : Guarded := settleFor (4 * guarded.purposes.length) guarded

/-- A holder comes in by the event given, or does not. -/
def enter (guarded : Guarded) (name : String) (event : Nat → LockEvent) :
    Except LockRefusal (Option Guarded) :=
  if (guarded.holder? name).isSome then .error .nameInUse
  else
    let joined := guarded.join (.hold name)
    match joined.lock.step? (event guarded.purposes.length) with
    | none => .ok none
    | some lock =>
      let entered := { joined with lock }
      .ok (if (entered.holder? name).isSome then some entered else none)

/-- A holder comes in where it must not wait. -/
def enterNow (guarded : Guarded) (name : String) (event : Nat → LockEvent) :
    Except LockRefusal Guarded :=
  match guarded.enter name event with
  | .error refusal => .error refusal
  | .ok none => .error .wouldBlock
  | .ok (some entered) => .ok entered

def read (guarded : Guarded) (name : String) : Except LockRefusal Guarded :=
  guarded.enterNow name .read

def write (guarded : Guarded) (name : String) : Except LockRefusal Guarded :=
  guarded.enterNow name .write

def tryRead (guarded : Guarded) (name : String) : Except LockRefusal (Option Guarded) :=
  guarded.enter name .tryRead

def tryWrite (guarded : Guarded) (name : String) : Except LockRefusal (Option Guarded) :=
  guarded.enter name .tryWrite

/-- A holder that writes appends a text. -/
def push (guarded : Guarded) (name text : String) : Except LockRefusal Guarded :=
  match guarded.holder? name with
  | some (_, true) => .ok { guarded with value := guarded.value ++ [text] }
  | _ => .error .notAWriter

/-- What a holder sees. -/
def see (guarded : Guarded) (name : String) : Except LockRefusal (List String) :=
  match guarded.holder? name with
  | some _ => .ok guarded.value
  | none => .error .noSuchHolder

def release (guarded : Guarded) (name : String) : Except LockRefusal Guarded :=
  match guarded.holder? name with
  | some (thread, _) => .ok (guarded.letGo thread).settle
  | none => .error .noSuchHolder

/-- A late thread comes by the event given. -/
def arrive (guarded : Guarded) (purpose : Purpose) (event : Nat → LockEvent) : Guarded :=
  let joined := guarded.join purpose
  let lock := (joined.lock.step? (event guarded.purposes.length)).getD joined.lock
  settle { joined with lock }

/-- A late writer comes, unless it could race with another late thread. -/
def lateWriter (guarded : Guarded) (text : String) : Except LockRefusal Guarded :=
  if guarded.writerWaits || (guarded.lock.writer && guarded.readerWaits) then .error .orderOpen
  else .ok (guarded.arrive (.append text) .write)

/-- A late reader comes, unless it could race with a late writer. -/
def lateReader (guarded : Guarded) (name : String) : Except LockRefusal Guarded :=
  if guarded.lock.writer && guarded.writerWaits then .error .orderOpen
  else .ok (guarded.arrive (.look name) .read)

/-- All holders let go. -/
def releaseAll (guarded : Guarded) : Guarded :=
  guarded.purposes.foldl (fun left purpose =>
    match purpose with
    | .hold name => (left.release name).toOption.getD left
    | _ => left) guarded

end Guarded

end Concordance
