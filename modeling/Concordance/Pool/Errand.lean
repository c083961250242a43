import Concordance.Pool.Schedule

/-!
# Errands

An errand is the plainest task there is: it may have to wait until a gate is
open, leaves a note of its name, submits further errands in order and ends in
one way or another. Its shared data are the gate and the notes.
-/

namespace Concordance

inductive Errand where
  | errand (name : String) (gated : Bool) (ending : Ending) (children : List Errand)

namespace Errand

instance : Inhabited Errand := ⟨.errand "" false .done []⟩

structure Board where
  gateOpen : Bool
  /-- The names of the errands that went through, in order. -/
  notes : List String

/-- How far an errand has come. -/
inductive Stage where
  | arriving (errand : Errand)
  | sending (children : List Errand) (ending : Ending)

mutual

/-- The steps of an errand and all that it submits. -/
def cost : Errand → Nat
  | .errand _ _ _ children => costs children + 2

/-- The steps of errands that are yet to be submitted. -/
def costs : List Errand → Nat
  | [] => 0
  | first :: rest => cost first + 2 + costs rest

end

def move (board : Board) : Stage → Move Board Stage
  | .arriving (.errand name gated ending children) =>
    if gated && !board.gateOpen then .wait
    else .act { board with notes := board.notes ++ [name] } (.sending children ending)
  | .sending (child :: rest) ending => .spawn (.arriving child) (.sending rest ending)
  | .sending [] ending => .finish ending

def work : Work Board Stage where
  move := move
  cost
    | .arriving arrived => arrived.cost
    | .sending children _ => costs children + 1
  reserve _ := 0

end Errand

/-- A pool whose tasks are errands. -/
abbrev ErrandPool := Pool Errand.Board Errand.Stage

namespace ErrandPool

/-- The number of workers when none is asked for. -/
def usualWorkers : Nat := 5

def start (workers : Nat) : ErrandPool := Pool.start workers ⟨true, []⟩

/-- Submits one errand and lets things happen. -/
def send (pool : ErrandPool) (errand : Errand) : ErrandPool :=
  (pool.submit Errand.work (.arriving errand)).settle Errand.work

/-- Opens or shuts the gate and lets things happen. -/
def setGate (pool : ErrandPool) (gateOpen : Bool) : ErrandPool :=
  Pool.settle Errand.work { pool with shared := { pool.shared with gateOpen } }

/-- Stops the pool, so that workers leave as soon as the queue is empty. -/
def halt (pool : ErrandPool) : ErrandPool := (pool.stop Errand.work).settle Errand.work

/-- Waits for all errands, unless one waits at the gate. -/
def waitForAll? (pool : ErrandPool) : Option ErrandPool := pool.awaitIdle? Errand.work

/-- Waits for all errands and sees the workers off, unless an errand waits at the gate. -/
def close? (pool : ErrandPool) : Option ErrandPool := pool.shutDown? Errand.work

end ErrandPool

end Concordance
