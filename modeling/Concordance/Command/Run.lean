import Concordance.Command.Session

/-!
# A run of the program

The words of the command line say what is to be done. There are two ways to
do it, one thing after the other or on a pool, and which one it is is a matter
of the words as well. Words that make no sense keep the program from running,
and so does a pool with more workers than the system can start. How many that
are is a matter of the system, but there is an end to it on each.
-/

namespace Concordance

def Options.run (options : Options) (web : Web) (tree : Tree) : Report :=
  if options.usesPool then options.runPooled web tree else options.runSingle tree

/-- Whether a system that can start so many workers can start those of a run. -/
def Options.canStart (most : Nat) (options : Options) : Bool :=
  !options.usesPool || options.workers ≤ most

/-- More workers no system can start, as what is kept of each has 24 bytes, and all of it less
than 2^63. -/
def Pool.mostWorkers : Nat := (Nat.pow 2 63 - 1) / 24

/-- What comes of calling the program. -/
inductive Outcome where
  | ran (report : Report)
  | helped
  | misused
  /-- The workers of the pool could not be started. -/
  | crashed

namespace Outcome

/-- The code the program ends with. -/
def code : Outcome → Nat
  | ran _ | helped => 0
  | misused => 2
  | crashed => 101

/-- Calls the program with words on a tree of files. Any number of workers can be started. -/
def ofWords (web : Web) (tree : Tree) (words : List String) : Outcome :=
  match Options.ofWords words with
  | .ok options => ran (options.run web tree)
  | .error .helpWanted => helped
  | .error .misuse => misused

/-- Calls the program on a system that can start so many workers. -/
def ofWordsOn (most : Nat) (web : Web) (tree : Tree) (words : List String) : Outcome :=
  match Options.ofWords words with
  | .ok options => if options.canStart most then ofWords web tree words else crashed
  | .error _ => ofWords web tree words

/-- The report of a run, unless the program did not come to run. -/
def report? : Outcome → Option Report
  | ran report => some report
  | helped | misused | crashed => none

end Outcome

end Concordance
