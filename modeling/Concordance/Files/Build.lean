import Concordance.Files.TextFiles
import Concordance.Index.Report
import Concordance.Pool.Client
import Concordance.Text.Lines
import Concordance.Text.Utf8

/-!
# Indexing files

A file is read line by line and its terms are recorded at the file's path,
from position 1 on. A file with a single line that is not well-formed text
gives nothing at all. Of a list of files, those that cannot be read are
passed over.

Files are indexed one after the other, or by a pool with a task for each
file. Such a task fills an index of its own and then merges it into the
shared one in a single step.
-/

namespace Concordance

/-- The terms of lines, unless one of them is not well formed. -/
def lineTerms? : List (List UInt8) → Option (List Term)
  | [] => some []
  | line :: lines =>
    (Text.Utf8.decode? line).bind fun text =>
      (lineTerms? lines).map (((stems text).map String.ofList) ++ ·)

/-- The lines that were read. Of a file that broke off, the line under way is not one. -/
def Reading.lines (reading : Reading) : List (List UInt8) :=
  match reading.fault? with
  | none => Text.byteLines reading.content
  | some _ => Text.byteLines (Text.endedPart reading.content)

namespace Tree

/-- The terms of the file at a path. -/
def terms? (tree : Tree) (path : String) : Except Fault (List Term) :=
  match tree.open? path with
  | .error fault => .error fault
  | .ok reading =>
    match lineTerms? reading.lines, reading.fault? with
    | none, _ => .error .invalidData
    | some _, some fault => .error fault
    | some terms, none => .ok terms

end Tree

namespace Index

/-- Indexes one file, and tells how many tokens it has. -/
def addFile? (index : Index) (tree : Tree) (path : String) : Except AccessError (Index × Nat) :=
  match tree.terms? path with
  | .error fault => .error ⟨path, fault⟩
  | .ok terms => .ok (index.addAll terms path 1, terms.length)

/-- Indexes files one after the other, and tells how many could be read. -/
def addFiles (index : Index) (tree : Tree) : List String → Index × Nat
  | [] => (index, 0)
  | path :: paths =>
    match index.addFile? tree path with
    | .error _ => index.addFiles tree paths
    | .ok (added, _) =>
      let (all, count) := added.addFiles tree paths
      (all, count + 1)

end Index

/-! ## On a pool -/

/-- How far the task of one file has come. -/
inductive FileTask where
  | reading (path : String)
  | merging (filled : Index)
  | ended (ending : Ending)

namespace FileTask

def move (tree : Tree) (index : Index) : FileTask → Move Index FileTask
  | .reading path =>
    match Index.empty.addFile? tree path with
    | .error _ => .act index (.ended .failed)
    | .ok (filled, _) => .act index (.merging filled)
  | .merging filled => .act (index.merge filled) (.ended .done)
  | .ended ending => .finish ending

/-- The tasks of a pool that indexes files of a tree. -/
def work (tree : Tree) : Work Index FileTask where
  move := move tree
  cost
    | .reading _ => 3
    | .merging _ => 2
    | .ended _ => 1
  reserve _ := 0

end FileTask

/-- A thread that has files indexed with a task for each, and waits for all of them. -/
def Client.indexing (pool : Pool Index FileTask) (paths : List String) : Client Index FileTask :=
  .asking pool (paths.map .reading)

/-- Indexes files with a task for each, and waits for all of them. -/
def Index.addFilesPooled (index : Index) (tree : Tree) (workers : Nat) (paths : List String) : Index :=
  ((Client.indexing (Pool.start workers index) paths).complete (FileTask.work tree)).pool.shared

/-! ## Writing -/

namespace Tree

/-- Writes a text. -/
def save? (tree : Tree) (path text : String) : Except AccessError Tree :=
  match tree.write? path (Text.Utf8.encode text.toList) with
  | .error fault => .error ⟨path, fault⟩
  | .ok written => .ok written

/-- The text of the file at a path, if there is one. -/
def text? (tree : Tree) (path : String) : Option String :=
  match tree.read? path with
  | .error _ => none
  | .ok content => some (.ofList (Text.Utf8.decodeLossy content))

end Tree

end Concordance
