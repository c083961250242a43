/-!
# A tree of files

Files and directories under one root. A path is read part by part from the
root: an empty part and a single dot stay where they are, two dots go up,
and any other part names an entry of the directory reached so far. So a path
that goes on behind a file, be it only by a slash, leads nowhere. Above the
root there is only the root again, and a path that begins with a slash leads
out of the tree.

Reading and writing either succeed or say why not. Writing makes a new file
or replaces one that is there, but never makes a directory. A file can be
closed to those who want to read it or write to it, and reading it can break
off on the way: then what was read until then has been read.
-/

namespace Concordance

/-- Why a path could not be used. -/
inductive Fault where
  | notFound
  | notADirectory
  | isADirectory
  | nameTooLong
  /-- A path with a null character. -/
  | invalidInput
  /-- The content is not well-formed text. -/
  | invalidData
deriving DecidableEq, Repr

/-- A fault with the path at which it occurred. -/
structure AccessError where
  path : String
  fault : Fault
deriving DecidableEq, Repr

def AccessError.message (error : AccessError) : String := "unable to access " ++ error.path

/-- What stands in the way of using a file. -/
structure Access where
  /-- Why the file cannot be opened to be read. -/
  closed? : Option Fault := none
  /-- After how many bytes reading breaks off, and why. -/
  breaks? : Option (Nat × Fault) := none
  /-- Why the file cannot be opened to be written. -/
  sealed? : Option Fault := none

inductive Tree where
  | file (content : List UInt8) (access : Access := {})
  | dir (entries : List (String × Tree))

/-- What was read of a file that could be opened. -/
structure Reading where
  content : List UInt8
  /-- Why reading broke off, if not at the end of the file. -/
  fault? : Option Fault

/-- What is read of a content that may break off. -/
def Access.read (access : Access) (content : List UInt8) : Reading :=
  match access.breaks? with
  | none => ⟨content, none⟩
  | some (length, fault) => ⟨content.take length, some fault⟩

namespace Tree

def empty : Tree := .dir []

instance : Inhabited Tree := ⟨empty⟩

/-! ## Entries -/

/-- The entry of a name. -/
def child? (name : String) : List (String × Tree) → Option Tree
  | [] => none
  | (key, tree) :: rest => if key = name then some tree else child? name rest

/-- The entries with one of them put in or replaced. -/
def setEntry (name : String) (tree : Tree) : List (String × Tree) → List (String × Tree)
  | [] => [(name, tree)]
  | (key, old) :: rest =>
    if key = name then (name, tree) :: rest else (key, old) :: setEntry name tree rest

/-- The subtree at a list of names. -/
def at? (tree : Tree) : List String → Option Tree
  | [] => some tree
  | name :: names =>
    match tree with
    | file .. => none
    | dir entries => (child? name entries).bind fun inner => inner.at? names

/-- The tree with a subtree put at a list of names. What is missing on the way becomes a directory. -/
def plantAt (tree inner : Tree) : List String → Tree
  | [] => inner
  | name :: names =>
    match tree with
    | file .. => dir [(name, plantAt empty inner names)]
    | dir entries => dir (setEntry name (plantAt ((child? name entries).getD empty) inner names) entries)

/-! ## Paths -/

/-- The most bytes of a name and of a path. -/
def longestName : Nat := 255
def longestPath : Nat := 4095

/-- The parts of a path between slashes. -/
def parts (path : String) : List String := path.splitToList (· == '/')

/-- The names that lead to where a path ends, if it leads anywhere. -/
def walk? (tree : Tree) (place : List String) : List String → Except Fault (List String)
  | [] => .ok place
  | part :: rest =>
    match tree.at? place with
    | some (dir entries) =>
      if part = "" ∨ part = "." then tree.walk? place rest
      else if part = ".." then tree.walk? place.dropLast rest
      else if part.utf8ByteSize > longestName then .error .nameTooLong
      else if (child? part entries).isNone then .error .notFound
      else tree.walk? (place ++ [part]) rest
    | _ => .error .notADirectory

/-- What is wrong with a path before it is even walked. -/
def refused? (path : String) : Option Fault :=
  if '\x00' ∈ path.toList then some .invalidInput
  else if path.utf8ByteSize > longestPath then some .nameTooLong
  else if path = "" ∨ path.startsWith "/" then some .notFound
  else none

/-- The subtree at a path. -/
def find? (tree : Tree) (path : String) : Except Fault Tree :=
  match refused? path with
  | some fault => .error fault
  | none =>
    match tree.walk? [] (parts path) with
    | .error fault => .error fault
    | .ok place => .ok ((tree.at? place).getD empty)

/-- Opens the file at a path and reads as far as it goes. A directory can be opened, but nothing
can be read of it. -/
def open? (tree : Tree) (path : String) : Except Fault Reading :=
  match tree.find? path with
  | .error fault => .error fault
  | .ok (dir _) => .ok ⟨[], some .isADirectory⟩
  | .ok (file content access) =>
    match access.closed? with
    | some fault => .error fault
    | none => .ok (access.read content)

/-- The content of the file at a path, if it can be read to its end. -/
def read? (tree : Tree) (path : String) : Except Fault (List UInt8) :=
  match tree.open? path with
  | .error fault | .ok ⟨_, some fault⟩ => .error fault
  | .ok ⟨content, none⟩ => .ok content

/-- Where a path to be written leads: a directory, and the name in it. -/
def target? (tree : Tree) (path : String) : Except Fault (List String × String) :=
  match refused? path with
  | some fault => .error fault
  | none =>
    let trimmed := (parts path).reverse.dropWhile (· = "")
    match trimmed with
    | [] => .error .isADirectory
    | name :: above =>
      match tree.walk? [] above.reverse with
      | .error fault => .error fault
      | .ok place =>
        match tree.at? place with
        | some (dir _) =>
          if name = "." ∨ name = ".." ∨ path.endsWith "/" then .error .isADirectory
          else if name.utf8ByteSize > longestName then .error .nameTooLong
          else .ok (place, name)
        | _ => .error .notADirectory

/-- The tree with a file written. A file that is there keeps what stands in the way of its use. -/
def write? (tree : Tree) (path : String) (content : List UInt8) : Except Fault Tree :=
  match tree.target? path with
  | .error fault => .error fault
  | .ok (place, name) =>
    match tree.at? (place ++ [name]) with
    | some (dir _) => .error .isADirectory
    | some (file _ access) =>
      match access.sealed? with
      | some fault => .error fault
      | none => .ok (tree.plantAt (file content access) (place ++ [name]))
    | none => .ok (tree.plantAt (file content) (place ++ [name]))

/-- The tree with a file or directory at a path, and all directories above it. -/
def plant (tree inner : Tree) (path : String) : Tree :=
  let names := (parts path).filter fun part => part ≠ "" ∧ part ≠ "."
  match inner, tree.at? names with
  | dir [], some (dir _) => tree
  | _, _ => tree.plantAt inner names

end Tree

end Concordance
