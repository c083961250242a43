import Concordance.Files.Tree
import Concordance.SortedMap

/-!
# Which files are texts

A text file has a name with an extension of `txt` or `text` in any letter
case, and something before the dot. Below a directory all text files are
found, at any depth; a directory is none, whatever its name. They are listed
directory by directory, and in each directory by name.

A path that leads to a file stands for that file alone, whatever its name.
-/

namespace Concordance

/-- A character with `A` to `Z` made small. -/
def asciiLower (c : Char) : Char :=
  if 'A' ≤ c && c ≤ 'Z' then Char.ofNat (c.toNat + 32) else c

/-- The extension of a file name: what follows its last dot. A name that
begins with its only dot has none. -/
def extension? (name : List Char) : Option (List Char) :=
  let reversed := name.reverse
  match reversed.dropWhile (· ≠ '.') with
  | _ :: _ :: _ => if name = ['.', '.'] then none else some (reversed.takeWhile (· ≠ '.')).reverse
  | _ => none

/-- Whether a file of this name is a text. -/
def isTextName (name : String) : Bool :=
  match extension? name.toList with
  | none => false
  | some found =>
    let lower := found.map asciiLower
    lower = ['t', 'x', 't'] || lower = ['t', 'e', 'x', 't']

/-- The name at the end of a path. Dots that stay in place do not count unless they lead it. -/
def fileName? (path : String) : Option String :=
  ((Tree.parts path).filter fun part => part ≠ "" ∧ part ≠ ".").getLast?

/-- Whether the file of a path is a text, going by its name. -/
def isTextFile (path : String) : Bool := (fileName? path).any isTextName

namespace Tree

mutual

/-- The text files in a tree, each as the names that lead to it; `name` is the tree's own. -/
def textsIn (name : String) : Tree → List (List String)
  | file .. => if isTextName name then [[]] else []
  | dir entries => (textsBelow entries).entries.flatMap fun (inner, places) => places.map (inner :: ·)

/-- The text files in each entry of a directory, by name. -/
def textsBelow : List (String × Tree) → SortedMap String (List (List String))
  | [] => .empty
  | (name, tree) :: rest => (textsBelow rest).insert name (textsIn name tree)

end

/-- A path that goes on by names. -/
def extend (path : String) (names : List String) : String :=
  names.foldl (fun path name => if path.endsWith "/" then path ++ name else path ++ "/" ++ name) path

/-- The text files that a path stands for. -/
def textFiles? (tree : Tree) (path : String) : Except AccessError (List String) :=
  match tree.find? path with
  | .error fault => .error ⟨path, fault⟩
  | .ok (file ..) => .ok [path]
  | .ok (dir entries) => .ok ((textsIn "" (dir entries)).map (extend path))

end Tree

end Concordance
