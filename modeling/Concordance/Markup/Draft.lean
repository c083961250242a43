import Concordance.Markup.Token

/-!
# The tree of a page, while it is put together

Elements are moved about while a page is read: a piece of a table that turns
out to be none is put before the table, and overlapping formatting is taken
apart. So the tree is kept as a sheet of numbered nodes, each with the numbers
of what it holds and of what holds it. Node zero is the page. Of the tree only
the elements and the texts between them are kept.

Reading the finished tree goes down from the page; a path downwards is never
longer than the sheet.
-/

namespace Concordance.Markup

/-- The vocabularies that elements of a page come from. -/
inductive Vocabulary where
  | html
  | svg
  | math
deriving DecidableEq, Repr

inductive Content where
  | element (node : Nat)
  | text (chars : List Char)
deriving DecidableEq, Repr

structure Node where
  vocabulary : Vocabulary
  name : String
  attributes : Attributes
  contents : List Content
  parent? : Option Nat
deriving Repr

/-- The sheet of nodes. -/
structure Draft where
  nodes : Array Node

namespace Draft

def emptyNode : Node := ⟨.html, "", [], [], none⟩

/-- A page with nothing on it. -/
def blank : Draft := ⟨#[emptyNode]⟩

def node (draft : Draft) (id : Nat) : Node := draft.nodes.getD id emptyNode

def change (draft : Draft) (id : Nat) (f : Node → Node) : Draft :=
  ⟨draft.nodes.setIfInBounds id (f (draft.node id))⟩

/-- A new element that nothing holds yet. -/
def create (draft : Draft) (vocabulary : Vocabulary) (name : String) (attributes : Attributes) :
    Draft × Nat :=
  (⟨draft.nodes.push ⟨vocabulary, name, attributes, [], none⟩⟩, draft.nodes.size)

/-- Takes an element out of what holds it. -/
def detach (draft : Draft) (id : Nat) : Draft :=
  match (draft.node id).parent? with
  | none => draft
  | some parent =>
    (draft.change parent fun node => { node with contents := node.contents.erase (.element id) }).change
      id fun node => { node with parent? := none }

/-- Puts an element at the end of another. -/
def append (draft : Draft) (parent id : Nat) : Draft :=
  (draft.change parent fun node => { node with contents := node.contents ++ [.element id] }).change
    id fun node => { node with parent? := some parent }

/-- A list with something put before the first place of an element. -/
def putBefore (sibling : Nat) (added : Content) : List Content → List Content
  | [] => [added]
  | content :: rest =>
    if content = .element sibling then added :: content :: rest
    else content :: putBefore sibling added rest

/-- Puts an element before another, inside what holds that. -/
def insertBefore (draft : Draft) (parent sibling id : Nat) : Draft :=
  (draft.change parent fun node =>
    { node with contents := putBefore sibling (.element id) node.contents }).change
    id fun node => { node with parent? := some parent }

/-- Puts a text at the end of an element. -/
def appendText (draft : Draft) (parent : Nat) (chars : List Char) : Draft :=
  draft.change parent fun node => { node with contents := node.contents ++ [.text chars] }

/-- Puts a text before an element. -/
def insertTextBefore (draft : Draft) (parent sibling : Nat) (chars : List Char) : Draft :=
  draft.change parent fun node => { node with contents := putBefore sibling (.text chars) node.contents }

/-- Moves all that an element holds to the end of another. -/
def moveContents (draft : Draft) (source target : Nat) : Draft :=
  let contents := (draft.node source).contents
  let emptied := draft.change source fun node => { node with contents := [] }
  let moved := emptied.change target fun node => { node with contents := node.contents ++ contents }
  contents.foldl (fun draft content =>
    match content with
    | .element id => draft.change id fun node => { node with parent? := some target }
    | .text _ => draft) moved

/-- Gives an element the attributes that it lacks. -/
def addMissing (draft : Draft) (id : Nat) (attributes : Attributes) : Draft :=
  draft.change id fun node =>
    { node with attributes := node.attributes ++ attributes.filter fun added =>
        !(node.attributes.any fun other => other.1 = added.1) }

/-- A node and all below it in document order, down to a depth. -/
def below (draft : Draft) : (depth : Nat) → Nat → List Nat
  | 0, id => [id]
  | depth + 1, id =>
    id :: (draft.node id).contents.flatMap fun
      | .element inner => draft.below depth inner
      | .text _ => []

/-- All elements in document order. -/
def elements (draft : Draft) : List Node := (draft.below draft.nodes.size 0).tail.map draft.node

/-- The text below a node, down to a depth. -/
def textBelow (draft : Draft) : (depth : Nat) → List Content → List Char
  | 0, _ => []
  | depth + 1, contents =>
    contents.flatMap fun
      | .element inner => draft.textBelow depth (draft.node inner).contents
      | .text chars => chars

/-- The text of a node. -/
def textOf (draft : Draft) (node : Node) : List Char :=
  draft.textBelow (draft.nodes.size + 1) node.contents

end Draft

end Concordance.Markup
