import Concordance.Markup.Names

/-!
# Putting a page together

While tokens come in, the builder keeps the elements that are still open, the
innermost first, and the formatting that is in force. Formatting that was cut
off by the end of some element is opened again, as a copy, before the next
content; closing formatting that overlaps with blocks takes the tree apart and
puts copies where they are needed. Content that has no place in a table is put
before it.
-/

namespace Concordance.Markup

/-- Which part of a page is being read. -/
inductive Mode where
  | initial | beforeHtml | beforeHead | inHead | afterHead | inBody | rawText
  | inTable | inTableText | inCaption | inColumnGroup | inTableBody | inRow | inCell
  | inSelect | inSelectInTable | inTemplate | afterBody | inFrameset | afterFrameset
  | afterAfterBody | afterAfterFrameset
deriving DecidableEq, Repr

/-- Formatting in force, or a mark that hides what came before. -/
inductive Formatting where
  | marker
  | element (node : Nat) (tag : Tag)
deriving DecidableEq

structure Builder where
  draft : Draft
  /-- The open elements, the innermost first. -/
  stack : List Nat
  /-- The formatting in force, the newest first. -/
  formatting : List Formatting
  mode : Mode
  /-- The mode to go back to behind a text of its own kind. -/
  resume : Mode
  templateModes : List Mode
  head? : Option Nat
  form? : Option Nat
  framesetOk : Bool
  /-- Misplaced content goes before the table. -/
  fostering : Bool
  /-- The page is of an old kind, on which a table may stand inside a paragraph. -/
  old : Bool
  /-- A line feed that comes next does not count. -/
  skipNewline : Bool
  /-- Text inside a table that may have to go before it. -/
  tableText : List (List Char)
  /-- What is looked for next in the source text. -/
  model : ContentModel

namespace Builder

def start : Builder :=
  { draft := .blank, stack := [], formatting := [], mode := .initial, resume := .inBody
    templateModes := [], head? := none, form? := none, framesetOk := true, fostering := false
    old := false, skipNewline := false, tableText := [], model := .markup }

/-! ## Open elements -/

def node (b : Builder) (id : Nat) : Node := b.draft.node id

/-- The innermost open element. -/
def current (b : Builder) : Nat := b.stack.headD 0

def currentIs (b : Builder) (test : Node → Bool) : Bool := test (b.node b.current)

def pop (b : Builder) : Builder := { b with stack := b.stack.tail }

/-- Closes elements down to the first that fits, and that one too. -/
def popThrough (b : Builder) (test : Node → Bool) : Builder :=
  { b with stack := (b.stack.dropWhile fun id => !test (b.node id)).tail }

/-- Closes elements down to the first that fits. -/
def popTo (b : Builder) (test : Node → Bool) : Builder :=
  { b with stack := b.stack.dropWhile fun id => !test (b.node id) }

/-- Closes elements as long as they fit. -/
def popWhile (b : Builder) (test : Node → Bool) : Builder :=
  { b with stack := b.stack.dropWhile fun id => test (b.node id) }

/-- Whether an element is open, looking no further out than a scope reaches. -/
def inScope (b : Builder) (scope : Scope) (test : Nat → Bool) : Bool :=
  let rec look : List Nat → Bool
    | [] => false
    | id :: rest => test id || (!(b.node id).ends scope && look rest)
  look b.stack

def hasInScope (b : Builder) (scope : Scope) (names : List String) : Bool :=
  b.inScope scope fun id => (b.node id).isAny names

/-- Whether an element of a name is open anywhere. -/
def isOpen (b : Builder) (name : String) : Bool := b.stack.any fun id => (b.node id).isNamed name

/-- Closes elements that end by themselves. -/
def closeImplied (b : Builder) : Builder := b.popWhile (·.isAny endsByItself)

/-- Closes elements that end by themselves, except those of a name. -/
def closeImpliedBut (b : Builder) (name : String) : Builder :=
  b.popWhile fun node => node.isAny endsByItself && !node.isNamed name

def closeParagraph (b : Builder) : Builder := (b.closeImpliedBut "p").popThrough (·.isNamed "p")

def closeParagraphInScope (b : Builder) : Builder :=
  if b.hasInScope .button ["p"] then b.closeParagraph else b

/-! ## Where content goes -/

/-- A place for content: at the end of an element, or before another. -/
inductive Place where
  | inside (parent : Nat)
  | before (parent sibling : Nat)

def tableParts : List String := ["table", "tbody", "tfoot", "thead", "tr"]

/-- The place before the innermost open table, or in the template inside it. -/
def fosterPlace (b : Builder) : List Nat → Place
  | [] => .inside (b.stack.getLastD 0)
  | id :: rest =>
    if (b.node id).isNamed "template" then .inside id
    else if (b.node id).isNamed "table" then
      match (b.node id).parent? with
      | some parent => .before parent id
      | none => .inside (rest.headD 0)
    else b.fosterPlace rest

/-- The place for content meant for an element. -/
def place (b : Builder) (target : Nat) : Place :=
  if b.fostering && (b.node target).isAny tableParts then b.fosterPlace b.stack else .inside target

def put (b : Builder) (place : Place) (id : Nat) : Builder :=
  { b with draft := match place with
    | .inside parent => b.draft.append parent id
    | .before parent sibling => b.draft.insertBefore parent sibling id }

def appendText (b : Builder) (chars : List Char) : Builder :=
  { b with draft := match b.place b.current with
    | .inside parent => b.draft.appendText parent chars
    | .before parent sibling => b.draft.insertTextBefore parent sibling chars }

/-- Creates an element that nothing holds yet. -/
def create (b : Builder) (vocabulary : Vocabulary) (name : String) (attributes : Attributes) :
    Builder × Nat :=
  let (draft, id) := b.draft.create vocabulary name attributes
  ({ b with draft }, id)

/-- Puts in an element that stays closed. -/
def insertClosed (b : Builder) (vocabulary : Vocabulary) (tag : Tag) : Builder :=
  let (created, id) := b.create vocabulary tag.name tag.attributes
  created.put (b.place b.current) id

/-- Puts in an element and opens it. -/
def insertIn (b : Builder) (vocabulary : Vocabulary) (tag : Tag) : Builder :=
  let id := b.draft.nodes.size
  let inserted := b.insertClosed vocabulary tag
  { inserted with stack := id :: inserted.stack }

def insert (b : Builder) (tag : Tag) : Builder := b.insertIn .html tag

/-- Puts in and opens an element that no tag asked for. -/
def insertNamed (b : Builder) (name : String) : Builder := b.insert ⟨name, [], false⟩

/-- Puts in an element whose content is not read as markup. -/
def insertText (b : Builder) (tag : Tag) (model : ContentModel) : Builder :=
  { b.insert tag with model, resume := b.mode, mode := .rawText }

/-! ## Formatting -/

/-- The formatting in force back to the last mark, the newest first. -/
def liveFormatting (b : Builder) : List Formatting := b.formatting.takeWhile (· ≠ .marker)

def clearFormatting (b : Builder) : Builder :=
  { b with formatting := (b.formatting.dropWhile (· ≠ .marker)).drop 1 }

def isEntryOf (id : Nat) : Formatting → Bool
  | .marker => false
  | .element node _ => node = id

def forget (b : Builder) (id : Nat) : Builder :=
  { b with formatting := b.formatting.eraseP (isEntryOf id) }

def isFormatting (b : Builder) (id : Nat) : Bool := b.formatting.any (isEntryOf id)

/-- Opens formatting again that was cut off, the oldest first. -/
def reopen (b : Builder) : Builder :=
  let isLost (entry : Formatting) : Bool :=
    match entry with
    | .marker => false
    | .element node _ => !b.stack.contains node
  let lost := b.formatting.takeWhile isLost
  let kept := b.formatting.dropWhile isLost
  let (after, renewed) := lost.reverse.foldl (fun (b, renewed) entry =>
    match entry with
    | .marker => (b, renewed)
    | .element _ tag => (Builder.insert b tag, Formatting.element b.draft.nodes.size tag :: renewed)) (b, [])
  { after with formatting := renewed ++ kept }

/-- Whether two tags ask for the same formatting. -/
def sameFormatting (tag other : Tag) : Bool :=
  tag.name = other.name && tag.attributes.length = other.attributes.length &&
    tag.attributes.all other.attributes.contains

/-- Removes the oldest entry of a list that fits. -/
def eraseOldest (test : Formatting → Bool) (entries : List Formatting) : List Formatting :=
  (entries.reverse.eraseP test).reverse

/-- Opens formatting. Of the same formatting only three are kept in force. -/
def insertFormatting (b : Builder) (tag : Tag) : Builder :=
  let isSame (entry : Formatting) : Bool :=
    match entry with
    | .marker => false
    | .element _ other => sameFormatting tag other
  let live := b.liveFormatting
  let older := b.formatting.drop live.length
  let kept := if (live.filter isSame).length ≥ 3 then eraseOldest isSame live else live
  let id := b.draft.nodes.size
  { b.insert tag with formatting := .element id tag :: kept ++ older }

/-! ## Closing tags -/

/-- Closes the innermost element of a name, unless a special element stands in between. -/
def closeAny (b : Builder) (name : String) : Builder :=
  let rec reachable : List Nat → Bool
    | [] => false
    | id :: rest => (b.node id).isNamed name || (!(b.node id).isSpecial && reachable rest)
  if reachable b.stack then
    let target := b.stack.find? fun id => (b.node id).isNamed name
    let closed := b.closeImpliedBut name
    { closed with stack := (closed.stack.dropWhile fun id => some id ≠ target).tail }
  else b

/-- Replaces a node by another in a list of open elements. -/
def renew (old new : Nat) (stack : List Nat) : List Nat :=
  stack.map fun id => if id = old then new else id

/-- A walk outwards from the block that formatting overlaps with. -/
structure Walk where
  builder : Builder
  /-- What was moved last. -/
  last : Nat
  /-- The copy behind which the renewed formatting comes in force, if there was one. -/
  bookmark? : Option Nat
  /-- How many elements were passed. -/
  passed : Nat

/-- Passes one open element between the block and the formatting: formatting is copied around what
was moved last, up to the third element; anything else is closed. -/
def Walk.pass (block : Nat) (walk : Walk) (id : Nat) : Walk :=
  let b := walk.builder
  let passed := walk.passed + 1
  let close (b : Builder) : Builder := { b with stack := b.stack.filter (· ≠ id) }
  match b.formatting.find? (isEntryOf id) with
  | some (.element _ tag) =>
    if passed > 3 then { walk with builder := close (b.forget id), passed }
    else
      let (created, copy) := b.create .html tag.name tag.attributes
      let renewed := created.formatting.map fun entry =>
        if isEntryOf id entry then .element copy tag else entry
      let moved := (created.draft.detach walk.last).append copy walk.last
      { builder := { created with draft := moved, stack := renew id copy b.stack, formatting := renewed }
        last := copy, passed
        bookmark? := if walk.last = block then some copy else walk.bookmark? }
  | _ => { walk with builder := close b, passed }

/-- Puts an entry behind that of a node, which is to say before it in the list. -/
def putNewer (id : Nat) (added : Formatting) : List Formatting → List Formatting
  | [] => [added]
  | entry :: rest => if isEntryOf id entry then added :: entry :: rest else entry :: putNewer id added rest

/-- Puts an open element inside another: before it in the list. -/
def openInside (outer added : Nat) : List Nat → List Nat
  | [] => [added]
  | id :: rest => if id = outer then added :: id :: rest else id :: openInside outer added rest

/-- Takes formatting apart at the block it overlaps with: the block moves out of it, and its content
goes into a copy. -/
def takeApart (b : Builder) (format : Nat) (tag : Tag) (block ancestor : Nat) (between : List Nat) : Builder :=
  let walk := between.foldl (Walk.pass block) ⟨b, block, none, 0⟩
  let b := walk.builder
  let b := { b with draft := b.draft.detach walk.last }
  let b := b.put (b.place ancestor) walk.last
  let (b, copy) := b.create .html tag.name tag.attributes
  let b := { b with draft := (b.draft.moveContents block copy).append block copy }
  let entry := Formatting.element copy tag
  let formatting := match walk.bookmark? with
    | none => b.formatting.map fun old => if isEntryOf format old then entry else old
    | some mark => (putNewer mark entry b.formatting).eraseP (isEntryOf format)
  { b with formatting, stack := openInside block copy (b.stack.filter (· ≠ format)) }

/-- Closes formatting of a name, so many times at most, as long as it overlaps with blocks. -/
def closeOverlaps (name : String) : (rounds : Nat) → Builder → Builder
  | 0, b => b
  | rounds + 1, b =>
    let fits (entry : Formatting) : Bool :=
      match entry with
      | .marker => false
      | .element _ tag => tag.name = name
    match b.liveFormatting.find? fits with
    | some (.element format tag) =>
      if !b.stack.contains format then b.forget format
      else if !b.inScope .general (· = format) then b
      else
        let inner := b.stack.takeWhile (· ≠ format)
        let outer := (b.stack.dropWhile (· ≠ format)).tail
        match inner.reverse.find? fun id => (b.node id).isSpecial with
        | none => { b.forget format with stack := outer }
        | some block =>
          let between := (inner.dropWhile (· ≠ block)).tail
          closeOverlaps name rounds (b.takeApart format tag block (outer.headD 0) between)
    | _ => b.closeAny name

/-- Closes formatting of a name. -/
def closeFormatting (b : Builder) (name : String) : Builder :=
  if b.currentIs (·.isNamed name) && !b.isFormatting b.current then b.pop
  else closeOverlaps name 8 b

/-- Closes a link that is still open before another begins. -/
def closeLink (b : Builder) : Builder :=
  let isLink (entry : Formatting) : Bool :=
    match entry with
    | .marker => false
    | .element node _ => (b.node node).isNamed "a"
  match b.liveFormatting.find? isLink with
  | some (.element node _) =>
    let closed := (b.closeFormatting "a").forget node
    { closed with stack := closed.stack.filter (· ≠ node) }
  | _ => b

/-! ## Modes -/

/-- The mode that fits the open elements. -/
def modeOf (b : Builder) : List Nat → Mode
  | [] => .inBody
  | id :: outer =>
    let node := b.node id
    if node.vocabulary ≠ .html then b.modeOf outer
    else match node.name with
      | "select" =>
        let around := outer.find? fun id => (b.node id).isAny ["template", "table"]
        if around.any fun id => (b.node id).isNamed "table" then .inSelectInTable else .inSelect
      | "td" | "th" => if outer.isEmpty then b.modeOf outer else .inCell
      | "tr" => .inRow
      | "tbody" | "thead" | "tfoot" => .inTableBody
      | "caption" => .inCaption
      | "colgroup" => .inColumnGroup
      | "table" => .inTable
      | "template" => b.templateModes.headD .inBody
      | "head" => if outer.isEmpty then b.modeOf outer else .inHead
      | "body" => .inBody
      | "frameset" => .inFrameset
      | "html" => if b.head?.isNone then .beforeHead else .afterHead
      | _ => b.modeOf outer

def resetMode (b : Builder) : Builder := { b with mode := b.modeOf b.stack }

def closeCell (b : Builder) : Builder :=
  (b.closeImplied.popThrough (·.isAny ["td", "th"])).clearFormatting

/-- The body of the page, if it is open. -/
def body? (b : Builder) : Option Nat :=
  match b.stack.reverse with
  | _ :: second :: _ => if (b.node second).isNamed "body" then some second else none
  | _ => none

end Builder

end Concordance.Markup
