import Concordance.Markup.Builder

/-!
# Reading a page

Each token is taken in by the rules of the part of the page that is being
read. The rules may close what is open, open what is missing, or find that
another part has begun and hand the token on to its rules; that goes on at
most a few times for each open element. In drawings and formulas other rules
hold until content of the page itself comes up.

The page ends where its source text ends, with all that is still open.
-/

namespace Concordance.Markup

/-- What a rule makes of a token: it is dealt with, or the rules of the mode that now holds are to
take it. -/
inductive Outcome where
  | done (builder : Builder)
  | again (builder : Builder)

namespace Builder

/-- Whether a run of text is blank throughout. -/
def isBlankRun (chars : List Char) : Bool := chars.all fun c => isSpace c || c = '\r'

def setMode (b : Builder) (mode : Mode) : Builder := { b with mode }

def ending (b : Builder) : Builder := { b with framesetOk := false }

def mark (b : Builder) : Builder := { b with formatting := .marker :: b.formatting }

def handOn (b : Builder) (mode : Mode) : Outcome := .again (b.setMode mode)

/-! ## The head of a page -/

/-- Puts in an element that belongs to the head. -/
def openInHead (b : Builder) (tag : Tag) : Builder :=
  match tag.name with
  | "title" => b.insertText tag (.references tag.name)
  | "noframes" | "style" | "noscript" => b.insertText tag (.raw tag.name)
  | "script" => b.insertText tag .script
  | "template" =>
    { (b.insert tag).mark with
      framesetOk := false, mode := .inTemplate, templateModes := .inTemplate :: b.templateModes }
  | _ => b.insertClosed .html tag

def closeTemplate (b : Builder) : Builder :=
  if b.isOpen "template" then
    let closed := ((b.popWhile (·.isAny endsWithTemplate)).popThrough (·.isNamed "template")).clearFormatting
    { closed with templateModes := closed.templateModes.tail }.resetMode
  else b

/-- Another opening tag of the whole page only adds attributes. -/
def repeatRoot (b : Builder) (tag : Tag) : Builder :=
  if b.isOpen "template" then b
  else { b with draft := b.draft.addMissing (b.stack.getLastD 0) tag.attributes }

def beforeHtml (b : Builder) (token : Token) : Outcome :=
  let root (attributes : Attributes) : Builder := (b.insert ⟨"html", attributes, false⟩).setMode .beforeHead
  match token with
  | .text chars => if isBlankRun chars then .done b else .again (root [])
  | .opening tag => if tag.name = "html" then .done (root tag.attributes) else .again (root [])
  | .closing name => if name ∈ ["head", "body", "html", "br"] then .again (root []) else .done b
  | _ => .again (root [])

def beforeHead (b : Builder) (token : Token) : Outcome :=
  let head (tag : Tag) : Builder := { b.insert tag with head? := some b.draft.nodes.size, mode := .inHead }
  let missing := Outcome.again (head ⟨"head", [], false⟩)
  match token with
  | .text chars => if isBlankRun chars then .done b else missing
  | .opening tag =>
    if tag.name = "html" then .done (b.repeatRoot tag)
    else if tag.name = "head" then .done (head tag)
    else missing
  | .closing name => if name ∈ ["head", "body", "html", "br"] then missing else .done b
  | _ => missing

def inHead (b : Builder) (token : Token) : Outcome :=
  let leave := b.pop.handOn .afterHead
  match token with
  | .text chars => if isBlankRun chars then .done (b.appendText chars) else leave
  | .opening tag =>
    if tag.name = "html" then .done (b.repeatRoot tag)
    else if tag.name ∈ headNames ∨ tag.name = "noscript" then .done (b.openInHead tag)
    else if tag.name = "head" then .done b
    else leave
  | .closing name =>
    if name = "head" then .done (b.pop.setMode .afterHead)
    else if name ∈ ["body", "html", "br"] then leave
    else if name = "template" then .done b.closeTemplate
    else .done b
  | _ => leave

def afterHead (b : Builder) (token : Token) : Outcome :=
  let missing := (b.insertNamed "body").handOn .inBody
  match token with
  | .text chars => if isBlankRun chars then .done (b.appendText chars) else missing
  | .opening tag =>
    if tag.name = "html" then .done (b.repeatRoot tag)
    else if tag.name = "body" then .done ((b.insert tag).ending.setMode .inBody)
    else if tag.name = "frameset" then .done ((b.insert tag).setMode .inFrameset)
    else if tag.name ∈ headNames then
      match b.head? with
      | none => .done b
      | some head =>
        let inside := { b with stack := head :: b.stack }.openInHead tag
        .done { inside with stack := inside.stack.filter (· ≠ head) }
    else if tag.name = "head" then .done b
    else missing
  | .closing name =>
    if name = "template" then .done b.closeTemplate
    else if name ∈ ["body", "html", "br"] then missing
    else .done b
  | _ => missing

/-! ## The body of a page -/

/-- Closes an element of a list or of definitions before the next one begins. -/
def closeItem (b : Builder) (names : List String) : Builder :=
  let rec look : List Nat → Option String
    | [] => none
    | id :: rest =>
      let node := b.node id
      if node.isAny names then some node.name
      else if node.isSpecial && !node.isAny ["address", "div", "p"] then none
      else look rest
  match look b.stack with
  | some name => (b.closeImpliedBut name).popThrough (·.isNamed name)
  | none => b

def isHidden (tag : Tag) : Bool :=
  (tag.attributes.lookup "type").any fun value => lowerName value = "hidden"

def closeIf (b : Builder) (name : String) : Builder := if b.currentIs (·.isNamed name) then b.pop else b

/-- Puts in a drawing or a formula. -/
def openForeign (b : Builder) (vocabulary : Vocabulary) (tag : Tag) : Builder :=
  if tag.selfClosing then b.insertClosed vocabulary tag else b.insertIn vocabulary tag

def openForm (b : Builder) (tag : Tag) : Builder :=
  let inTemplate := b.isOpen "template"
  if b.form?.isSome && !inTemplate then b
  else
    let ready := b.closeParagraphInScope
    let inserted := ready.insert tag
    if inTemplate then inserted else { inserted with form? := some ready.draft.nodes.size }

def openFrameset (b : Builder) (tag : Tag) : Builder :=
  match b.framesetOk, b.body? with
  | true, some body =>
    let emptied := { b with draft := b.draft.detach body, stack := b.stack.drop (b.stack.length - 1) }
    (emptied.insert tag).setMode .inFrameset
  | _, _ => b

def repeatBody (b : Builder) (tag : Tag) : Builder :=
  match b.body? with
  | some body =>
    if b.isOpen "template" then b
    else { b.ending with draft := b.draft.addMissing body tag.attributes }
  | none => b

def openInBody (b : Builder) (tag : Tag) : Builder :=
  let name := tag.name
  if name = "html" then b.repeatRoot tag
  else if name ∈ headNames then b.openInHead tag
  else if name = "body" then b.repeatBody tag
  else if name = "frameset" then b.openFrameset tag
  else if name ∈ blockNames then b.closeParagraphInScope.insert tag
  else if name ∈ headingNames then
    let ready := b.closeParagraphInScope
    (if ready.currentIs (·.isAny headingNames) then ready.pop else ready).insert tag
  else if name = "pre" ∨ name = "listing" then
    { b.closeParagraphInScope.insert tag with skipNewline := true, framesetOk := false }
  else if name = "form" then b.openForm tag
  else if name = "li" then ((b.ending.closeItem ["li"]).closeParagraphInScope).insert tag
  else if name = "dd" ∨ name = "dt" then ((b.ending.closeItem ["dd", "dt"]).closeParagraphInScope).insert tag
  else if name = "plaintext" then { b.closeParagraphInScope.insert tag with model := .endless }
  else if name = "button" then
    let ready :=
      if b.hasInScope .general ["button"] then b.closeImplied.popThrough (·.isNamed "button") else b
    (ready.reopen.insert tag).ending
  else if name = "a" then b.closeLink.reopen.insertFormatting tag
  else if name ∈ formattingNames then b.reopen.insertFormatting tag
  else if name = "nobr" then
    let ready := b.reopen
    let ready :=
      if ready.hasInScope .general ["nobr"] then (ready.closeFormatting "nobr").reopen else ready
    ready.insertFormatting tag
  else if name ∈ ["applet", "marquee", "object"] then (b.reopen.insert tag).mark.ending
  else if name = "table" then
    let ready := if b.old then b else b.closeParagraphInScope
    (ready.insert tag).ending.setMode .inTable
  else if name ∈ ["area", "br", "embed", "img", "keygen", "wbr", "input"] then
    let inserted := b.reopen.insertClosed .html tag
    if name = "input" && isHidden tag then inserted else inserted.ending
  else if name ∈ ["param", "source", "track"] then b.insertClosed .html tag
  else if name = "hr" then (b.closeParagraphInScope.insertClosed .html tag).ending
  else if name = "image" then (b.reopen.insertClosed .html { tag with name := "img" }).ending
  else if name = "textarea" then { b.insertText tag (.references name) with skipNewline := true, framesetOk := false }
  else if name = "xmp" then (b.closeParagraphInScope.reopen.insertText tag (.raw name)).ending
  else if name = "iframe" then (b.insertText tag (.raw name)).ending
  else if name = "noembed" ∨ name = "noscript" then b.insertText tag (.raw name)
  else if name = "select" then
    let mode :=
      if b.mode ∈ [.inTable, .inCaption, .inTableBody, .inRow, .inCell] then Mode.inSelectInTable
      else .inSelect
    (b.reopen.insert tag).ending.setMode mode
  else if name = "optgroup" ∨ name = "option" then (b.closeIf "option").reopen.insert tag
  else if name = "rb" ∨ name = "rtc" then
    (if b.hasInScope .general ["ruby"] then b.closeImplied else b).insert tag
  else if name = "rp" ∨ name = "rt" then
    (if b.hasInScope .general ["ruby"] then b.closeImpliedBut "rtc" else b).insert tag
  else if name = "math" then b.reopen.openForeign .math tag
  else if name = "svg" then b.reopen.openForeign .svg tag
  else if name ∈ misplacedNames then b
  else b.reopen.insert tag

def closeForm (b : Builder) : Builder :=
  if b.isOpen "template" then
    if b.hasInScope .general ["form"] then b.closeImplied.popThrough (·.isNamed "form") else b
  else
    match b.form? with
    | none => b
    | some form =>
      let b := { b with form? := none }
      if b.inScope .general (· = form) then
        let closed := b.closeImplied
        { closed with stack := closed.stack.filter (· ≠ form) }
      else b

def closeInBody (b : Builder) (name : String) : Outcome :=
  let closeWithin (scope : Scope) (implied : Builder) : Builder :=
    if b.hasInScope scope [name] then implied.popThrough (·.isNamed name) else b
  if name = "template" then .done b.closeTemplate
  else if name = "body" then
    .done (if b.hasInScope .general ["body"] then b.setMode .afterBody else b)
  else if name = "html" then
    if b.hasInScope .general ["body"] then b.handOn .afterBody else .done b
  else if name ∈ closableNames then .done (closeWithin .general b.closeImplied)
  else if name = "form" then .done b.closeForm
  else if name = "p" then
    .done (if b.hasInScope .button ["p"] then b else b.insertNamed "p").closeParagraph
  else if name = "li" then .done (closeWithin .listItem (b.closeImpliedBut name))
  else if name = "dd" ∨ name = "dt" then .done (closeWithin .general (b.closeImpliedBut name))
  else if name ∈ headingNames then
    .done (if b.hasInScope .general headingNames then b.closeImplied.popThrough (·.isAny headingNames) else b)
  else if name ∈ "a" :: "nobr" :: formattingNames then .done (b.closeFormatting name)
  else if name ∈ ["applet", "marquee", "object"] then
    .done (if b.hasInScope .general [name] then (closeWithin .general b.closeImplied).clearFormatting else b)
  else if name = "br" then .done (b.openInBody ⟨"br", [], false⟩)
  else .done (b.closeAny name)

def inBody (b : Builder) (token : Token) : Outcome :=
  match token with
  | .text chars =>
    let ready := b.reopen
    .done ((if isBlankRun chars then ready else ready.ending).appendText chars)
  | .opening tag => .done (b.openInBody tag)
  | .closing name => b.closeInBody name
  | .null | .documentType _ => .done b

/-! ## Tables -/

/-- Takes in what has no place in a table. -/
def foster (b : Builder) (token : Token) : Outcome :=
  match inBody { b with fostering := true } token with
  | .done after => .done { after with fostering := false }
  | .again after => .again { after with fostering := false }

def ignoring (b : Builder) (names : List String) (name : String) (outcome : Outcome) : Outcome :=
  if name ∈ names then .done b else outcome

def inTable (b : Builder) (token : Token) : Outcome :=
  let cleared := b.popTo (·.isAny ["table", "template", "html"])
  match token with
  | .text _ | .null =>
    if b.currentIs (·.isAny tableParts) then { b with resume := b.mode }.handOn .inTableText
    else b.foster token
  | .opening tag =>
    let name := tag.name
    if name = "caption" then .done ((cleared.mark.insert tag).setMode .inCaption)
    else if name = "colgroup" then .done ((cleared.insert tag).setMode .inColumnGroup)
    else if name = "col" then (cleared.insertNamed "colgroup").handOn .inColumnGroup
    else if name ∈ ["tbody", "tfoot", "thead"] then .done ((cleared.insert tag).setMode .inTableBody)
    else if name ∈ ["td", "th", "tr"] then (cleared.insertNamed "tbody").handOn .inTableBody
    else if name = "table" then
      if b.hasInScope .table ["table"] then .again (b.popThrough (·.isNamed "table")).resetMode else .done b
    else if name ∈ ["style", "script", "template"] then .done (b.openInHead tag)
    else if name = "input" ∧ isHidden tag then .done (b.insertClosed .html tag)
    else if name = "form" then
      if b.isOpen "template" || b.form?.isSome then .done b
      else .done { b.insertClosed .html tag with form? := some b.draft.nodes.size }
    else b.foster token
  | .closing name =>
    if name = "table" then
      .done (if b.hasInScope .table ["table"] then (b.popThrough (·.isNamed "table")).resetMode else b)
    else if name = "template" then .done b.closeTemplate
    else b.ignoring ["body", "caption", "col", "colgroup", "html", "tbody", "td", "tfoot", "th", "thead", "tr"]
      name (b.foster token)
  | .documentType _ => .done b

/-- Settles where the text of a table goes: before it, unless it is blank. -/
def settleTableText (b : Builder) : Builder :=
  let runs := b.tableText
  let settled := { b with tableText := [], mode := b.resume }
  if runs.all isBlankRun then runs.foldl appendText settled
  else runs.foldl (fun b chars =>
    match b.foster (.text chars) with
    | .done after => after
    | .again after => after) settled

def inTableText (b : Builder) (token : Token) : Outcome :=
  match token with
  | .text chars => .done { b with tableText := b.tableText ++ [chars] }
  | .null => .done b
  | _ => .again b.settleTableText

def inCaption (b : Builder) (token : Token) : Outcome :=
  let closed := (b.closeImplied.popThrough (·.isNamed "caption")).clearFormatting.setMode .inTable
  let leave (outcome : Outcome) : Outcome := if b.hasInScope .table ["caption"] then outcome else .done b
  match token with
  | .opening tag =>
    if tag.name ∈ ["caption", "col", "colgroup", "tbody", "td", "tfoot", "th", "thead", "tr"] then
      leave (.again closed)
    else b.inBody token
  | .closing name =>
    if name = "caption" then leave (.done closed)
    else if name = "table" then leave (.again closed)
    else b.ignoring ["body", "col", "colgroup", "html", "tbody", "td", "tfoot", "th", "thead", "tr"] name
      (b.inBody token)
  | _ => b.inBody token

def inColumnGroup (b : Builder) (token : Token) : Outcome :=
  let isGroup := b.currentIs (·.isNamed "colgroup")
  let leave := if isGroup then b.pop.handOn .inTable else .done b
  match token with
  | .text chars => if isBlankRun chars then .done (b.appendText chars) else leave
  | .opening tag =>
    if tag.name = "html" then .done (b.repeatRoot tag)
    else if tag.name = "col" then .done (b.insertClosed .html tag)
    else if tag.name = "template" then .done (b.openInHead tag)
    else leave
  | .closing name =>
    if name = "colgroup" then .done (if isGroup then b.pop.setMode .inTable else b)
    else if name = "col" then .done b
    else if name = "template" then .done b.closeTemplate
    else leave
  | _ => leave

def inTableBody (b : Builder) (token : Token) : Outcome :=
  let cleared := b.popTo (·.isAny ["tbody", "tfoot", "thead", "template", "html"])
  let leave : Outcome :=
    if b.hasInScope .table ["table", "tbody", "tfoot"] then cleared.pop.handOn .inTable else .done b
  match token with
  | .opening tag =>
    if tag.name = "tr" then .done ((cleared.insert tag).setMode .inRow)
    else if tag.name = "th" ∨ tag.name = "td" then (cleared.insertNamed "tr").handOn .inRow
    else if tag.name ∈ ["caption", "col", "colgroup", "tbody", "tfoot", "thead"] then leave
    else b.inTable token
  | .closing name =>
    if name ∈ ["tbody", "tfoot", "thead"] then
      .done (if b.hasInScope .table [name] then cleared.pop.setMode .inTable else b)
    else if name = "table" then leave
    else b.ignoring ["body", "caption", "col", "colgroup", "html", "td", "th", "tr"] name (b.inTable token)
  | _ => b.inTable token

def inRow (b : Builder) (token : Token) : Outcome :=
  let cleared := b.popTo (·.isAny ["tr", "template", "html"])
  let leave : Outcome :=
    if b.hasInScope .table ["tr"] then cleared.pop.handOn .inTableBody else .done b
  match token with
  | .opening tag =>
    if tag.name = "th" ∨ tag.name = "td" then .done ((cleared.insert tag).setMode .inCell).mark
    else if tag.name ∈ ["caption", "col", "colgroup", "tbody", "tfoot", "thead", "tr"] then leave
    else b.inTable token
  | .closing name =>
    if name = "tr" then
      .done (if b.hasInScope .table ["tr"] then cleared.pop.setMode .inTableBody else b)
    else if name = "table" then leave
    else if name ∈ ["tbody", "tfoot", "thead"] then
      if b.hasInScope .table [name] then leave else .done b
    else b.ignoring ["body", "caption", "col", "colgroup", "html", "td", "th"] name (b.inTable token)
  | _ => b.inTable token

def inCell (b : Builder) (token : Token) : Outcome :=
  let leave := b.closeCell.handOn .inRow
  match token with
  | .opening tag =>
    if tag.name ∈ ["caption", "col", "colgroup", "tbody", "td", "tfoot", "th", "thead", "tr"] then
      if b.hasInScope .table ["td", "th"] then leave else .done b
    else b.inBody token
  | .closing name =>
    if name = "td" ∨ name = "th" then
      .done (if b.hasInScope .table [name] then
        (b.closeImplied.popThrough (·.isNamed name)).clearFormatting.setMode .inRow else b)
    else if name ∈ ["table", "tbody", "tfoot", "thead", "tr"] then
      if b.hasInScope .table [name] then leave else .done b
    else b.ignoring ["body", "caption", "col", "colgroup", "html"] name (b.inBody token)
  | _ => b.inBody token

/-! ## Selections, templates and frames -/

def inSelect (b : Builder) (token : Token) : Outcome :=
  let closed := (b.popThrough (·.isNamed "select")).resetMode
  let isOpen := b.hasInScope .selection ["select"]
  match token with
  | .text chars => .done (b.appendText chars)
  | .opening tag =>
    if tag.name = "html" then .done (b.repeatRoot tag)
    else if tag.name = "option" then .done ((b.closeIf "option").insert tag)
    else if tag.name = "optgroup" then .done (((b.closeIf "option").closeIf "optgroup").insert tag)
    else if tag.name = "select" then .done (if isOpen then closed else b)
    else if tag.name ∈ ["input", "keygen", "textarea"] then if isOpen then .again closed else .done b
    else if tag.name ∈ ["script", "template"] then .done (b.openInHead tag)
    else .done b
  | .closing name =>
    if name = "optgroup" then
      let inGroup := b.currentIs (·.isNamed "option") && b.pop.currentIs (·.isNamed "optgroup")
      .done ((if inGroup then b.pop else b).closeIf "optgroup")
    else if name = "option" then .done (b.closeIf "option")
    else if name = "select" then .done (if isOpen then closed else b)
    else if name = "template" then .done b.closeTemplate
    else .done b
  | _ => .done b

def inSelectInTable (b : Builder) (token : Token) : Outcome :=
  let parts := ["caption", "table", "tbody", "tfoot", "thead", "tr", "td", "th"]
  let leave := Outcome.again (b.popThrough (·.isNamed "select")).resetMode
  match token with
  | .opening tag => if tag.name ∈ parts then leave else b.inSelect token
  | .closing name =>
    if name ∈ parts then if b.hasInScope .table [name] then leave else .done b
    else b.inSelect token
  | _ => b.inSelect token

def inTemplate (b : Builder) (token : Token) : Outcome :=
  let turn (mode : Mode) : Outcome :=
    { b with templateModes := mode :: b.templateModes.tail }.handOn mode
  match token with
  | .text _ => b.inBody token
  | .opening tag =>
    if tag.name ∈ headNames then .done (b.openInHead tag)
    else if tag.name ∈ ["caption", "colgroup", "tbody", "tfoot", "thead"] then turn .inTable
    else if tag.name = "col" then turn .inColumnGroup
    else if tag.name = "tr" then turn .inTableBody
    else if tag.name = "td" ∨ tag.name = "th" then turn .inRow
    else turn .inBody
  | .closing name => .done (if name = "template" then b.closeTemplate else b)
  | _ => .done b

def inFrameset (b : Builder) (token : Token) : Outcome :=
  match token with
  | .text chars => .done (if isBlankRun chars then b.appendText chars else b)
  | .opening tag =>
    if tag.name = "html" then .done (b.repeatRoot tag)
    else if tag.name = "frameset" then .done (b.insert tag)
    else if tag.name = "frame" then .done (b.insertClosed .html tag)
    else if tag.name = "noframes" then .done (b.openInHead tag)
    else .done b
  | .closing name =>
    if name = "frameset" ∧ b.stack.length > 1 then
      let closed := b.pop
      .done (if closed.currentIs (·.isNamed "frameset") then closed else closed.setMode .afterFrameset)
    else .done b
  | _ => .done b

/-- Behind the frames of a page nothing counts but more of what frames are replaced by. -/
def afterFrames (b : Builder) (token : Token) : Outcome :=
  match token with
  | .opening tag =>
    if tag.name = "html" then .done (b.repeatRoot tag)
    else if tag.name = "noframes" then .done (b.openInHead tag)
    else .done b
  | _ => .done b

/-- Behind the end of the body, more content opens it again. -/
def afterBody (b : Builder) (token : Token) : Outcome :=
  match token with
  | .text chars => if isBlankRun chars then b.inBody token else b.handOn .inBody
  | .opening tag => if tag.name = "html" then .done (b.repeatRoot tag) else b.handOn .inBody
  | .closing name =>
    if name = "html" ∧ b.mode = .afterBody then .done (b.setMode .afterAfterBody) else b.handOn .inBody
  | _ => b.handOn .inBody

/-- Inside an element whose content is not markup. -/
def inRawText (b : Builder) (token : Token) : Outcome :=
  match token with
  | .text chars => .done (b.appendText chars)
  | .closing _ => .done { b.pop with mode := b.resume, model := .markup }
  | _ => .done b

/-! ## Drawings and formulas -/

/-- Whether the rules for drawings and formulas take a token. -/
def isForeign (b : Builder) (token : Token) : Bool :=
  let node := b.node b.current
  if b.stack.isEmpty || node.vocabulary = .html then false
  else match token with
    | .text _ | .null => !(node.holdsFormulaText || node.holdsPageContent)
    | .opening tag =>
      !((node.holdsFormulaText && tag.name ≠ "mglyph" && tag.name ≠ "malignmark") ||
        node.holdsPageContent ||
        (node.vocabulary = .math && node.name = "annotation-xml" && tag.name = "svg"))
    | _ => true

/-- Closes drawings and formulas down to content of the page itself. -/
def breakOut (b : Builder) : Builder :=
  b.popWhile fun node => !(node.vocabulary = .html || node.holdsFormulaText || node.holdsPageContent)

/-- Closes an element of a drawing or formula, whatever is open inside it. Nothing if content of the
page stands in between, and then the rules for that content hold. -/
def closeForeign? (b : Builder) (name : String) : Option Builder :=
  let rec look (isFirst : Bool) : List Nat → Option (List Nat)
    | [] => some b.stack
    | id :: outer =>
      if outer.isEmpty then some b.stack
      else if !isFirst && (b.node id).vocabulary = .html then none
      else if lowerName (b.node id).name = name then some outer
      else look false outer
  (look true b.stack).map fun stack => { b with stack }

/-! ## All rules -/

/-- Takes in a token by the rules of a mode. -/
def byMode (b : Builder) (token : Token) : Outcome :=
  match b.mode with
  | .initial =>
    match token with
    | .text chars =>
      if isBlankRun chars then .done b else { b with old := true }.handOn .beforeHtml
    | _ => { b with old := true }.handOn .beforeHtml
  | .beforeHtml => b.beforeHtml token
  | .beforeHead => b.beforeHead token
  | .inHead => b.inHead token
  | .afterHead => b.afterHead token
  | .inBody => b.inBody token
  | .rawText => b.inRawText token
  | .inTable => b.inTable token
  | .inTableText => b.inTableText token
  | .inCaption => b.inCaption token
  | .inColumnGroup => b.inColumnGroup token
  | .inTableBody => b.inTableBody token
  | .inRow => b.inRow token
  | .inCell => b.inCell token
  | .inSelect => b.inSelect token
  | .inSelectInTable => b.inSelectInTable token
  | .inTemplate => b.inTemplate token
  | .inFrameset => b.inFrameset token
  | .afterFrameset =>
    match token with
    | .closing name => .done (if name = "html" then b.setMode .afterAfterFrameset else b)
    | _ => b.afterFrames token
  | .afterAfterFrameset => b.afterFrames token
  | .afterBody | .afterAfterBody => b.afterBody token

/-- Takes in a token by the rules for drawings and formulas. -/
def inForeign (b : Builder) (token : Token) : Outcome :=
  match token with
  | .null => .done (b.appendText ['\uFFFD'])
  | .text chars => .done ((if isBlankRun chars then b else b.ending).appendText chars)
  | .opening tag =>
    let isPlainFont := tag.name = "font" &&
      tag.attributes.any fun given => given.1 ∈ ["color", "face", "size"]
    if tag.name ∈ breakoutNames || isPlainFont then b.breakOut.byMode token
    else
      let vocabulary := (b.node b.current).vocabulary
      let named := if vocabulary = .svg then { tag with name := drawingName tag.name } else tag
      .done (b.openForeign vocabulary named)
  | .closing name =>
    if name = "br" ∨ name = "p" then b.breakOut.byMode token
    else match b.closeForeign? name with
      | some closed => .done closed
      | none => b.byMode token
  | .documentType _ => .done b

/-- Takes in a token, handing it on so many times at most. -/
def takeFor : (rounds : Nat) → Builder → Token → Builder
  | 0, b, _ => b
  | rounds + 1, b, token =>
    match if b.isForeign token then b.inForeign token else b.byMode token with
    | .done after => after
    | .again after => takeFor rounds after token

def takeIn (b : Builder) (token : Token) : Builder := takeFor (4 * b.stack.length + 32) b token

/-! ## Document types -/

/-- The beginnings of public identifiers that stand for old pages. -/
def oldIdentifiers : List String := [
  "-//advasoft ltd//dtd html 3.0 aswedit + extensions//", "-//as//dtd html 3.0 aswedit + extensions//",
  "-//ietf//dtd html 2.0 level 1//", "-//ietf//dtd html 2.0 level 2//",
  "-//ietf//dtd html 2.0 strict level 1//", "-//ietf//dtd html 2.0 strict level 2//",
  "-//ietf//dtd html 2.0 strict//", "-//ietf//dtd html 2.0//", "-//ietf//dtd html 2.1e//",
  "-//ietf//dtd html 3.0//", "-//ietf//dtd html 3.2 final//", "-//ietf//dtd html 3.2//",
  "-//ietf//dtd html 3//", "-//ietf//dtd html level 0//", "-//ietf//dtd html level 1//",
  "-//ietf//dtd html level 2//", "-//ietf//dtd html level 3//", "-//ietf//dtd html strict level 0//",
  "-//ietf//dtd html strict level 1//", "-//ietf//dtd html strict level 2//",
  "-//ietf//dtd html strict level 3//", "-//ietf//dtd html strict//", "-//ietf//dtd html//",
  "-//metrius//dtd metrius presentational//", "-//microsoft//dtd internet explorer 2.0 html strict//",
  "-//microsoft//dtd internet explorer 2.0 html//", "-//microsoft//dtd internet explorer 2.0 tables//",
  "-//microsoft//dtd internet explorer 3.0 html strict//",
  "-//microsoft//dtd internet explorer 3.0 html//", "-//microsoft//dtd internet explorer 3.0 tables//",
  "-//netscape comm. corp.//dtd html//", "-//netscape comm. corp.//dtd strict html//",
  "-//o'reilly and associates//dtd html 2.0//", "-//o'reilly and associates//dtd html extended 1.0//",
  "-//o'reilly and associates//dtd html extended relaxed 1.0//",
  "-//softquad software//dtd hotmetal pro 6.0::19990601::extensions to html 4.0//",
  "-//softquad//dtd hotmetal pro 4.0::19971010::extensions to html 4.0//", "-//spyglass//dtd html 2.0 extended//",
  "-//sq//dtd html 2.0 hotmetal + extensions//", "-//sun microsystems corp.//dtd hotjava html//",
  "-//sun microsystems corp.//dtd hotjava strict html//", "-//w3c//dtd html 3 1995-03-24//",
  "-//w3c//dtd html 3.2 draft//", "-//w3c//dtd html 3.2 final//", "-//w3c//dtd html 3.2//",
  "-//w3c//dtd html 3.2s draft//", "-//w3c//dtd html 4.0 frameset//",
  "-//w3c//dtd html 4.0 transitional//", "-//w3c//dtd html experimental 19960712//",
  "-//w3c//dtd html experimental 970421//", "-//w3c//dtd w3 html//", "-//w3o//dtd w3 html 3.0//",
  "-//webtechs//dtd mozilla html 2.0//", "-//webtechs//dtd mozilla html//"]

/-- Whether a document type asks for the layout of old pages. -/
def DocumentType.isOld (type : DocumentType) : Bool :=
  let lower (text : List Char) : List Char := text.map Char.toLower
  let begins (pattern : String) (text : List Char) : Bool := pattern.toList.isPrefixOf text
  let publicId := lower (type.publicId?.getD [])
  type.broken || type.name ≠ "html".toList ||
    publicId ∈ ["-//w3o//dtd w3 html strict 3.0//en//", "-/w3c/dtd html 4.0 transitional/en", "html"].map
      String.toList ||
    (type.systemId?.any fun id => "/data/dtd/v11/ibmxhtml1-transitional.dtd".toList.isSuffixOf (lower id)) ||
    (type.publicId?.isSome && oldIdentifiers.any (begins · publicId)) ||
    (type.systemId?.isNone && (begins "-//w3c//dtd html 4.01 frameset//" publicId ||
      begins "-//w3c//dtd html 4.01 transitional//" publicId))

/-- Takes in a document type, which counts only at the very beginning. -/
def takeType (b : Builder) (type : DocumentType) : Builder :=
  if b.mode = .initial then { b with old := DocumentType.isOld type, mode := .beforeHtml } else b

/-! ## The whole page -/

/-- Cuts a text into runs that are blank throughout or not at all. -/
def runsOf (chars : List Char) : List (List Char) :=
  chars.foldr (fun c runs =>
    match runs with
    | (d :: run) :: rest =>
      if isBlankRun [c] = isBlankRun [d] then (c :: d :: run) :: rest else [c] :: runs
    | _ => [[c]]) []

/-- Takes in the next token of the source text. -/
def takeNext (b : Builder) (token : Token) : Builder :=
  let ready := { b with skipNewline := false }
  match token with
  | .documentType type => ready.takeType type
  | .text chars =>
    let kept := match b.skipNewline, chars with
      | true, '\n' :: rest => rest
      | _, _ => chars
    (runsOf kept).foldl (fun b run => b.takeIn (.text run)) ready
  | _ => ready.takeIn token

/-- Reads a source text to its end. Each round takes at least one character. -/
def readFor : (rounds : Nat) → Builder → List Char → Builder
  | 0, b, _ => b
  | rounds + 1, b, text =>
    if text.isEmpty then b
    else
      let isForeign := !b.stack.isEmpty && (b.node b.current).vocabulary ≠ .html
      match nextToken b.model isForeign text with
      | (none, rest) => readFor rounds b rest
      | (some token, rest) => readFor rounds (b.takeNext token) rest

end Builder

/-- The tree of a page. -/
def readPage (source : List Char) : Draft :=
  let begun := if source.head? = some '\uFEFF' then source.tail else source
  let text := unixLines begun
  let b := Builder.start.readFor (text.length + 1) text
  (if b.mode = .inTableText then b.settleTableText else b).draft

end Concordance.Markup
