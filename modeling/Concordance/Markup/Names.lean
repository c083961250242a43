import Concordance.Markup.Draft

/-!
# Kinds of elements

Which elements are alike, as far as putting a page together goes: where a
search among the open elements stops, which elements end without a closing
tag, which cannot be reopened around others.

A list of names always means elements of the page's own vocabulary. In the
other two vocabularies a few elements hold page content again.
-/

namespace Concordance.Markup

/-- Whether a node is an element of the page's own vocabulary with one of the names. -/
def Node.isAny (names : List String) (node : Node) : Bool := node.vocabulary = .html && node.name ∈ names

def Node.isNamed (name : String) (node : Node) : Bool := node.vocabulary = .html && node.name = name

/-- An element for formulas that holds page text. -/
def Node.holdsFormulaText (node : Node) : Bool :=
  node.vocabulary = .math && node.name ∈ ["mi", "mo", "mn", "ms", "mtext"]

/-- An element for drawings that holds page content. -/
def Node.holdsPageContent (node : Node) : Bool :=
  node.vocabulary = .svg && node.name ∈ ["foreignObject", "desc", "title"]

/-! ## Scopes -/

/-- Where looking for an open element stops. -/
inductive Scope where
  | general
  | listItem
  | button
  | table
  | selection
deriving DecidableEq

def scopeEnds : List String :=
  ["applet", "caption", "html", "table", "td", "th", "marquee", "object", "template"]

def Node.ends (scope : Scope) (node : Node) : Bool :=
  let general := node.isAny scopeEnds || node.holdsFormulaText || node.holdsPageContent
  match scope with
  | .general => general
  | .listItem => general || node.isAny ["ol", "ul"]
  | .button => general || node.isNamed "button"
  | .table => node.isAny ["html", "table", "template"]
  | .selection => !node.isAny ["optgroup", "option"]

/-! ## Families -/

/-- Elements that end where they have to. -/
def endsByItself : List String :=
  ["dd", "dt", "li", "option", "optgroup", "p", "rb", "rp", "rt", "rtc"]

/-- Elements that end with the template around them. -/
def endsWithTemplate : List String :=
  endsByItself ++ ["caption", "colgroup", "tbody", "td", "tfoot", "th", "thead", "tr"]

/-- Elements that formatting is not carried across unnoticed. -/
def specialNames : List String := [
  "address", "applet", "area", "article", "aside", "base", "basefont", "bgsound", "blockquote", "body",
  "br", "button", "caption", "center", "col", "colgroup", "dd", "details", "dir", "div", "dl", "dt",
  "embed", "fieldset", "figcaption", "figure", "footer", "form", "frame", "frameset", "h1", "h2", "h3",
  "h4", "h5", "h6", "head", "header", "hgroup", "hr", "html", "iframe", "img", "input", "isindex", "li",
  "link", "listing", "main", "marquee", "menu", "meta", "nav", "noembed", "noframes", "noscript",
  "object", "ol", "p", "param", "plaintext", "pre", "script", "section", "select", "source", "style",
  "summary", "table", "tbody", "td", "template", "textarea", "tfoot", "th", "thead", "title", "tr",
  "track", "ul", "wbr", "xmp"]

def Node.isSpecial (node : Node) : Bool := node.isAny specialNames

def headingNames : List String := ["h1", "h2", "h3", "h4", "h5", "h6"]

/-- Elements that begin a block and end the paragraph before it. -/
def blockNames : List String := [
  "address", "article", "aside", "blockquote", "center", "details", "dialog", "dir", "div", "dl",
  "fieldset", "figcaption", "figure", "footer", "header", "hgroup", "main", "menu", "nav", "ol", "p",
  "section", "summary", "ul"]

/-- Elements whose closing tag ends all that is open inside them. -/
def closableNames : List String :=
  "button" :: "listing" :: "pre" :: blockNames.filter (· ≠ "p")

def formattingNames : List String :=
  ["b", "big", "code", "em", "font", "i", "s", "small", "strike", "strong", "tt", "u"]

/-- Elements that belong to the head of a page wherever they stand. -/
def headNames : List String := [
  "base", "basefont", "bgsound", "link", "meta", "noframes", "script", "style", "template", "title"]

/-- Tags that only a table or a page frame has a place for. -/
def misplacedNames : List String := [
  "caption", "col", "colgroup", "frame", "head", "tbody", "td", "tfoot", "th", "thead", "tr"]

/-- Elements of a page that end a drawing or formula they stand in. -/
def breakoutNames : List String := [
  "b", "big", "blockquote", "body", "br", "center", "code", "dd", "div", "dl", "dt", "em", "embed",
  "h1", "h2", "h3", "h4", "h5", "h6", "head", "hr", "i", "img", "li", "listing", "menu", "meta", "nobr",
  "ol", "p", "pre", "ruby", "s", "small", "span", "strong", "strike", "sub", "sup", "table", "tt", "u",
  "ul", "var"]

/-! ## Spelling -/

/-- The elements for drawings whose names have capital letters. -/
def drawingNames : List String := [
  "altGlyph", "altGlyphDef", "altGlyphItem", "animateColor", "animateMotion", "animateTransform",
  "clipPath", "feBlend", "feColorMatrix", "feComponentTransfer", "feComposite", "feConvolveMatrix",
  "feDiffuseLighting", "feDisplacementMap", "feDistantLight", "feDropShadow", "feFlood", "feFuncA",
  "feFuncB", "feFuncG", "feFuncR", "feGaussianBlur", "feImage", "feMerge", "feMergeNode",
  "feMorphology", "feOffset", "fePointLight", "feSpecularLighting", "feSpotLight", "feTile",
  "feTurbulence", "foreignObject", "glyphRef", "linearGradient", "radialGradient", "textPath"]

def lowerName (name : String) : String := .ofList (name.toList.map Char.toLower)

/-- The name of an element for drawings, spelt as it should be. -/
def drawingName (name : String) : String :=
  (drawingNames.find? fun known => lowerName known = name).getD name

end Concordance.Markup
