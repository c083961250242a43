import Concordance.Markup.CharRef
import Concordance.Text.Blank
import Concordance.Text.CaseFold

/-!
# Taking the markup out of a page

What a page shows is found by taking things out of its source text, one kind
after the other. Comments go first, then the elements whose content is not
shown, with all they hold, then all that looks like a tag, and last the
character references are replaced. Each kind is found by its form alone; a
page need not be well formed.

An element reaches from its opening tag to the next closing tag of the same
name, in any letter case. What stands between is not looked at, so an inner
element of the same name is not matched with a closing tag of its own.
-/

namespace Concordance.Markup

open Text

/-! ## Forms -/

/-- A comment, up to the next end of comment. -/
def comment : Matcher := followedBy (literally "<!--".toList) (throughFirst (literally "-->".toList))

/-- The rest of a tag. It holds no further opening bracket. -/
def tagRest : Matcher
  | [] => none
  | c :: rest => if c = '>' then some 1 else if c = '<' then none else (tagRest rest).map (· + 1)

/-- A tag: anything but nothing between two brackets. -/
def tag : Matcher
  | '<' :: c :: rest => if c = '<' then none else (tagRest rest).map (· + 2)
  | _ => none

/-- A name in any letter case. -/
def named : (name : List Char) → Matcher
  | [], _ => some 0
  | _ :: _, [] => none
  | n :: name, c :: rest => if sameLetter n c then (named name rest).map (· + 1) else none

/-- The rest of an opening tag behind its name: nothing, or blank and attributes. -/
def openingRest : Matcher
  | '>' :: _ => some 1
  | c :: rest => if isBlank c then (throughFirst (literally ['>']) rest).map (· + 1) else none
  | [] => none

/-- The rest of a closing tag behind its name. -/
def closingRest : Matcher
  | [] => none
  | c :: rest => if c = '>' then some 1 else if isBlank c then (closingRest rest).map (· + 1) else none

def openingTag (name : List Char) : Matcher :=
  followedBy (literally ['<']) (followedBy (named name) openingRest)

def closingTag (name : List Char) : Matcher :=
  followedBy (literally ['<', '/']) (followedBy (named name) closingRest)

/-- An element, up to the next closing tag of its name. -/
def element (name : List Char) : Matcher :=
  followedBy (openingTag name) (throughFirst (closingTag name))

/-- The rest of what looks like a reference: no blanks, up to the next semicolon. -/
def entityRest : Matcher
  | [] => none
  | c :: rest => if c = ';' then some 1 else if isBlank c then none else (entityRest rest).map (· + 1)

/-- What looks like a reference: anything but nothing between an ampersand and a semicolon. -/
def entity : Matcher
  | '&' :: c :: rest => if isBlank c then none else (entityRest rest).map (· + 2)
  | _ => none

/-! ## Taking out -/

def stripComments (html : List Char) : List Char := removeMatches comment html

def stripElement (name html : List Char) : List Char := removeMatches (element name) html

/-- The elements whose content is not shown, in the order of taking out. -/
def blockElements : List (List Char) :=
  ["head", "style", "script", "noscript", "iframe", "svg"].map String.toList

/-- What is left of a page without comments and without elements whose content is not shown. -/
def stripBlockElements (html : List Char) : List Char :=
  blockElements.foldl (fun html name => stripElement name html) (stripComments html)

def stripTags (html : List Char) : List Char := removeMatches tag html

/-- What an entity stands for: nothing if it has brackets in it or no reference. Null characters are dropped. -/
def entityText (entity : List Char) : List Char :=
  if '<' ∈ entity ∨ '>' ∈ entity then []
  else
    let decoded := (decodeReferences false entity).filter (· ≠ '\x00')
    if decoded = entity then [] else decoded

/-- What is left of a text with each entity replaced by what `meaning` makes of it. -/
def replaceEntities (meaning : List Char → List Char) (text : List Char) : List Char :=
  replaceEach entity meaning text

/-- What is left of a text with each entity replaced by what it stands for. -/
def stripEntities (text : List Char) : List Char := replaceEntities entityText text

/-- The text that a page shows. -/
def stripHtml (html : List Char) : List Char := stripEntities (stripTags (stripBlockElements html))

end Concordance.Markup
