import Concordance.Markup.Reading
import Concordance.Text.Blank
import Concordance.Url.Parse

/-!
# What a page tells

A page is put together from its source text as it would be shown, so that
links and titles are found wherever they end up, also on pages that are not
well formed. Its title is the text of the first element of that name. Its
links are the addresses on the web that its anchors lead to, in the order of
the page, repetitions included.
-/

namespace Concordance.Markup

/-- The title of a page, unless it has none or a blank one. -/
def title? (source : List Char) : Option String :=
  let draft := readPage source
  match draft.elements.find? fun node => node.name = "title" with
  | none => none
  | some node =>
    let text := Text.trim (draft.textOf node)
    if text.isEmpty then none else some (.ofList text)

/-- What the anchors of a page refer to, as written. -/
def references? (source : List Char) : List String :=
  (readPage source).elements.filterMap fun node =>
    if node.name = "a" then node.attributes.lookup "href" else none

/-- The addresses on the web that a page at an address links to. -/
def links (base : Url) (source : List Char) : List Url :=
  (references? source).filterMap fun reference => base.follow? (Text.trim reference.toList)

/-- Whether the type of a document is that of a page. What follows a semicolon does not matter. -/
def isPageType (type : String) : Bool :=
  (Text.trim (type.toList.takeWhile (· ≠ ';'))).map Char.toLower = "text/html".toList

end Concordance.Markup
