import Concordance.Markup.Page
import Concordance.Markup.Strip
import Concordance.SortedMap
import Concordance.Term

/-!
# The web as a crawl sees it

A web says what page, if any, is found at an address. Of a page a crawl wants
to know two things: the addresses it links to and the terms of the text it
shows. Both are taken from what is left of the page without comments and
without elements whose content is not shown, so nothing hidden counts.
-/

namespace Concordance

structure Web where
  /-- The source text of the page at an address. -/
  fetch? : Url → Option (List Char)

/-- What a crawl takes from a page. -/
structure PageContent where
  links : List Url
  terms : List Term

/-- What the page at an address holds. -/
def PageContent.ofSource (url : Url) (source : List Char) : PageContent :=
  let shown := Markup.stripBlockElements source
  { links := Markup.links url shown
    terms := (stems (Markup.stripEntities (Markup.stripTags shown))).map String.ofList }

namespace Web

/-- The content of the page at an address, if there is one. -/
def content? (web : Web) (url : Url) : Option PageContent :=
  (web.fetch? url).map (PageContent.ofSource url)

/-- A web without pages. -/
def empty : Web := ⟨fun _ => none⟩

/-- The web of given pages, each under the text of its address. Of two pages under one address the
last counts. -/
def ofPages (pages : List (String × String)) : Web :=
  let map := SortedMap.ofList pages
  ⟨fun url => (map.get? url.toString).map String.toList⟩

end Web

end Concordance
