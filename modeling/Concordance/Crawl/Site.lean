import Concordance.Crawl.Web
import Concordance.Text.Encoding

/-!
# Fetching from a site

A site answers what is asked for below its own address: for a path it has a
reply with a status, headers and bytes, or none. A reply can send the reader
on to another address, a limited number of times. Only a page is of use at the
end: a reply with a status of success and the type of a page. Its bytes are
read in the encoding that the type names.
-/

namespace Concordance

structure Reply where
  /-- The path with the query, as asked for. -/
  path : String
  status : Nat
  headers : List (String × String)
  content : List UInt8

structure Site where
  home : Url
  /-- Of two replies for one path the first counts. -/
  replies : List Reply

/-- How many times a reader is sent on without a different limit. -/
def usualRedirects : Nat := 3

/-- What came of fetching a page. -/
structure Fetched where
  source? : Option (List Char)
  /-- The paths that were asked for, in order. -/
  asked : List String

namespace Reply

/-- The value of the first header of a name, in which letter case does not matter. -/
def header? (reply : Reply) (name : String) : Option String :=
  (reply.headers.find? fun header => header.1.toLower = name).map Prod.snd

/-- The address that a reader at an address is sent on to. -/
def location? (reply : Reply) (url : Url) : Option Url :=
  if reply.status ∈ [301, 302, 303, 307, 308] then
    (reply.header? "location").bind fun location => (Url.read? (some url) location.toList).toOption
  else none

/-- The encoding that a type names. -/
def encodingOf (type : String) : Text.Encoding :=
  let parameters := (type.splitToList (· == ';')).map fun parameter => Text.trim parameter.toList
  let named := parameters.filter fun parameter =>
    (parameter.take 8).map Char.toLower = "charset=".toList
  match named with
  | [] => .utf8
  | label :: _ => .ofLabel (.ofList ((label.drop 8).filter (· ≠ '"')))

/-- The source text of a page, if that is what the reply holds. -/
def page? (reply : Reply) : Option (List Char) :=
  if 200 ≤ reply.status ∧ reply.status < 300 then
    ((reply.header? "content-type").filter isPlain).bind fun type =>
      if Markup.isPageType type then some ((encodingOf type).decode reply.content) else none
  else none
where
  /-- Whether a header holds visible characters, spaces and tabs only. -/
  isPlain (value : String) : Bool :=
    value.toList.all fun c => c = '\t' || (' ' ≤ c && c < '\x7F')

end Reply

namespace Site

/-- The path with the query that is asked for. -/
def askedFor (url : Url) : String :=
  .ofList (url.path.text ++ match url.query? with
    | some query => '?' :: query
    | none => [])

/-- Whether an address is below that of the site. -/
def holds (site : Site) (url : Url) : Bool :=
  let placeOf (url : Url) := url.authority?.map fun place => (place.host, place.port?)
  url.scheme = site.home.scheme && placeOf url = placeOf site.home

/-- Fetches the page at an address, being sent on at most so many times. -/
def fetch (site : Site) : (redirects : Nat) → Url → Fetched
  | redirects, url =>
    if !site.holds url then ⟨none, []⟩
    else
      let path := askedFor url
      match site.replies.find? fun reply => reply.path = path with
      | none => ⟨none, [path]⟩
      | some reply =>
        match reply.location? url, redirects with
        | none, _ => ⟨reply.page?, [path]⟩
        | some _, 0 => ⟨none, [path]⟩
        | some next, redirects + 1 =>
          let fetched := site.fetch redirects next
          { fetched with asked := path :: fetched.asked }

/-- The web of a single site. -/
def web (site : Site) : Web := ⟨fun url => (site.fetch usualRedirects url).source?⟩

end Site

end Concordance
