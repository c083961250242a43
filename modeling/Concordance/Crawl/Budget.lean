import Concordance.Crawl.Web
import Concordance.Index.Basic
import Concordance.Pool.Work

/-!
# The pages of a crawl

A crawl may visit a limited number of pages. It starts from one, and each page
that is read reserves the pages it links to, as long as they are new and the
limit allows: a page is reserved before it is visited, so no page is visited
twice and the limit is kept whatever the order of reading. What is left of the
limit and the pages reserved so far change together, in one step.

A page without content was visited all the same, but is not indexed and leads
nowhere.
-/

namespace Concordance

structure Budget where
  /-- The pages that may be reserved, and one more. -/
  remaining : Nat
  /-- The pages reserved so far, the newest first. -/
  visited : List Url

namespace Budget

/-- The budget of a crawl that begins with its first page reserved. -/
def start (seed : Url) (limit : Nat) : Budget := ⟨limit, [seed]⟩

/-- Reserves new pages while the limit allows, and tells which. -/
def reserve (budget : Budget) : List Url → Budget × List Url
  | [] => (budget, [])
  | link :: links =>
    if budget.remaining ≤ 1 then (budget, [])
    else if link ∈ budget.visited then budget.reserve links
    else
      let (after, reserved) := reserve ⟨budget.remaining - 1, link :: budget.visited⟩ links
      (after, link :: reserved)

end Budget

/-- What the tasks of a crawl share. -/
structure CrawlDesk where
  budget : Budget
  /-- How many pages were indexed. -/
  indexed : Nat
  index : Index

/-- How far the visit of one page has come. -/
inductive Visit where
  | coming (url : Url)
  | reading (url : Url) (content : PageContent)
  /-- Has pages reserved that are still to be submitted. -/
  | sending (url : Url) (links : List Url) (terms : List Term)
  | storing (url : Url) (terms : List Term)
  | counting
  | ended
deriving Inhabited

namespace Visit

def move (web : Web) (desk : CrawlDesk) : Visit → Move CrawlDesk Visit
  | coming url =>
    match web.content? url with
    | none => .act desk ended
    | some content => .act desk (reading url content)
  | reading url content =>
    let (budget, reserved) := desk.budget.reserve content.links
    .act { desk with budget } (sending url reserved content.terms)
  | sending url (link :: links) terms => .spawn (coming link) (sending url links terms)
  | sending url [] terms => .act desk (storing url terms)
  | storing url terms =>
    .act { desk with index := desk.index.addAll terms url.toString 1 } counting
  | counting => .act { desk with indexed := desk.indexed + 1 } ended
  | ended => .finish .done

/-- The steps of a visit without what it reserves. -/
def ownSteps : Nat := 8

def cost : Visit → Nat
  | coming _ => 6
  | reading .. => 5
  | sending _ links _ => links.length * ownSteps + 4
  | storing .. => 3
  | counting => 2
  | ended => 1

/-- The tasks of a crawl. Every page that may still be reserved costs a visit. -/
def work (web : Web) : Work CrawlDesk Visit where
  move := move web
  cost := cost
  reserve desk := desk.budget.remaining * ownSteps

end Visit

end Concordance
