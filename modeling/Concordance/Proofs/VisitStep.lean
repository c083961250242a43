import Mathlib.Algebra.Order.BigOperators.Group.Multiset
import Mathlib.Data.Multiset.Bind
import Mathlib.Tactic.Abel
import Concordance.Crawl.Budget
import Concordance.Proofs.IndexRecords

/-!
# What a visit does to a crawl

Of the pages reserved so far, each is with one visit that has not dealt with it
yet, or turned out to have no content, or is in the index. This is kept by every
step of a visit, and so is the sum of what is reserved and what is left of the
limit.

What makes the outcome of a crawl independent of the order of steps is a third
thing. A page that was read has all its links among the reserved pages, unless
nothing was left of the limit. So when nobody has a page left to read, either
the limit is used up, or the reserved pages are all that can be reached.
-/

namespace Concordance

theorem PageContent.links_ofSource (url : Url) (source : List Char) :
    (ofSource url source).links =
      Markup.links url (Markup.stripBlockElements source) := by
  rw [ofSource]

theorem PageContent.terms_ofSource (url : Url) (source : List Char) :
    (ofSource url source).terms = (stems (Markup.stripEntities
      (Markup.stripTags (Markup.stripBlockElements source)))).map
        String.ofList := by
  rw [ofSource]

/-- The pages that can be reached from a page by the links that pages show. -/
inductive Reached (web : Web) (seed : Url) : Url → Prop where
  | seed : Reached web seed seed
  | link {page link : Url} {source : List Char}
      (hpage : Reached web seed page)
      (hsource : web.fetch? page = some source)
      (hlink : link ∈ Markup.links page (Markup.stripBlockElements source)) :
      Reached web seed link

theorem Reached.follow {web : Web} {seed page link : Url} {content : PageContent}
    (hpage : Reached web seed page) (hcontent : web.content? page = some content)
    (hlink : link ∈ content.links) : Reached web seed link := by
  obtain ⟨source, hsource, rfl⟩ := Option.map_eq_some_iff.mp hcontent
  rw [PageContent.links_ofSource] at hlink
  exact .link hpage hsource hlink

/-! ## Reserving -/

namespace Budget

/-- What comes of reserving links while something is left of the limit. -/
structure Reserves (budget : Budget) (links : List Url) (after : Budget)
    (reserved : List Url) : Prop where
  visited : after.visited.Perm (reserved ++ budget.visited)
  nodup : budget.visited.Nodup → after.visited.Nodup
  spent : after.visited.length + after.remaining =
    budget.visited.length + budget.remaining
  left : 1 ≤ after.remaining
  le : after.remaining ≤ budget.remaining
  new : reserved ⊆ links
  closed : after.remaining = 1 ∨ links ⊆ after.visited

theorem reserves (links : List Url) : ∀ budget : Budget, 1 ≤ budget.remaining →
    Reserves budget links (budget.reserve links).1
      (budget.reserve links).2 := by
  induction links with
  | nil =>
      intro budget hleft
      exact ⟨List.Perm.refl _, id, rfl, hleft, Nat.le_refl _,
        List.Subset.refl _, .inr (List.nil_subset _)⟩
  | cons link links ih =>
      intro budget hleft
      rw [reserve]
      split
      · next hlast =>
          exact ⟨List.Perm.refl _, id, rfl, hleft, Nat.le_refl _,
            List.nil_subset _, .inl (Nat.le_antisymm hlast hleft)⟩
      · next hmore =>
          split
          · next hold =>
              have h := ih budget hleft
              refine ⟨h.visited, h.nodup, h.spent, h.left, h.le,
                fun url hurl => List.mem_cons_of_mem _ (h.new hurl), ?_⟩
              rcases h.closed with hlast | hlinks
              · exact .inl hlast
              · refine .inr (List.cons_subset.mpr ⟨?_, hlinks⟩)
                exact h.visited.mem_iff.mpr (List.mem_append_right _ hold)
          · next hnew =>
              have hmore' : 1 ≤ budget.remaining - 1 := by omega
              have h := ih ⟨budget.remaining - 1, link :: budget.visited⟩ hmore'
              generalize reserve ⟨budget.remaining - 1, link :: budget.visited⟩
                links = pair at h ⊢
              obtain ⟨after, reserved⟩ := pair
              dsimp only at h ⊢
              refine ⟨h.visited.trans List.perm_middle, ?_, ?_, h.left, ?_, ?_,
                ?_⟩
              · exact fun hnodup => h.nodup (List.nodup_cons.mpr ⟨hnew, hnodup⟩)
              · have hspent := h.spent
                rw [List.length_cons] at hspent
                dsimp only at hspent
                omega
              · have hle := h.le
                dsimp only at hle
                omega
              · exact List.cons_subset_cons link h.new
              · rcases h.closed with hlast | hlinks
                · exact .inl hlast
                · refine .inr (List.cons_subset.mpr ⟨?_, hlinks⟩)
                  exact h.visited.mem_iff.mpr
                    (List.mem_append_right _ (List.mem_cons_self ..))

/-- A page was read to the end: all that it links to is reserved, if the limit
allowed. -/
def Closed (web : Web) (budget : Budget) (page : Url) : Prop :=
  budget.remaining = 1 ∨
    ∀ content, web.content? page = some content → content.links ⊆ budget.visited

theorem Closed.mono {web : Web} {budget after : Budget}
    {links reserved : List Url} {page : Url} (h : budget.Closed web page)
    (hreserves : Reserves budget links after reserved) :
    after.Closed web page := by
  rcases h with hlast | hlinks
  · have hle := hreserves.le
    have hleft := hreserves.left
    exact .inl (by omega)
  · right
    intro content hcontent link hlink
    exact hreserves.visited.mem_iff.mpr
      (List.mem_append_right _ (hlinks content hcontent hlink))

end Budget

/-! ## The steps of a visit -/

namespace Visit

/-- What a visit does to the desk when it acts. -/
inductive Acts (web : Web) (desk : CrawlDesk) :
    Visit → CrawlDesk → Visit → Prop where
  | missing {url : Url} (hcontent : web.content? url = none) :
      Acts web desk (.coming url) desk .ended
  | read {url : Url} {content : PageContent}
      (hcontent : web.content? url = some content) :
      Acts web desk (.coming url) desk (.reading url content)
  | reserve {url : Url} {content : PageContent} {budget : Budget}
      {reserved : List Url}
      (hreserve : desk.budget.reserve content.links = (budget, reserved)) :
      Acts web desk (.reading url content) { desk with budget }
        (.sending url reserved content.terms)
  | sent {url : Url} {terms : List Term} :
      Acts web desk (.sending url [] terms) desk (.storing url terms)
  | store {url : Url} {terms : List Term} :
      Acts web desk (.storing url terms)
        { desk with index := desk.index.addAll terms url.toString 1 } .counting
  | count :
      Acts web desk .counting { desk with indexed := desk.indexed + 1 } .ended

/-- What a visit does next: it acts, submits a visit of a page that it reserved,
or ends. -/
inductive Moves (web : Web) (desk : CrawlDesk) :
    Visit → Move CrawlDesk Visit → Prop where
  | act {visit rest : Visit} {after : CrawlDesk}
      (hacts : Acts web desk visit after rest) :
      Moves web desk visit (.act after rest)
  | spawn {url link : Url} {links : List Url} {terms : List Term} :
      Moves web desk (.sending url (link :: links) terms)
        (.spawn (.coming link) (.sending url links terms))
  | finish : Moves web desk .ended (.finish .done)

theorem moves (web : Web) (desk : CrawlDesk) (visit : Visit) :
    Moves web desk visit (visit.move web desk) := by
  cases visit with
  | coming url =>
      rw [move]
      split
      · next hcontent => exact .act (.missing hcontent)
      · next content hcontent => exact .act (.read hcontent)
  | reading url content => exact .act (.reserve rfl)
  | sending url links terms =>
      cases links with
      | nil => exact .act .sent
      | cons link links => exact .spawn
  | storing url terms => exact .act .store
  | counting => exact .act .count
  | ended => exact .finish

/-- The reserved pages that a visit has not dealt with. -/
def pages : Visit → List Url
  | coming url | reading url _ | storing url _ => [url]
  | sending url links _ => url :: links
  | counting | ended => []

/-- The reserved pages that visits have not dealt with. -/
def allPages (visits : Multiset Visit) : Multiset Url :=
  visits.bind fun visit => ↑visit.pages

theorem allPages_cons (visit : Visit) (visits : Multiset Visit) :
    allPages (visit ::ₘ visits) = ↑visit.pages + allPages visits :=
  Multiset.cons_bind ..

/-- The reserved pages that nobody has read yet. -/
def unread : Visit → List Url
  | coming url | reading url _ => [url]
  | sending _ links _ => links
  | storing .. | counting | ended => []

/-- How many pages a visit has put into the index and not yet counted. -/
def uncounted : Visit → Nat
  | counting => 1
  | _ => 0

/-- What a visit took from a page is what is there. -/
def Faithful (web : Web) : Visit → Prop
  | reading url content => web.content? url = some content
  | sending url _ terms | storing url terms =>
      ∃ links, web.content? url = some ⟨links, terms⟩
  | coming _ | counting | ended => True

end Visit

/-- The tokens of the page at an address, if there is one. -/
def Web.records (web : Web) (url : Url) : List Record :=
  match web.content? url with
  | none => []
  | some content => recordRun url.toString content.terms 1

/-! ## What a step keeps -/

/-- What the steps of visits keep of a crawl in which some pages had no content
and some are in the index. -/
structure Visited (web : Web) (seed : Url) (limit : Nat) (before : Index)
    (desk : CrawlDesk) (visits : Multiset Visit) (missing stored : List Url) :
    Prop where
  begun : seed ∈ desk.budget.visited
  nodup : desk.budget.visited.Nodup
  reached : ∀ url ∈ desk.budget.visited, Reached web seed url
  spent : desk.budget.visited.length + desk.budget.remaining = limit + 1
  left : 1 ≤ desk.budget.remaining
  /-- Every reserved page is in one place. -/
  pages : (desk.budget.visited : Multiset Url) =
    ↑missing + ↑stored + Visit.allPages visits
  absent : ∀ url ∈ missing, web.content? url = none
  present : ∀ url ∈ stored, (web.content? url).isSome = true
  index : desk.index = before.recordAll (stored.flatMap web.records)
  indexed : desk.indexed + (visits.map Visit.uncounted).sum = stored.length
  faithful : ∀ visit ∈ visits, visit.Faithful web
  /-- Who has been read is closed under links. -/
  closed : ∀ url ∈ desk.budget.visited,
    (∃ visit ∈ visits, url ∈ visit.unread) ∨ desk.budget.Closed web url

namespace Visited

variable {web : Web} {seed : Url} {limit : Nat} {before : Index}
  {desk after : CrawlDesk} {visit rest : Visit} {others : Multiset Visit}
  {missing stored missing' stored' : List Url}

theorem pages_cons
    (h : Visited web seed limit before desk (visit ::ₘ others) missing stored) :
    (desk.budget.visited : Multiset Url) =
      ↑missing + ↑stored + ↑visit.pages + Visit.allPages others := by
  rw [h.pages, Visit.allPages_cons, ← add_assoc]

theorem indexed_cons
    (h : Visited web seed limit before desk (visit ::ₘ others) missing stored) :
    desk.indexed + (visit.uncounted + (others.map Visit.uncounted).sum) =
      stored.length := by
  have hindexed := h.indexed
  rwa [Multiset.map_cons, Multiset.sum_cons] at hindexed

theorem closed_cons
    (h : Visited web seed limit before desk (visit ::ₘ others) missing stored)
    {url : Url} (hurl : url ∈ desk.budget.visited) :
    url ∈ visit.unread ∨ (∃ visit ∈ others, url ∈ visit.unread) ∨
      desk.budget.Closed web url := by
  rcases h.closed url hurl with ⟨reader, hreader, hunread⟩ | hclosed
  · rcases Multiset.mem_cons.mp hreader with rfl | hmem
    · exact .inl hunread
    · exact .inr (.inl ⟨reader, hmem, hunread⟩)
  · exact .inr (.inr hclosed)

/-- A visit goes on and reserves nothing. -/
theorem goOn
    (h : Visited web seed limit before desk (visit ::ₘ others) missing stored)
    (hbudget : after.budget = desk.budget)
    (hpages : (↑missing' + ↑stored' + ↑rest.pages : Multiset Url) =
      ↑missing + ↑stored + ↑visit.pages)
    (hmissing : ∀ url ∈ missing', web.content? url = none)
    (hstored : ∀ url ∈ stored', (web.content? url).isSome = true)
    (hindex : after.index = before.recordAll (stored'.flatMap web.records))
    (hindexed : after.indexed + rest.uncounted + stored.length =
      desk.indexed + visit.uncounted + stored'.length)
    (hfaithful : rest.Faithful web)
    (hunread : ∀ url ∈ visit.unread,
      url ∈ rest.unread ∨ desk.budget.Closed web url) :
    Visited web seed limit before after (rest ::ₘ others) missing' stored' where
  begun := by rw [hbudget]; exact h.begun
  nodup := by rw [hbudget]; exact h.nodup
  reached := by rw [hbudget]; exact h.reached
  spent := by rw [hbudget]; exact h.spent
  left := by rw [hbudget]; exact h.left
  pages := by
    rw [hbudget, h.pages_cons, Visit.allPages_cons, ← add_assoc, hpages]
  absent := hmissing
  present := hstored
  index := hindex
  indexed := by
    have hbefore := h.indexed_cons
    rw [Multiset.map_cons, Multiset.sum_cons]
    omega
  faithful := by
    intro other hother
    rcases Multiset.mem_cons.mp hother with rfl | hmem
    · exact hfaithful
    · exact h.faithful other (Multiset.mem_cons_of_mem hmem)
  closed := by
    rw [hbudget]
    intro url hurl
    rcases h.closed_cons hurl with hmine | ⟨other, hmem, hother⟩ | hclosed
    · rcases hunread url hmine with hstill | hclosed
      · exact .inl ⟨rest, Multiset.mem_cons_self .., hstill⟩
      · exact .inr hclosed
    · exact .inl ⟨other, Multiset.mem_cons_of_mem hmem, hother⟩
    · exact .inr hclosed

/-- A page was read, and what it links to is reserved. -/
theorem reserve {url : Url} {content : PageContent} {budget : Budget}
    {reserved : List Url}
    (h : Visited web seed limit before desk (.reading url content ::ₘ others)
      missing stored)
    (hreserves : Budget.Reserves desk.budget content.links budget reserved) :
    Visited web seed limit before { desk with budget }
      (.sending url reserved content.terms ::ₘ others) missing stored := by
  have hcontent : web.content? url = some content :=
    h.faithful (.reading url content) (Multiset.mem_cons_self ..)
  have hmine : url ∈ desk.budget.visited := by
    rw [← Multiset.mem_coe, h.pages_cons]
    exact Multiset.mem_add.mpr
      (.inl (Multiset.mem_add.mpr (.inr (List.mem_singleton_self url))))
  have hmem : ∀ page, page ∈ budget.visited ↔
      page ∈ reserved ∨ page ∈ desk.budget.visited :=
    fun page => hreserves.visited.mem_iff.trans List.mem_append
  constructor
  case begun => exact (hmem seed).mpr (.inr h.begun)
  case nodup => exact hreserves.nodup h.nodup
  case reached =>
      intro page hpage
      rcases (hmem page).mp hpage with hnew | hold
      · exact (h.reached url hmine).follow hcontent (hreserves.new hnew)
      · exact h.reached page hold
  case spent => exact hreserves.spent.trans h.spent
  case left => exact hreserves.left
  case pages =>
      show (budget.visited : Multiset Url) = _
      rw [Multiset.coe_eq_coe.mpr hreserves.visited, ← Multiset.coe_add,
        h.pages_cons, Visit.allPages_cons]
      show (↑reserved + (↑missing + ↑stored + ↑[url] + Visit.allPages others) :
          Multiset Url) =
        ↑missing + ↑stored + (↑(url :: reserved) + Visit.allPages others)
      rw [← Multiset.cons_coe url reserved, ← Multiset.singleton_add,
        Multiset.coe_singleton]
      abel
  case absent => exact h.absent
  case present => exact h.present
  case index => exact h.index
  case indexed =>
      rw [Multiset.map_cons, Multiset.sum_cons]
      exact h.indexed_cons
  case faithful =>
      intro other hother
      rcases Multiset.mem_cons.mp hother with rfl | hmem
      · exact ⟨content.links, hcontent⟩
      · exact h.faithful other (Multiset.mem_cons_of_mem hmem)
  case closed =>
      intro page hpage
      rcases (hmem page).mp hpage with hnew | hold
      · exact .inl ⟨_, Multiset.mem_cons_self .., hnew⟩
      · rcases h.closed_cons hold with
          hread | ⟨other, hother, hunread⟩ | hclosed
        · right
          rw [List.mem_singleton.mp hread]
          rcases hreserves.closed with hlast | hlinks
          · exact .inl hlast
          · right
            intro found hfound
            rw [hcontent] at hfound
            cases hfound
            exact hlinks
        · exact .inl ⟨other, Multiset.mem_cons_of_mem hother, hunread⟩
        · exact .inr (hclosed.mono hreserves)

theorem acts (hacts : Visit.Acts web desk visit after rest)
    (h : Visited web seed limit before desk (visit ::ₘ others) missing stored) :
    ∃ missing' stored',
      Visited web seed limit before after (rest ::ₘ others) missing'
        stored' := by
  have hvisit := h.faithful visit (Multiset.mem_cons_self ..)
  cases hacts with
  | @missing url hcontent =>
      refine ⟨url :: missing, stored,
        h.goOn rfl ?_ ?_ h.present h.index rfl trivial ?_⟩
      · show (↑(url :: missing) + ↑stored + ↑([] : List Url) : Multiset Url) =
          ↑missing + ↑stored + ↑[url]
        rw [← Multiset.cons_coe, ← Multiset.singleton_add,
          Multiset.coe_singleton, Multiset.coe_nil]
        abel
      · intro page hpage
        rcases List.mem_cons.mp hpage with rfl | hmem
        · exact hcontent
        · exact h.absent page hmem
      · intro page hpage
        rw [List.mem_singleton.mp hpage]
        refine .inr (.inr fun content hsome => ?_)
        rw [hcontent] at hsome
        cases hsome
  | read hcontent =>
      exact ⟨missing, stored,
        h.goOn rfl rfl h.absent h.present h.index rfl hcontent
        fun _ hpage => .inl hpage⟩
  | @reserve url content budget reserved hreserve =>
      have hreserves := Budget.reserves content.links desk.budget h.left
      rw [hreserve] at hreserves
      exact ⟨missing, stored, h.reserve hreserves⟩
  | sent =>
      exact ⟨missing, stored,
        h.goOn rfl rfl h.absent h.present h.index rfl hvisit
        fun _ hpage => by cases hpage⟩
  | @store url terms =>
      obtain ⟨links, hcontent⟩ := hvisit
      refine ⟨missing, stored ++ [url],
        h.goOn rfl ?_ h.absent ?_ ?_ ?_ trivial ?_⟩
      · show (↑missing + ↑(stored ++ [url]) + ↑([] : List Url) : Multiset Url) =
          ↑missing + ↑stored + ↑[url]
        rw [← Multiset.coe_add, Multiset.coe_nil]
        abel
      · intro page hpage
        rcases List.mem_append.mp hpage with hmem | hlast
        · exact h.present page hmem
        · rw [List.mem_singleton.mp hlast, hcontent]
          rfl
      · show desk.index.addAll terms url.toString 1 = _
        rw [h.index, Index.addAll_eq_recordAll, ← Index.recordAll_append,
          List.flatMap_append, List.flatMap_singleton, Web.records, hcontent]
      · rw [List.length_append, List.length_singleton]
        show desk.indexed + 1 + stored.length =
          desk.indexed + 0 + (stored.length + 1)
        omega
      · intro page hpage
        cases hpage
  | count =>
      exact ⟨missing, stored,
        h.goOn rfl rfl h.absent h.present h.index rfl trivial
        fun _ hpage => by cases hpage⟩

/-- A page that was reserved gets a visit of its own. -/
theorem spawn {url link : Url} {links : List Url} {terms : List Term}
    (h : Visited web seed limit before desk
      (.sending url (link :: links) terms ::ₘ others) missing stored) :
    Visited web seed limit before desk
      (.coming link ::ₘ .sending url links terms ::ₘ others) missing
        stored := by
  refine { h with pages := ?_, indexed := ?_, faithful := ?_, closed := ?_ }
  · rw [h.pages_cons, Visit.allPages_cons, Visit.allPages_cons]
    show (↑missing + ↑stored + ↑(url :: link :: links) +
        Visit.allPages others : Multiset Url) =
      ↑missing + ↑stored + (↑[link] + (↑(url :: links) + Visit.allPages others))
    rw [Multiset.coe_eq_coe.mpr (List.Perm.swap link url links),
      ← Multiset.cons_coe link, ← Multiset.singleton_add,
      Multiset.coe_singleton]
    abel
  · have hindexed := h.indexed_cons
    rw [Multiset.map_cons, Multiset.map_cons, Multiset.sum_cons,
      Multiset.sum_cons]
    show desk.indexed + (0 + (0 + (others.map Visit.uncounted).sum)) =
      stored.length
    rw [zero_add]
    exact hindexed
  · intro other hother
    rcases Multiset.mem_cons.mp hother with rfl | hmem
    · trivial
    · rcases Multiset.mem_cons.mp hmem with rfl | hmem
      · exact h.faithful (.sending url (link :: links) terms)
          (Multiset.mem_cons_self ..)
      · exact h.faithful other (Multiset.mem_cons_of_mem hmem)
  · intro page hpage
    rcases h.closed_cons hpage with hmine | ⟨other, hother, hunread⟩ | hclosed
    · left
      rcases List.mem_cons.mp hmine with rfl | hlater
      · exact ⟨_, Multiset.mem_cons_self .., List.mem_singleton_self _⟩
      · exact ⟨_, Multiset.mem_cons_of_mem (Multiset.mem_cons_self ..), hlater⟩
    · exact .inl ⟨other,
        Multiset.mem_cons_of_mem (Multiset.mem_cons_of_mem hother), hunread⟩
    · exact .inr hclosed

/-- A visit that has ended has nothing to deal with. -/
theorem ended
    (h : Visited web seed limit before desk
      (.ended ::ₘ others) missing stored) :
    Visited web seed limit before desk others missing stored := by
  refine { h with pages := ?_, indexed := ?_, faithful := ?_, closed := ?_ }
  · rw [h.pages, Visit.allPages_cons]
    show (↑missing + ↑stored + (0 + Visit.allPages others) : Multiset Url) = _
    rw [zero_add]
  · have hindexed := h.indexed_cons
    rwa [show Visit.ended.uncounted = 0 from rfl, zero_add] at hindexed
  · exact fun other hother => h.faithful other (Multiset.mem_cons_of_mem hother)
  · intro page hpage
    rcases h.closed_cons hpage with hmine | hother
    · cases hmine
    · exact hother

end Visited

end Concordance
