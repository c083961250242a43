import Mathlib.Data.List.Lattice
import Concordance.Proofs.AddressText
import Concordance.Proofs.CrawlOutcome

/-!
# What a crawl asks of the web

A page is fetched when its visit begins, and a visit begins for the seed and for
each page that was reserved. So it is the reservations that must not repeat
themselves. Each puts into the visited pages just what it returns, none of which
was there before; hence the visited pages are those of all reservations and the
seed, each once, and what is fetched is among them. The seed was visited before
anything was reserved, and the limit counts it: that is the one page by which
what is visited and what remains exceed the limit.

Nothing here supposes that the pool goes on. When it is stopped, some pages are
reserved and never fetched. Nor does it matter that pages come from a fixed web,
since no page is asked for twice.
-/

namespace Concordance

namespace Budget

/-- What is reserved is what becomes visited, the newest first. -/
theorem visited_reserve (links : List Url) : ∀ budget : Budget,
    (budget.reserve links).1.visited =
      (budget.reserve links).2.reverse ++ budget.visited := by
  induction links with
  | nil => exact fun budget => rfl
  | cons link links ih =>
      intro budget
      rw [reserve]
      split
      · rfl
      · split
        · exact ih budget
        · have h := ih ⟨budget.remaining - 1, link :: budget.visited⟩
          dsimp only
          rw [h, List.reverse_cons, List.append_assoc]
          rfl

end Budget

/-! ## Taking down what happens -/

/-- Links that were offered for reserving when the budget was so. -/
structure Reservation where
  before : Budget
  links : List Url

namespace Reservation

def after (reservation : Reservation) : Budget :=
  (reservation.before.reserve reservation.links).1

def returned (reservation : Reservation) : List Url :=
  (reservation.before.reserve reservation.links).2

/-- A page was not visited before and is so after. -/
def Inserts (reservation : Reservation) (url : Url) : Prop :=
  url ∈ reservation.after.visited ∧ url ∉ reservation.before.visited

theorem visited_after (reservation : Reservation) :
    reservation.after.visited =
      reservation.returned.reverse ++ reservation.before.visited :=
  Budget.visited_reserve _ _

theorem inserts_iff {reservation : Reservation}
    (h : reservation.after.visited.Nodup) (url : Url) :
    reservation.Inserts url ↔ url ∈ reservation.returned := by
  rw [visited_after] at h
  have hdisjoint := List.disjoint_of_nodup_append h
  rw [Inserts, visited_after, List.mem_append, List.mem_reverse]
  constructor
  · rintro ⟨hnew | hold, hnot⟩
    · exact hnew
    · exact absurd hold hnot
  · intro hnew
    exact ⟨.inl hnew, hdisjoint (List.mem_reverse.mpr hnew)⟩

end Reservation

/-- What a crawl did so far, the newest first. -/
structure CrawlLedger where
  /-- The pages asked for. -/
  fetched : List Url
  reservations : List Reservation
  /-- The pages handed to tasks, whether or not the pool took them. -/
  submitted : List Url

namespace CrawlLedger

def empty : CrawlLedger := ⟨[], [], []⟩

/-- Takes down what the next step of a visit does. -/
def note (budget : Budget) (ledger : CrawlLedger) : Visit → CrawlLedger
  | .coming url => { ledger with fetched := url :: ledger.fetched }
  | .reading _ content =>
    { ledger with
      reservations := ⟨budget, content.links⟩ :: ledger.reservations }
  | .sending _ (link :: _) _ =>
    { ledger with submitted := link :: ledger.submitted }
  | .sending _ [] _ | .storing .. | .counting | .ended => ledger

end CrawlLedger

/-- The visit that an event takes a step of. -/
def Crawl.mover? (crawl : Crawl) : CrawlEvent → Option Visit
  | .own => some crawl.own
  | .pool event => crawl.pool.mover? event

namespace CrawlLedger

/-- Takes down an event. -/
def noteEvent (crawl : Crawl) (ledger : CrawlLedger) (event : CrawlEvent) :
    CrawlLedger :=
  match crawl.mover? event with
  | none => ledger
  | some visit => ledger.note crawl.pool.shared.budget visit

/-- What is taken down in a run. -/
def after (web : Web) (crawl : Crawl) (ledger : CrawlLedger)
    (events : List CrawlEvent) : CrawlLedger :=
  notesAfter (Crawl.step? web)
    (fun ledger crawl event _ => ledger.noteEvent crawl event) ledger crawl
    events

/-- All that was returned, the newest reservation first. -/
def returned (ledger : CrawlLedger) : List Url :=
  ledger.reservations.flatMap fun reservation => reservation.returned.reverse

end CrawlLedger

/-! ## What the ledger and the visits have between them -/

namespace Visit

/-- The reserved pages whose visits a visit has still to begin. -/
def unfetched : Visit → List Url
  | coming url => [url]
  | sending _ links _ => links
  | reading .. | storing .. | counting | ended => []

/-- The reserved pages that a visit has still to hand to tasks. -/
def unsent : Visit → List Url
  | sending _ links _ => links
  | coming _ | reading .. | storing .. | counting | ended => []

/-- What was read off a page leads to the web. -/
def LinksTidy : Visit → Prop
  | reading _ content => ∀ link ∈ content.links, link.Tidy
  | coming _ | sending .. | storing .. | counting | ended => True

def allUnfetched (visits : Multiset Visit) : Multiset Url :=
  visits.bind fun visit => ↑visit.unfetched

def allUnsent (visits : Multiset Visit) : Multiset Url :=
  visits.bind fun visit => ↑visit.unsent

theorem allUnfetched_cons (visit : Visit) (visits : Multiset Visit) :
    allUnfetched (visit ::ₘ visits) =
      ↑visit.unfetched + allUnfetched visits :=
  Multiset.cons_bind ..

theorem allUnsent_cons (visit : Visit) (visits : Multiset Visit) :
    allUnsent (visit ::ₘ visits) = ↑visit.unsent + allUnsent visits :=
  Multiset.cons_bind ..

end Visit

/-- The links of a page lead to the web. -/
theorem Web.tidy_of_content? {web : Web} {url link : Url} {content : PageContent}
    (hurl : url.Tidy) (h : web.content? url = some content)
    (hlink : link ∈ content.links) : link.Tidy := by
  rw [Web.content?, Option.map_eq_some_iff] at h
  obtain ⟨source, -, rfl⟩ := h
  unfold PageContent.ofSource Markup.links at hlink
  dsimp only at hlink
  rw [List.mem_filterMap] at hlink
  obtain ⟨reference, -, hfollow⟩ := hlink
  exact Url.tidy_of_follow? (fun _ => hurl) hfollow

/-- What every step keeps of the budget, of the visits under way and of what was
taken down. -/
structure Ledgered (seed : Url) (limit : Nat) (budget : Budget)
    (visits : Multiset Visit) (ledger : CrawlLedger) : Prop where
  spent : budget.visited.length + budget.remaining = limit + 1
  left : 1 ≤ budget.remaining
  nodup : budget.visited.Nodup
  visited : budget.visited = ledger.returned ++ [seed]
  /-- No reservation met with a page twice. -/
  reserved : ∀ reservation ∈ ledger.reservations,
    reservation.after.visited.Nodup
  fetched : ↑ledger.fetched + Visit.allUnfetched visits ≤
    (budget.visited : Multiset Url)
  submitted : ↑ledger.submitted + Visit.allUnsent visits ≤
    (ledger.returned : Multiset Url)
  tidy : ∀ url ∈ budget.visited, url.Tidy
  links : ∀ visit ∈ visits, visit.LinksTidy

namespace Ledgered

variable {web : Web} {seed : Url} {limit : Nat} {desk after : CrawlDesk}
  {budget : Budget} {visit rest : Visit} {others visits : Multiset Visit}
  {ledger : CrawlLedger}

theorem fetched_cons
    (h : Ledgered seed limit budget (visit ::ₘ others) ledger) :
    ↑ledger.fetched + (↑visit.unfetched + Visit.allUnfetched others) ≤
      (budget.visited : Multiset Url) := by
  rw [← Visit.allUnfetched_cons]
  exact h.fetched

theorem submitted_cons
    (h : Ledgered seed limit budget (visit ::ₘ others) ledger) :
    ↑ledger.submitted + (↑visit.unsent + Visit.allUnsent others) ≤
      (ledger.returned : Multiset Url) := by
  rw [← Visit.allUnsent_cons]
  exact h.submitted

/-- Visits that are lost take nothing down. -/
theorem mono (h : Ledgered seed limit budget visits ledger)
    (hle : others ≤ visits) : Ledgered seed limit budget others ledger where
  spent := h.spent
  left := h.left
  nodup := h.nodup
  visited := h.visited
  reserved := h.reserved
  fetched := by
    obtain ⟨lost, rfl⟩ := Multiset.le_iff_exists_add.mp hle
    refine le_trans (add_le_add_right ?_ _) h.fetched
    rw [Visit.allUnfetched, Visit.allUnfetched, Multiset.add_bind]
    exact Multiset.le_add_right _ _
  submitted := by
    obtain ⟨lost, rfl⟩ := Multiset.le_iff_exists_add.mp hle
    refine le_trans (add_le_add_right ?_ _) h.submitted
    rw [Visit.allUnsent, Visit.allUnsent, Multiset.add_bind]
    exact Multiset.le_add_right _ _
  tidy := h.tidy
  links := fun visit hvisit => h.links visit (Multiset.mem_of_le hle hvisit)

/-- A visit goes on and reserves nothing, and the ledger takes down what it
fetches or submits. -/
theorem goOn (h : Ledgered seed limit budget (visit ::ₘ others) ledger)
    {fetched submitted : List Url}
    (hfetched : (↑fetched + ↑rest.unfetched : Multiset Url) =
      ↑ledger.fetched + ↑visit.unfetched)
    (hsubmitted : (↑submitted + ↑rest.unsent : Multiset Url) =
      ↑ledger.submitted + ↑visit.unsent)
    (hlinks : rest.LinksTidy) :
    Ledgered seed limit budget (rest ::ₘ others)
      ⟨fetched, ledger.reservations, submitted⟩ where
  spent := h.spent
  left := h.left
  nodup := h.nodup
  visited := h.visited
  reserved := h.reserved
  fetched := by
    rw [Visit.allUnfetched_cons, ← add_assoc, hfetched, add_assoc]
    exact h.fetched_cons
  submitted := by
    rw [Visit.allUnsent_cons, ← add_assoc, hsubmitted, add_assoc]
    exact h.submitted_cons
  tidy := h.tidy
  links := by
    intro other hother
    rcases Multiset.mem_cons.mp hother with rfl | hmem
    · exact hlinks
    · exact h.links other (Multiset.mem_cons_of_mem hmem)

/-- The next page of those a visit may still fetch is one that was visited. -/
theorem tidy_of_coming {url : Url}
    (h : Ledgered seed limit budget (.coming url ::ₘ others) ledger) :
    url.Tidy := by
  apply h.tidy
  rw [← Multiset.mem_coe]
  refine Multiset.mem_of_le h.fetched_cons ?_
  rw [Multiset.mem_add, Multiset.mem_add]
  exact .inr (.inl (List.mem_singleton_self url))

theorem reserve {url : Url} {content : PageContent}
    (h : Ledgered seed limit budget (.reading url content ::ₘ others) ledger) :
    Ledgered seed limit (budget.reserve content.links).1
      (.sending url (budget.reserve content.links).2 content.terms ::ₘ others)
      (ledger.note budget (.reading url content)) := by
  have hreserves := Budget.reserves content.links budget h.left
  have hvisited := budget.visited_reserve content.links
  have hlinks : ∀ link ∈ content.links, link.Tidy :=
    h.links (.reading url content) (Multiset.mem_cons_self ..)
  -- What is reserved goes on both sides of what is fetched and submitted.
  have hgrow : ∀ {reserved done visited : List Url} {todo : Multiset Url},
      (↑done + (↑([] : List Url) + todo) ≤ (↑visited : Multiset Url)) →
      ↑done + (↑reserved + todo) ≤
        (↑(reserved.reverse ++ visited) : Multiset Url) := by
    intro reserved done visited todo hle
    rw [Multiset.coe_nil, zero_add] at hle
    rw [← Multiset.coe_add, Multiset.coe_reverse, add_left_comm]
    exact add_le_add_right hle _
  constructor
  case spent => exact hreserves.spent.trans h.spent
  case left => exact hreserves.left
  case nodup => exact hreserves.nodup h.nodup
  case visited =>
      rw [hvisited, h.visited]
      exact (List.append_assoc ..).symm
  case reserved =>
      intro reservation hreservation
      rcases List.mem_cons.mp hreservation with rfl | hmem
      · exact hreserves.nodup h.nodup
      · exact h.reserved reservation hmem
  case fetched =>
      rw [Visit.allUnfetched_cons, hvisited]
      exact hgrow h.fetched_cons
  case submitted =>
      rw [Visit.allUnsent_cons]
      exact hgrow h.submitted_cons
  case tidy =>
      intro link hlink
      rw [hvisited, List.mem_append, List.mem_reverse] at hlink
      rcases hlink with hnew | hold
      · exact hlinks link (hreserves.new hnew)
      · exact h.tidy link hold
  case links =>
      intro other hother
      rcases Multiset.mem_cons.mp hother with rfl | hmem
      · trivial
      · exact h.links other (Multiset.mem_cons_of_mem hmem)

theorem acts (hacts : Visit.Acts web desk visit after rest)
    (h : Ledgered seed limit desk.budget (visit ::ₘ others) ledger) :
    Ledgered seed limit after.budget (rest ::ₘ others)
      (ledger.note desk.budget visit) := by
  have hfetch : ∀ url : Url,
      (↑(url :: ledger.fetched) + ↑([] : List Url) : Multiset Url) =
        ↑ledger.fetched + ↑[url] := by
    intro url
    rw [← Multiset.cons_coe, ← Multiset.singleton_add, Multiset.coe_singleton,
      Multiset.coe_nil, add_zero, add_comm]
  cases hacts with
  | @missing url hcontent => exact h.goOn (hfetch url) rfl trivial
  | @read url content hcontent =>
      refine h.goOn (hfetch url) rfl ?_
      exact fun link hlink =>
        Web.tidy_of_content? h.tidy_of_coming hcontent hlink
  | @reserve url content budget reserved hreserve =>
      have hnext := h.reserve
      rw [hreserve] at hnext
      exact hnext
  | sent => exact h.goOn rfl rfl trivial
  | store => exact h.goOn rfl rfl trivial
  | count => exact h.goOn rfl rfl trivial

/-- A reserved page is handed to a task. -/
theorem spawn {url link : Url} {links : List Url} {terms : List Term}
    (h : Ledgered seed limit budget
      (.sending url (link :: links) terms ::ₘ others) ledger) :
    Ledgered seed limit budget
      (.coming link ::ₘ .sending url links terms ::ₘ others)
      (ledger.note budget (.sending url (link :: links) terms)) where
  spent := h.spent
  left := h.left
  nodup := h.nodup
  visited := h.visited
  reserved := h.reserved
  fetched := by
    rw [Visit.allUnfetched_cons, Visit.allUnfetched_cons]
    show ↑ledger.fetched +
      (↑[link] + (↑links + Visit.allUnfetched others)) ≤
        (budget.visited : Multiset Url)
    rw [← add_assoc (↑[link] : Multiset Url), Multiset.coe_add]
    exact h.fetched_cons
  submitted := by
    have hle := h.submitted_cons
    rw [Visit.allUnsent_cons, Visit.allUnsent_cons]
    show (↑(link :: ledger.submitted) +
        (↑([] : List Url) + (↑links + Visit.allUnsent others)) :
          Multiset Url) ≤ ↑ledger.returned
    refine le_trans (le_of_eq ?_) hle
    show _ = (↑ledger.submitted + (↑(link :: links) + Visit.allUnsent others) :
      Multiset Url)
    rw [← Multiset.cons_coe, ← Multiset.cons_coe, Multiset.coe_nil, zero_add,
      Multiset.cons_add, Multiset.cons_add, Multiset.add_cons]
  tidy := h.tidy
  links := by
    intro other hother
    rcases Multiset.mem_cons.mp hother with rfl | hmem
    · trivial
    · rcases Multiset.mem_cons.mp hmem with rfl | hmem
      · trivial
      · exact h.links other (Multiset.mem_cons_of_mem hmem)

end Ledgered

/-! ## Runs -/

namespace Crawl

variable {web : Web} {seed : Url} {limit : Nat} {before : Index}
  {crawl next last : Crawl} {ledger : CrawlLedger}

theorem ledgered_start (workers : Nat) (hlimit : 1 ≤ limit)
    (hseed : seed.Tidy) :
    Ledgered seed limit (start workers limit before seed).pool.shared.budget
      (start workers limit before seed).visits .empty := by
  rw [visits, show (start workers limit before seed).pool.tasks = 0 from
    Pool.tasks_start workers _]
  constructor
  case spent => exact Nat.add_comm 1 limit
  case left => exact hlimit
  case nodup => exact List.nodup_singleton seed
  case visited => rfl
  case reserved =>
      intro reservation h
      cases h
  case fetched => exact le_refl _
  case submitted => exact le_refl _
  case tidy =>
      intro url hurl
      rw [List.mem_singleton.mp hurl]
      exact hseed
  case links =>
      intro visit hvisit
      rw [Multiset.mem_singleton.mp hvisit]
      trivial

theorem noteEvent_of_quiet {pool : Pool CrawlDesk Visit} {own : Visit}
    {event : PoolEvent Visit} (hmover : pool.mover? event = none) :
    ledger.noteEvent ⟨pool, own⟩ (.pool event) = ledger := by
  have h : mover? ⟨pool, own⟩ (.pool event) = none := hmover
  rw [CrawlLedger.noteEvent, h]

theorem noteEvent_of_mover {pool : Pool CrawlDesk Visit} {own visit : Visit}
    {event : PoolEvent Visit} (hmover : pool.mover? event = some visit) :
    ledger.noteEvent ⟨pool, own⟩ (.pool event) =
      ledger.note pool.shared.budget visit := by
  have h : mover? ⟨pool, own⟩ (.pool event) = some visit := hmover
  rw [CrawlLedger.noteEvent, h]

theorem ledgered_of_taskStep {pool : Pool CrawlDesk Visit} {own : Visit}
    {event : PoolEvent Visit} {desk : CrawlDesk} {tasks : Multiset Visit}
    {pending : Nat}
    (h : Pool.TaskStep (Visit.work web) pool event desk tasks pending)
    (hsubmit : ∀ visit, event ≠ .submit visit)
    (hledgered : Ledgered seed limit pool.shared.budget (own ::ₘ pool.tasks)
      ledger) :
    Ledgered seed limit desk.budget (own ::ₘ tasks)
      (ledger.noteEvent ⟨pool, own⟩ (.pool event)) := by
  have hmoves : ∀ visit {move}, (Visit.work web).move pool.shared visit = move →
      Visit.Moves web pool.shared visit move :=
    fun visit _ hmove => hmove ▸ Visit.moves web pool.shared visit
  cases h with
  | same hmover =>
      rw [noteEvent_of_quiet hmover]
      exact hledgered
  | come => exact absurd rfl (hsubmit _)
  | @act _ visit rest _ others hmover htasks hmove =>
      rw [htasks, Multiset.cons_swap] at hledgered
      rw [noteEvent_of_mover hmover, Multiset.cons_swap]
      cases hmoves visit hmove with
      | act hacts => exact hledgered.acts hacts
  | @spawn _ visit child rest others hmover htasks hmove =>
      rw [htasks, Multiset.cons_swap] at hledgered
      cases hmoves visit hmove with
      | spawn =>
          rw [noteEvent_of_mover hmover, Multiset.cons_swap, Multiset.cons_swap own]
          exact hledgered.spawn
  | @spawnRefused _ visit child rest others hmover htasks hmove =>
      rw [htasks, Multiset.cons_swap] at hledgered
      cases hmoves visit hmove with
      | spawn =>
          rw [noteEvent_of_mover hmover, Multiset.cons_swap]
          exact hledgered.spawn.mono (Multiset.le_cons_self _ _)
  | @finish _ visit _ _ hmover htasks hmove =>
      rw [htasks, Multiset.cons_swap] at hledgered
      rw [noteEvent_of_mover hmover]
      cases hmoves visit hmove with
      | finish => exact hledgered.mono (Multiset.le_cons_self _ _)
  | stop _ _ hmove => cases hmoves _ hmove
  | await _ _ hmove => cases hmoves _ hmove

theorem ledgered_of_own (h : crawl.ownStep? web = some next)
    (hledgered : Ledgered seed limit crawl.pool.shared.budget crawl.visits
      ledger) :
    Ledgered seed limit next.pool.shared.budget next.visits
      (ledger.note crawl.pool.shared.budget crawl.own) := by
  obtain ⟨pool, own⟩ := crawl
  have hmoves := Visit.moves web pool.shared own
  simp only [ownStep?] at h
  split at h
  · cases h
  · generalize own.move web pool.shared = move at h hmoves
    cases hmoves with
    | act hacts =>
        cases h
        exact hledgered.acts hacts
    | @spawn url link links terms =>
        obtain ⟨later, hsubmit, rfl⟩ := Option.map_eq_some_iff.mp h
        have hstep := Pool.step_of_step? hsubmit
        by_cases hstopped : pool.stopped = true
        · -- The pool is left as it is, and the visit is lost.
          cases hstep with
          | refuse => exact hledgered.spawn.mono (Multiset.le_cons_self _ _)
          | accept _ hopen =>
              rw [hstopped] at hopen
              cases hopen
        · have hopen := Bool.eq_false_iff.mpr hstopped
          obtain ⟨htasks, _, hshared⟩ := Pool.accepted_of_step hstep hopen
          show Ledgered seed limit later.shared.budget (_ ::ₘ later.tasks) _
          rw [htasks, hshared, Multiset.cons_swap]
          exact hledgered.spawn
    | finish => cases h

theorem ledgered_of_step? {event : CrawlEvent}
    (h : crawl.step? web event = some next)
    (hledgered : Ledgered seed limit crawl.pool.shared.budget crawl.visits
      ledger) :
    Ledgered seed limit next.pool.shared.budget next.visits
      (ledger.noteEvent crawl event) := by
  cases event with
  | own => exact ledgered_of_own h hledgered
  | pool event =>
      obtain ⟨hsubmit, pool, hpool, rfl⟩ := pool_of_step? h
      have htask := Pool.taskStep_of_step (Pool.step_of_step? hpool)
      exact ledgered_of_taskStep htask hsubmit hledgered

theorem ledgered_after {events : List CrawlEvent}
    (hledgered : Ledgered seed limit crawl.pool.shared.budget crawl.visits
      ledger) (h : crawl.run? web events = some last) :
    Ledgered seed limit last.pool.shared.budget last.visits
      (ledger.after web crawl events) :=
  notes_keep (fun (crawl : Crawl) ledger =>
      Ledgered seed limit crawl.pool.shared.budget crawl.visits ledger)
    (fun hledgered hstep => ledgered_of_step? hstep hledgered) hledgered h

end Crawl

/-! ## What follows for the web -/

/-- What the limit of a crawl promises of its budget and of what it did. -/
structure Frugal (limit : Nat) (budget : Budget) (ledger : CrawlLedger) :
    Prop where
  spent : budget.visited.length + budget.remaining = limit + 1
  left : 1 ≤ budget.remaining ∧ budget.remaining ≤ limit
  visited : budget.visited.length ≤ limit
  /-- A reservation puts into the visited pages just what it returns. -/
  inserted : ∀ reservation ∈ ledger.reservations, ∀ url,
    reservation.Inserts url ↔ url ∈ reservation.returned
  /-- What a task was given was inserted by one reservation. -/
  submitted : ∀ link ∈ ledger.submitted,
    ∃! i : Fin ledger.reservations.length, ledger.reservations[i].Inserts link
  once : ledger.fetched.Nodup
  /-- Nor do two pages that were asked for differ in a place within the page. -/
  apart : (ledger.fetched.map fun url => url.text.takeWhile (· ≠ '#')).Nodup
  onWeb : ∀ url ∈ ledger.fetched, url.isHttp = true
  fetches : ledger.fetched.length ≤ limit
  tasks : ledger.submitted.length ≤ limit - 1

namespace Ledgered

variable {seed : Url} {limit : Nat} {budget : Budget} {visits : Multiset Visit}
  {ledger : CrawlLedger}

theorem length_visited (h : Ledgered seed limit budget visits ledger) :
    budget.visited.length = ledger.returned.length + 1 := by
  rw [h.visited, List.length_append, List.length_singleton]

theorem fetched_le (h : Ledgered seed limit budget visits ledger) :
    (ledger.fetched : Multiset Url) ≤ budget.visited :=
  le_trans (Multiset.le_add_right _ _) h.fetched

theorem submitted_le (h : Ledgered seed limit budget visits ledger) :
    (ledger.submitted : Multiset Url) ≤ ledger.returned :=
  le_trans (Multiset.le_add_right _ _) h.submitted

theorem tidy_of_fetched (h : Ledgered seed limit budget visits ledger)
    {url : Url} (hurl : url ∈ ledger.fetched) : url.Tidy :=
  h.tidy url (Multiset.mem_of_le h.fetched_le hurl)

theorem nodup_fetched (h : Ledgered seed limit budget visits ledger) :
    ledger.fetched.Nodup :=
  Multiset.coe_nodup.mp (Multiset.nodup_of_le h.fetched_le h.nodup)

theorem nodup_returned (h : Ledgered seed limit budget visits ledger) :
    ledger.returned.Nodup := by
  have hnodup := h.nodup
  rw [h.visited] at hnodup
  exact hnodup.of_append_left

theorem inserted (h : Ledgered seed limit budget visits ledger)
    {reservation : Reservation} (hmem : reservation ∈ ledger.reservations)
    (url : Url) : reservation.Inserts url ↔ url ∈ reservation.returned :=
  Reservation.inserts_iff (h.reserved reservation hmem) url

/-- Only one reservation returned a page, since none is there twice. -/
theorem unique (h : Ledgered seed limit budget visits ledger) {url : Url}
    (hurl : url ∈ ledger.returned) :
    ∃! i : Fin ledger.reservations.length,
      ledger.reservations[i].Inserts url := by
  obtain ⟨reservation, hmem, hreturned⟩ := List.mem_flatMap.mp hurl
  obtain ⟨i, hi, rfl⟩ := List.getElem_of_mem hmem
  have hapart : ∀ i j (hi : i < ledger.reservations.length)
      (hj : j < ledger.reservations.length), i < j →
      url ∈ ledger.reservations[i].returned.reverse →
        url ∉ ledger.reservations[j].returned.reverse := by
    intro i j hi hj hlt hurl
    have hpairwise := (List.nodup_flatMap.mp h.nodup_returned).2
    exact List.pairwise_iff_getElem.mp hpairwise i j hi hj hlt hurl
  refine ⟨⟨i, hi⟩, (h.inserted hmem url).mpr (List.mem_reverse.mp hreturned), ?_⟩
  rintro ⟨j, hj⟩ hother
  have hother := (h.inserted (List.getElem_mem hj) url).mp hother
  rw [← List.mem_reverse] at hother
  rcases Nat.lt_trichotomy i j with hlt | heq | hlt
  · exact absurd hother (hapart i j hi hj hlt hreturned)
  · exact Fin.ext heq.symm
  · exact absurd hreturned (hapart j i hj hi hlt hother)

theorem frugal (h : Ledgered seed limit budget visits ledger) :
    Frugal limit budget ledger := by
  have hspent := h.spent
  have hleft := h.left
  have hlength := h.length_visited
  constructor
  case spent => exact hspent
  case left => omega
  case visited => omega
  case inserted => exact fun reservation hmem => h.inserted hmem
  case submitted =>
      exact fun link hlink => h.unique (Multiset.mem_of_le h.submitted_le hlink)
  case once => exact h.nodup_fetched
  case apart =>
      refine List.Nodup.map_on (fun url hurl other hother heq => ?_)
        h.nodup_fetched
      have hurl := h.tidy_of_fetched hurl
      have hother := h.tidy_of_fetched hother
      rw [hurl.takeWhile_text, hother.takeWhile_text] at heq
      exact Url.eq_of_text hurl hother heq
  case onWeb => exact fun url hurl => (h.tidy_of_fetched hurl).isHttp
  case fetches =>
      have hle := Multiset.card_le_card h.fetched_le
      rw [Multiset.coe_card, Multiset.coe_card] at hle
      omega
  case tasks =>
      have hle := Multiset.card_le_card h.submitted_le
      rw [Multiset.coe_card, Multiset.coe_card] at hle
      omega

end Ledgered

namespace Crawl

variable {web : Web} {limit : Nat} {before : Index}

/-- In every state of a crawl, the visited pages and what remains are the limit
and one, no page was asked for twice, and no more pages than the limit allows;
and each page that a task was given was put there by the reservation that
returned it. -/
theorem run_frugal {workers : Nat} {text : String} {seed : Url}
    {events : List CrawlEvent} {crawl : Crawl}
    (hseed : Url.parse? (Text.trimBlanks text) = .ok seed)
    (hhttp : seed.isHttp = true) (hlimit : 1 ≤ limit)
    (h : (start workers limit before seed).run? web events = some crawl) :
    Frugal limit crawl.pool.shared.budget
      (CrawlLedger.empty.after web (start workers limit before seed) events) :=
  (ledgered_after (ledgered_start workers hlimit
    (Url.tidy_of_parse? hseed hhttp)) h).frugal

theorem home_frugal :
    Url.parse? (Text.trimBlanks " http://a/#top ") = .ok home ∧
    ∃ crawl, (start 1 5 .empty home).run? homeWeb homeSteps = some crawl ∧
      Frugal 5 crawl.pool.shared.budget
        (CrawlLedger.empty.after homeWeb (start 1 5 .empty home) homeSteps) := by
  have hseed : Url.parse? (Text.trimBlanks " http://a/#top ") = .ok home := by
    rfl
  refine ⟨hseed, _, rfl, ?_⟩
  have hstart : (start 1 5 .empty home).run? homeWeb homeSteps = some _ := rfl
  exact run_frugal hseed (by decide) (by decide) hstart

end Crawl

end Concordance
