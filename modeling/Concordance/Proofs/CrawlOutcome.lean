import Mathlib.Data.ENat.Lattice
import Mathlib.Data.Set.Card
import Concordance.Crawl.Run
import Concordance.Proofs.PoolStep
import Concordance.Proofs.VisitStep

/-!
# What comes of a crawl, whatever the order of its steps

Which page reserves which link depends on who reads first. How many pages are
visited does not: it is the number of pages that can be reached, or the limit
if that is less. Nor does the index depend on the order, once it is settled
which pages were visited, since each of them adds the same tokens whenever it
comes. With a limit that all reachable pages fit in, everything about a crawl
is settled by its seed.

All this supposes that nobody stops the pool. A visit that is refused would be
counted as visited and never be read. The order that `Crawl.run` takes is one of
all those meant here.
-/

namespace Concordance

/-- For each page there is, one run at its address of the stems of the text that
it shows. -/
def Web.edits (web : Web) (urls : List Url) : List Edit :=
  urls.filterMap fun url => (web.fetch? url).map fun source =>
    let text := Markup.stripEntities
      (Markup.stripTags (Markup.stripBlockElements source))
    .addAll ((stems text).map String.ofList) url.toString 1

theorem Web.edits_eq (web : Web) (urls : List Url) :
    web.edits urls = urls.filterMap fun url =>
      (web.content? url).map fun content =>
        .addAll content.terms url.toString 1 := by
  rw [edits]
  congr 1
  funext url
  simp only [content?, Option.map_map, Function.comp_def,
    PageContent.terms_ofSource]

theorem Web.allRecords_edits (web : Web) (urls : List Url) :
    ∀ records : List Record, Edit.allRecords records (web.edits urls) =
      records ++ urls.flatMap web.records := by
  rw [web.edits_eq]
  induction urls with
  | nil =>
      intro records
      rw [List.filterMap_nil, Edit.allRecords, List.flatMap_nil, List.append_nil]
  | cons url urls ih =>
      intro records
      rw [List.filterMap_cons, List.flatMap_cons, Web.records]
      cases web.content? url with
      | none => exact ih records
      | some content =>
          rw [Option.map_some, Edit.allRecords, ih, Edit.records,
            List.append_assoc]

/-- Taking in the index of some pages records their tokens. -/
theorem Web.merge_edits (web : Web) (before : Index) (urls : List Url) :
    before.merge (Index.ofEdits (web.edits urls)) =
      before.recordAll (urls.flatMap web.records) := by
  rw [ofEdits_eq, web.allRecords_edits, List.nil_append, Index.merge_recordAll,
    Index.merge_empty]

namespace Crawl

/-! ## What a step keeps -/

/-- The visit of the calling thread and those of the pool. -/
def visits (crawl : Crawl) : Multiset Visit := crawl.own ::ₘ crawl.pool.tasks

/-- What every step keeps of a crawl. -/
structure Kept (web : Web) (seed : Url) (limit : Nat) (before : Index)
    (crawl : Crawl) : Prop where
  pending : crawl.pool.pending = crawl.pool.tasks.card
  visited : crawl.pool.stopped = false → ∃ missing stored,
    Visited web seed limit before crawl.pool.shared crawl.visits missing stored

variable {web : Web} {seed : Url} {limit : Nat} {before : Index}

theorem kept_start (web : Web) (workers : Nat) (before : Index) (seed : Url)
    (hlimit : 1 ≤ limit) :
    Kept web seed limit before (start workers limit before seed) where
  pending := by
    rw [show (start workers limit before seed).pool.tasks = 0 from
      Pool.tasks_start workers _]
    rfl
  visited := by
    intro _
    refine ⟨[], [], ?_⟩
    rw [visits, show (start workers limit before seed).pool.tasks = 0 from
      Pool.tasks_start workers _]
    constructor
    case begun => exact List.mem_singleton_self seed
    case nodup => exact List.nodup_singleton seed
    case reached =>
        intro url hurl
        rw [List.mem_singleton.mp hurl]
        exact .seed
    case spent => exact Nat.add_comm 1 limit
    case left => exact hlimit
    case pages => rfl
    case absent =>
        intro url hurl
        cases hurl
    case present =>
        intro url hurl
        cases hurl
    case index => rfl
    case indexed => rfl
    case faithful =>
        intro visit hvisit
        rw [Multiset.mem_singleton.mp hvisit]
        trivial
    case closed =>
        intro url hurl
        exact .inl ⟨.coming seed, Multiset.mem_singleton_self _, hurl⟩

theorem kept_of_taskStep {pool : Pool CrawlDesk Visit} {own : Visit}
    {event : PoolEvent Visit} {desk : CrawlDesk} {tasks : Multiset Visit}
    {pending : Nat} {missing stored : List Url}
    (h : Pool.TaskStep (Visit.work web) pool event desk tasks pending)
    (hsubmit : ∀ visit, event ≠ .submit visit) (hopen : pool.stopped = false)
    (hvisited : Visited web seed limit before pool.shared (own ::ₘ pool.tasks)
      missing stored) :
    ∃ missing' stored',
      Visited web seed limit before desk (own ::ₘ tasks) missing' stored' := by
  have hmoves : ∀ visit {move}, (Visit.work web).move pool.shared visit = move →
      Visit.Moves web pool.shared visit move :=
    fun visit _ hmove => hmove ▸ Visit.moves web pool.shared visit
  cases h with
  | same => exact ⟨missing, stored, hvisited⟩
  | come => exact absurd rfl (hsubmit _)
  | @act _ visit rest _ others hmover htasks hmove =>
      rw [htasks, Multiset.cons_swap] at hvisited
      rw [Multiset.cons_swap]
      cases hmoves visit hmove with
      | act hacts => exact hvisited.acts hacts
  | @spawn _ visit child rest others hmover htasks hmove =>
      rw [htasks, Multiset.cons_swap] at hvisited
      cases hmoves visit hmove with
      | spawn =>
          refine ⟨missing, stored, ?_⟩
          rw [Multiset.cons_swap, Multiset.cons_swap own]
          exact hvisited.spawn
  | spawnRefused _ _ _ hstopped =>
      rw [hopen] at hstopped
      cases hstopped
  | @finish _ visit _ _ hmover htasks hmove =>
      rw [htasks, Multiset.cons_swap] at hvisited
      cases hmoves visit hmove with
      | finish => exact ⟨missing, stored, hvisited.ended⟩
  | stop _ _ hmove => cases hmoves _ hmove
  | await _ _ hmove => cases hmoves _ hmove

theorem pool_of_step? {crawl next : Crawl} {event : PoolEvent Visit}
    (h : crawl.step? web (.pool event) = some next) :
    (∀ visit, event ≠ .submit visit) ∧
      ∃ pool, crawl.pool.step? (Visit.work web) event = some pool ∧
        { crawl with pool } = next := by
  unfold step? at h
  split at h
  · next heq => cases heq
  · cases h
  · next hsubmit heq =>
      cases heq
      exact ⟨hsubmit, Option.map_eq_some_iff.mp h⟩

theorem kept_of_own {crawl next : Crawl} (h : crawl.ownStep? web = some next)
    (hkept : Kept web seed limit before crawl) :
    Kept web seed limit before next := by
  obtain ⟨pool, own⟩ := crawl
  have hmoves := Visit.moves web pool.shared own
  simp only [ownStep?] at h
  split at h
  · cases h
  · generalize own.move web pool.shared = move at h hmoves
    cases hmoves with
    | act hacts =>
        cases h
        refine ⟨hkept.pending, fun hopen => ?_⟩
        obtain ⟨missing, stored, hvisited⟩ := hkept.visited hopen
        exact hvisited.acts hacts
    | spawn =>
        obtain ⟨later, hsubmit, rfl⟩ := Option.map_eq_some_iff.mp h
        have hstep := Pool.step_of_step? hsubmit
        refine ⟨Pool.pending_eq_of_step hstep hkept.pending, fun hlater => ?_⟩
        have hopen := Pool.open_of_step hstep hlater
        obtain ⟨missing, stored, hvisited⟩ := hkept.visited hopen
        obtain ⟨htasks, _, hshared⟩ := Pool.accepted_of_step hstep hopen
        refine ⟨missing, stored, ?_⟩
        show Visited web seed limit before later.shared
          (_ ::ₘ later.tasks) missing stored
        rw [htasks, hshared, Multiset.cons_swap]
        exact hvisited.spawn
    | finish => cases h

theorem kept_of_step? {crawl next : Crawl} {event : CrawlEvent}
    (h : crawl.step? web event = some next)
    (hkept : Kept web seed limit before crawl) :
    Kept web seed limit before next := by
  cases event with
  | own => exact kept_of_own h hkept
  | pool event =>
      obtain ⟨hsubmit, pool, hpool, rfl⟩ := pool_of_step? h
      have hstep := Pool.step_of_step? hpool
      refine ⟨Pool.pending_eq_of_step hstep hkept.pending, fun hlater => ?_⟩
      have hopen := Pool.open_of_step hstep hlater
      obtain ⟨missing, stored, hvisited⟩ := hkept.visited hopen
      exact kept_of_taskStep (Pool.taskStep_of_step hstep) hsubmit hopen
        hvisited

theorem kept_of_run? {crawl last : Crawl} {events : List CrawlEvent}
    (hkept : Kept web seed limit before crawl)
    (h : crawl.run? web events = some last) : Kept web seed limit before last :=
  run_keeps (Kept web seed limit before)
    (fun _ hkept hstep => kept_of_step? hstep hkept) hkept h

/-! ## The schedule that is taken -/

theorem step?_pool {web : Web} {event : PoolEvent Visit}
    (hsubmit : ∀ visit, event ≠ .submit visit) (crawl : Crawl) :
    crawl.step? web (.pool event) =
      (crawl.pool.step? (Visit.work web) event).map fun pool =>
        { crawl with pool } := by
  cases event with
  | submit visit => exact absurd rfl (hsubmit visit)
  | _ => rfl

/-- A run of the pool alone is a run of the crawl. -/
theorem run?_pool {web : Web} {crawl : Crawl} {last : Pool CrawlDesk Visit}
    {events : List (PoolEvent Visit)}
    (hsubmit : ∀ event ∈ events, ∀ visit, event ≠ .submit visit)
    (h : crawl.pool.run? (Visit.work web) events = some last) :
    crawl.run? web (events.map .pool) = some { crawl with pool := last } := by
  refine run_map (fun pool => { crawl with pool }) _ ?_ h
  intro pool event next hmem hstep
  rw [step?_pool (hsubmit event hmem), hstep]
  rfl

theorem exists_run?_complete (web : Web) (crawl : Crawl) : ∃ events,
    crawl.run? web events =
      some { crawl with pool := runOwn.complete web crawl.pool } := by
  rw [runOwn.complete]
  split
  · cases hnext : (crawl.pool.next? (Visit.work web)).bind
      (crawl.pool.step? (Visit.work web)) with
    | none => exact ⟨[], rfl⟩
    | some pool =>
        obtain ⟨event, hevent, hstep⟩ := Option.bind_eq_some_iff.mp hnext
        refine ⟨[.pool event], run_cons ?_ []⟩
        rw [step?_pool (Pool.ne_submit_of_next? hevent), hstep]
        rfl
  · exact ⟨[], rfl⟩

theorem exists_run?_runOwn (web : Web) (steps : Nat) : ∀ crawl : Crawl,
    ∃ events, crawl.run? web events = some (crawl.runOwn web steps) := by
  induction steps with
  | zero => exact fun crawl => ⟨[], rfl⟩
  | succ steps ih =>
      intro crawl
      rw [runOwn]
      split
      · next later hown =>
          obtain ⟨between, hbetween⟩ := exists_run?_complete web later
          obtain ⟨after, hafter⟩ :=
            ih { later with pool := runOwn.complete web later.pool }
          exact ⟨.own :: (between ++ after), (run_cons hown _).trans
            ((run_append hbetween after).trans hafter)⟩
      · exact ⟨[], rfl⟩

/-- The schedule that is taken is one of those that there are. -/
theorem exists_run?_run (web : Web) (crawl : Crawl) :
    ∃ events, crawl.run? web events = some (crawl.run web) := by
  obtain ⟨before, hbefore⟩ := exists_run?_runOwn web
    ((Visit.work web).cost crawl.own +
      (Visit.work web).reserve crawl.pool.shared) crawl
  obtain ⟨after, hafter, hquiet⟩ :=
    Pool.exists_run?_settleFor (Visit.work web) _ (crawl.runOwn web _).pool
  refine ⟨before ++ after.map .pool, (run_append hbefore _).trans ?_⟩
  exact run?_pool hquiet hafter

/-! ## The outcome -/

/-- What is so of a crawl that is over. -/
structure Outcome (web : Web) (seed : Url) (limit : Nat) (before : Index)
    (crawl : Crawl) : Prop where
  /-- As many pages were visited as can be reached, or as the limit allows. -/
  visited : (crawl.summary.visited : ℕ∞) =
    min (limit : ℕ∞) {url | Reached web seed url}.encard
  nodup : crawl.pool.shared.budget.visited.Nodup
  reached : ∀ url ∈ crawl.pool.shared.budget.visited, Reached web seed url
  /-- Those pages are indexed that are there. -/
  indexed : crawl.summary.indexed =
    (crawl.pool.shared.budget.visited.filter fun url =>
      (web.fetch? url).isSome).length
  pending : crawl.summary.pending = 0
  /-- The index has taken in one run of the stems of each. -/
  index : crawl.pool.shared.index =
    before.merge (Index.ofEdits (web.edits crawl.pool.shared.budget.visited))

theorem encard_of_nodup {urls : List Url} (h : urls.Nodup) :
    {url | url ∈ urls}.encard = (urls.length : ℕ∞) := by
  rw [← List.toFinset_card_of_nodup h, ← Set.encard_coe_eq_coe_finsetCard]
  congr 1
  ext url
  rw [Finset.mem_coe, List.mem_toFinset]
  rfl

/-- When nobody has a page left to read and something is left of the limit,
everything that can be reached was reserved. -/
theorem reserved_of_reached {desk : CrawlDesk} {missing stored : List Url}
    (h : Visited web seed limit before desk {.ended} missing stored)
    (hmore : desk.budget.remaining ≠ 1) {url : Url}
    (hurl : Reached web seed url) :
    url ∈ desk.budget.visited := by
  induction hurl with
  | seed => exact h.begun
  | @link page link source _ hsource hlink ih =>
      rcases h.closed _ ih with ⟨visit, hvisit, hunread⟩ | hlast | hlinks
      · rw [Multiset.mem_singleton.mp hvisit] at hunread
        cases hunread
      · exact absurd hlast hmore
      · have hcontent : web.content? page = some (.ofSource page source) :=
          congrArg _ hsource
        rw [← PageContent.links_ofSource] at hlink
        exact hlinks _ hcontent hlink

theorem visited_eq_min {desk : CrawlDesk} {missing stored : List Url}
    (h : Visited web seed limit before desk {.ended} missing stored) :
    (desk.budget.visited.length : ℕ∞) =
      min (limit : ℕ∞) {url | Reached web seed url}.encard := by
  have hle : (desk.budget.visited.length : ℕ∞) ≤
      {url | Reached web seed url}.encard := by
    rw [← encard_of_nodup h.nodup]
    exact Set.encard_le_encard h.reached
  have hspent := h.spent
  by_cases hlast : desk.budget.remaining = 1
  · have hlength : desk.budget.visited.length = limit := by omega
    rw [← hlength]
    exact (min_eq_left hle).symm
  · have hge : {url | Reached web seed url}.encard ≤
        (desk.budget.visited.length : ℕ∞) := by
      rw [← encard_of_nodup h.nodup]
      exact Set.encard_le_encard fun url hurl =>
        reserved_of_reached h hlast hurl
    have hlength : desk.budget.visited.length ≤ limit := by
      have hleft := h.left
      omega
    rw [min_eq_right (hge.trans (Nat.cast_le.mpr hlength))]
    exact le_antisymm hle hge

theorem ended_of_isOver {crawl : Crawl} (h : crawl.isOver = true) :
    crawl.own = .ended ∧ crawl.pool.pending = 0 := by
  obtain ⟨howned, hidle⟩ := (Bool.and_eq_true _ _).mp h
  refine ⟨?_, beq_iff_eq.mp hidle⟩
  split at howned
  · assumption
  · cases howned

theorem outcome_of_kept {crawl : Crawl}
    (hkept : Kept web seed limit before crawl) (hover : crawl.isOver = true)
    (hopen : crawl.pool.stopped = false) :
    Outcome web seed limit before crawl := by
  obtain ⟨missing, stored, hvisited⟩ := hkept.visited hopen
  obtain ⟨hown, hpending⟩ := ended_of_isOver hover
  have htasks : crawl.pool.tasks = 0 :=
    Multiset.card_eq_zero.mp (hkept.pending.symm.trans hpending)
  rw [visits, hown, htasks, Multiset.cons_zero] at hvisited
  have hperm : crawl.pool.shared.budget.visited.Perm (missing ++ stored) := by
    have hpages := hvisited.pages
    rw [show Visit.allPages {Visit.ended} = 0 from rfl, add_zero,
      Multiset.coe_add] at hpages
    exact Multiset.coe_eq_coe.mp hpages
  constructor
  case visited => exact visited_eq_min hvisited
  case nodup => exact hvisited.nodup
  case reached => exact hvisited.reached
  case indexed =>
      have hfetch : ∀ url,
          (web.fetch? url).isSome = (web.content? url).isSome :=
        fun url => Option.isSome_map.symm
      have hmissing :
          missing.filter (fun url => (web.fetch? url).isSome) = [] := by
        apply List.filter_eq_nil_iff.mpr
        intro url hurl
        rw [hfetch, hvisited.absent url hurl]
        exact Bool.false_ne_true
      have hstored : stored.filter (fun url => (web.fetch? url).isSome) =
          stored := by
        apply List.filter_eq_self.mpr
        intro url hurl
        rw [hfetch]
        exact hvisited.present url hurl
      rw [(hperm.filter _).length_eq, List.filter_append, hmissing, hstored,
        List.nil_append]
      exact hvisited.indexed
  case pending => exact hpending
  case index =>
      have hmissing : missing.flatMap web.records = [] := by
        apply List.flatMap_eq_nil_iff.mpr
        intro url hurl
        rw [Web.records, hvisited.absent url hurl]
      rw [web.merge_edits,
        Index.recordAll_perm _ (hperm.flatMap_right web.records),
        List.flatMap_append, hmissing, List.nil_append]
      exact hvisited.index

/-- With a limit for all pages that can be reached, those are what is
visited. -/
theorem Outcome.mem_visited {crawl : Crawl}
    (h : Outcome web seed limit before crawl)
    (hlimit : {url | Reached web seed url}.encard ≤ limit) (url : Url) :
    url ∈ crawl.pool.shared.budget.visited ↔ Reached web seed url := by
  have hcount : {url | url ∈ crawl.pool.shared.budget.visited}.encard =
      {url | Reached web seed url}.encard := by
    rw [encard_of_nodup h.nodup, ← min_eq_right hlimit]
    exact h.visited
  have hall : {url | url ∈ crawl.pool.shared.budget.visited} =
      {url | Reached web seed url} :=
    (List.finite_toSet _).eq_of_subset_of_encard_le h.reached hcount.ge
  exact Set.ext_iff.mp hall url

theorem Outcome.unique {crawl other : Crawl}
    (h : Outcome web seed limit before crawl)
    (hother : Outcome web seed limit before other)
    (hlimit : {url | Reached web seed url}.encard ≤ limit) :
    other.pool.shared.budget.visited.Perm crawl.pool.shared.budget.visited ∧
      other.summary = crawl.summary ∧
      other.pool.shared.index = crawl.pool.shared.index := by
  have hperm : other.pool.shared.budget.visited.Perm
      crawl.pool.shared.budget.visited := by
    apply (List.perm_ext_iff_of_nodup hother.nodup h.nodup).mpr
    intro url
    exact (hother.mem_visited hlimit url).trans (h.mem_visited hlimit url).symm
  refine ⟨hperm, ?_, ?_⟩
  · have hvisited : other.summary.visited = crawl.summary.visited :=
      hperm.length_eq
    have hindexed : other.summary.indexed = crawl.summary.indexed := by
      rw [hother.indexed, h.indexed, (hperm.filter _).length_eq]
    have hpending : other.summary.pending = crawl.summary.pending := by
      rw [hother.pending, h.pending]
    exact CrawlSummary.mk.injEq .. |>.mpr ⟨hvisited, hindexed, hpending⟩
  · rw [hother.index, h.index, web.merge_edits, web.merge_edits]
    exact Index.recordAll_perm _ (hperm.flatMap_right web.records)

/-- Whatever the order of steps, a crawl that is over has visited as many pages
as can be reached or as the limit allows, and indexed those that are there; and
with a limit for all pages its outcome is that of every other order. -/
theorem run_outcome {workers : Nat} {events : List CrawlEvent} {crawl : Crawl}
    (hlimit : 1 ≤ limit)
    (h : (start workers limit before seed).run? web events = some crawl)
    (hover : crawl.isOver = true) (hopen : crawl.pool.stopped = false) :
    Outcome web seed limit before crawl ∧
      ({url | Reached web seed url}.encard ≤ limit → ∀ workers' events' other,
        (start workers' limit before seed).run? web events' = some other →
        other.isOver = true → other.pool.stopped = false →
          other.pool.shared.budget.visited.Perm
              crawl.pool.shared.budget.visited ∧
            other.summary = crawl.summary ∧
            other.pool.shared.index = crawl.pool.shared.index) := by
  have hcrawl := outcome_of_kept
    (kept_of_run? (kept_start web workers before seed hlimit) h)
    hover hopen
  refine ⟨hcrawl, ?_⟩
  intro hall workers' events' other hrun hover' hopen'
  have hother := outcome_of_kept
    (kept_of_run? (kept_start web workers' before seed hlimit) hrun)
    hover' hopen'
  exact hcrawl.unique hother hall

/-- The address of a page on a host with a name of one letter. -/
def home : Url :=
  ⟨"http".toList, some ⟨[], "a".toList, none⟩, .steps [[]], none⟩

/-- A web of one page, with a link to a page that is not there. -/
def homeWeb : Web :=
  ⟨fun url =>
    if url = home then some "cat <a href=/b>dogs</a>".toList else none⟩

/-- The calling thread reads the page, and while it puts the terms into the
index a worker finds out that the other page is not there. -/
def homeSteps : List CrawlEvent :=
  [.own, .own, .own, .pool (.enqueue none), .pool (.move 0), .own,
    .pool (.move 0), .own, .pool (.move 0), .own]

theorem home_outcome : ∃ crawl,
    (start 1 5 .empty home).run? homeWeb homeSteps = some crawl ∧
    Outcome homeWeb home 5 .empty crawl ∧ crawl.summary = ⟨2, 1, 0⟩ ∧
    crawl.pool.shared.index.positions "cat" "http://a/" = [1] ∧
    crawl.pool.shared.index.positions "dog" "http://a/" = [2] ∧
    crawl.pool.shared.index.total "http://a/" = 2 := by
  have hstart : (start 1 5 .empty home).run? homeWeb homeSteps = some _ := rfl
  have houtcome := (run_outcome (by decide) hstart (by decide +kernel)
    (by decide +kernel)).1
  exact ⟨_, hstart, houtcome, by decide +kernel, by decide +kernel,
    by decide +kernel, by decide +kernel⟩

end Crawl

end Concordance
