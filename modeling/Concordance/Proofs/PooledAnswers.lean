import Concordance.Proofs.AnsweredLines
import Concordance.Proofs.ClaimedSearches
import Concordance.Proofs.PoolReady

/-!
# A pool gives the same answers

A thread has the lines of a file looked up on a pool, with a task for each line
that is not blank. The tasks race, and of those that are the same query all but
one find it answered or claimed and go away. Still no query is lost. While a
query that was asked for has no answer, one of the tasks that are owed is on
it: it has not asked for the claim yet, or it has the claim. A task that goes
away because of a claim leaves the one that has it behind, and `Register.Kept`
says that there is one.

When nothing is owed, every query that was asked for is answered, and what is
answered was answered before or is the hits of a search. So the answers are
extended by the lines, and that is what going through them one after the other
comes to.
-/

namespace Concordance

open Answers (Adds Extend)

/-- An index whose searches neither fail nor are held. -/
structure Desk.Open (index : Index) (desk : Desk) : Prop where
  index : desk.probe.index = index
  failures : desk.probe.failures = 0
  holding : desk.probe.holding = false

namespace Lookup

/-! ## Lookups go on to their end -/

theorem begin_of_open {index : Index} {desk : Desk} {probe : Probe}
    {begun : Bool} (h : desk.Open index)
    (hbegin : desk.probe.begin = (probe, begun)) :
    begun = true ∧ Desk.Open index { desk with probe } := by
  obtain ⟨hbegun, rfl⟩ := Probe.eq_of_begin h.failures hbegin
  exact ⟨hbegun, h.index, rfl, h.holding⟩

theorem open_of_step {index : Index} {desk after : Desk} {lookup rest : Lookup}
    (h : Step desk lookup after rest) (hopen : desk.Open index) :
    after.Open index := by
  cases h with
  | begin hbegin => exact (begin_of_open hopen hbegin).2
  | fail hbegin => exact (begin_of_open hopen hbegin).2
  | claim => exact ⟨hopen.index, hopen.failures, hopen.holding⟩
  | fill => exact ⟨hopen.index, hopen.failures, hopen.holding⟩
  | release => exact ⟨hopen.index, hopen.failures, hopen.holding⟩
  | blank => exact hopen
  | cached => exact hopen
  | persist => exact hopen
  | leave => exact hopen
  | find => exact hopen
  | answer => exact hopen
  | giveUp => exact hopen

theorem stepsLeft_of_step {desk after : Desk} {lookup rest : Lookup}
    (h : Step desk lookup after rest) : rest.stepsLeft < lookup.stepsLeft := by
  cases h <;> simp [stepsLeft]

theorem move_ne_wait {desk : Desk} (h : desk.probe.holding = false)
    (lookup : Lookup) : lookup.move desk ≠ .wait := by
  obtain ⟨mode, called, stage⟩ := lookup
  have hstep : (∀ hits, stage ≠ .answered hits) → stage ≠ .failed →
      step? desk ⟨mode, called, stage⟩ ≠ none := by
    intro hanswered hfailed
    cases stage with
    | fresh line =>
        simp only [step?]
        split <;> exact Option.some_ne_none _
    | ready => exact Option.some_ne_none _
    | searching =>
        simp only [step?, h, Bool.false_and, Bool.false_eq_true, if_false]
        exact Option.some_ne_none _
    | found => exact Option.some_ne_none _
    | crashed => exact Option.some_ne_none _
    | answered hits => exact absurd rfl (hanswered hits)
    | failed => exact absurd rfl hfailed
  unfold move
  split
  · simp
  · simp
  · next hanswered hfailed =>
      split
      · simp
      · next hnone => exact absurd hnone (hstep hanswered hfailed)

/-- A lookup that ends has no claim and is not about to ask for one. -/
theorem ended_of_move {desk : Desk} {lookup : Lookup} {ending : Ending}
    (h : work.move desk lookup = .finish ending) :
    (∀ line, lookup.stage ≠ .fresh line) ∧ lookup.claim? = none ∧
      lookup.find? = none := by
  have hmoves := moves desk lookup
  rw [show lookup.move desk = .finish ending from h] at hmoves
  cases hmoves with
  | answered => exact ⟨fun _ => by simp, rfl, rfl⟩
  | failed => exact ⟨fun _ => by simp, rfl, rfl⟩

/-- At an open desk a lookup goes on to its end. -/
theorem steady (index : Index) : Lookup.work.Steady (Desk.Open index) := by
  intro desk lookup hopen
  show Lookup.work.SteadyMove _ lookup (lookup.move desk)
  have hwait := move_ne_wait hopen.holding lookup
  have hmoves := moves desk lookup
  generalize lookup.move desk = move at hwait hmoves
  cases hmoves with
  | act hstep =>
      exact .act (open_of_step hstep hopen)
        (Nat.succ_lt_succ (stepsLeft_of_step hstep))
  | wait => exact absurd rfl hwait
  | answered => exact .finish
  | failed => exact .finish

end Lookup

/-! ## What racing lookups keep -/

/-- What a lookup is up to, given the answers that there were before and the
lines that are looked up. -/
def Lookup.Serves (index : Index) (mode : Mode) (before : Answers)
    (lines : List String) (lookup : Lookup) : Prop :=
  lookup.mode = mode ∧ lookup.called = false ∧
    match lookup.stage with
    | .fresh line => line ∈ lines
    | .ready query claimed | .searching query claimed =>
        claimed = true ∧ Asked lines query ∧ before.get? query.key = none
    | .found query claimed hits =>
        claimed = true ∧ Asked lines query ∧ before.get? query.key = none ∧
          hits = index.search mode query.terms
    | .crashed .. => False
    | .answered _ | .failed => True

/-- A lookup is about to ask for the claim on a query, or has it. -/
def Lookup.IsOn (query : Query) (lookup : Lookup) : Prop :=
  (∃ line, lookup.stage = .fresh line ∧ Query.ofLine? line = some query) ∨
    lookup.claim? = some query.key

/-- What every step keeps of the desk and the lookups that are owed. -/
structure Serving (index : Index) (mode : Mode) (before : Answers)
    (lines : List String) (desk : Desk) (owed : Multiset Lookup) : Prop where
  kept : ∃ register, Register.Kept desk.cache owed register
  /-- What is answered was so before, or a search of a query asked for. -/
  sound : ∀ key hits, desk.cache.answers.get? key = some hits →
    before.get? key = some hits ∨ Adds index mode lines before key hits
  stay : before.StayIn desk.cache.answers
  serves : ∀ lookup ∈ owed, lookup.Serves index mode before lines
  /-- Of each query asked for there is an answer, or someone on it. -/
  covered : ∀ query, Asked lines query →
    (∃ hits, desk.cache.answers.get? query.key = some hits) ∨
      ∃ lookup ∈ owed, lookup.IsOn query

/-! ## A register to begin with -/

namespace Register

/-- A register in which the answers there are were searched for. -/
def ofAnswers (answers : Answers) : Register :=
  ⟨answers.entries.map fun (key, hits) => ⟨.caller 0, key, true, some hits⟩, []⟩

theorem finds_ofAnswers (answers : Answers) :
    (ofAnswers answers).finds = answers.entries := by
  rw [finds, ofAnswers, List.filterMap_map]
  exact List.filterMap_some

theorem kept_ofAnswers {cache : QueryCache} (h : cache.searching = [])
    (mode : Mode) (lines : List String) :
    (ofAnswers cache.answers).Kept cache
      ↑(lines.map (Lookup.ofLine mode false)) := by
  induction lines with
  | nil =>
      refine ⟨?_, ?_, ?_, ?_⟩
      · intro key hkey
        rw [h] at hkey
        cases hkey
      · rw [h]
        rfl
      · rw [h]
        exact List.nodup_nil
      · rw [finds_ofAnswers]
        exact (add_zero _).symm
  | cons line lines ih => exact ih.fresh mode false line

end Register

namespace Serving

variable {index : Index} {mode : Mode} {before : Answers} {lines : List String}
  {desk after : Desk} {lookup rest : Lookup} {others : Multiset Lookup}

/-- Someone holds the claim on a key that is being searched. -/
theorem claimant (h : Serving index mode before lines desk others)
    {key : String} (hkey : key ∈ desk.cache.searching) :
    ∃ lookup ∈ others, lookup.claim? = some key := by
  obtain ⟨register, hkept⟩ := h.kept
  rw [← Multiset.mem_coe, hkept.claims] at hkey
  exact (Multiset.mem_filterMap _ _).mp hkey

/-- What a step does with the answers and with the lookup that takes it is all
that has to be looked at. -/
theorem of_act (h : Serving index mode before lines desk (lookup ::ₘ others))
    (hstep : Lookup.Step desk lookup after rest)
    (hsound : ∀ key hits, after.cache.answers.get? key = some hits →
      desk.cache.answers.get? key = some hits ∨
        Adds index mode lines before key hits)
    (hserves : rest.Serves index mode before lines)
    (hon : ∀ query, lookup.IsOn query →
      (∃ hits, after.cache.answers.get? query.key = some hits) ∨
        ∃ other ∈ rest ::ₘ others, other.IsOn query) :
    Serving index mode before lines after (rest ::ₘ others) := by
  obtain ⟨register, hkept⟩ := h.kept
  have hstay := Register.stayIn_of_step hstep hkept
  refine ⟨⟨_, Register.kept_of_step (.worker 0) hstep hkept⟩, ?_, ?_, ?_, ?_⟩
  · intro key hits hhits
    rcases hsound key hits hhits with hbefore | hnew
    · exact h.sound key hits hbefore
    · exact .inr hnew
  · exact fun key hits hhits => hstay key hits (h.stay key hits hhits)
  · intro other hother
    rcases Multiset.mem_cons.mp hother with rfl | hmem
    · exact hserves
    · exact h.serves other (Multiset.mem_cons_of_mem hmem)
  · intro query hquery
    rcases h.covered query hquery with ⟨hits, hhits⟩ | ⟨other, hother, hson⟩
    · exact .inl ⟨hits, hstay _ _ hhits⟩
    · rcases Multiset.mem_cons.mp hother with rfl | hmem
      · exact hon query hson
      · exact .inr ⟨other, Multiset.mem_cons_of_mem hmem, hson⟩

theorem isOn_fresh {mode : Mode} {called : Bool} {line : String} {query : Query}
    (h : Lookup.IsOn query ⟨mode, called, .fresh line⟩) :
    Query.ofLine? line = some query := by
  rcases h with ⟨same, hstage, hquery⟩ | hclaim
  · cases hstage
    exact hquery
  · cases hclaim

/-- The one step that answers a query. -/
theorem fill {called : Bool} {given : Mode} {query : Query} {hits : List Hit}
    (h : Serving index mode before lines desk
      (⟨given, called, .found query true hits⟩ ::ₘ others)) :
    Serving index mode before lines
      { desk with cache := desk.cache.fill query.key hits }
      (⟨given, called, .answered hits⟩ ::ₘ others) := by
  obtain ⟨hmode, hcalled, -, hasked, hbefore, hhits⟩ :=
    h.serves _ (Multiset.mem_cons_self ..)
  have hget : ∀ key, (desk.cache.fill query.key hits).answers.get? key =
      if key = query.key then some hits else desk.cache.answers.get? key :=
    fun key => SortedMap.get?_insert ..
  refine h.of_act .fill ?_ ⟨hmode, hcalled, trivial⟩ ?_
  · intro key found hfound
    rw [hget] at hfound
    split at hfound
    · next hkey =>
        subst hkey
        cases hfound
        exact .inr ⟨hbefore, query, hasked, rfl, hhits⟩
    · exact .inl hfound
  · rintro found (⟨line, hline, -⟩ | hclaim)
    · cases hline
    · have hkey : query.key = found.key := Option.some.inj hclaim
      exact .inl ⟨hits, (hget _).trans (if_pos hkey.symm)⟩

theorem act (hopen : desk.Open index)
    (h : Serving index mode before lines desk (lookup ::ₘ others))
    (hstep : Lookup.Step desk lookup after rest) :
    Serving index mode before lines after (rest ::ₘ others) := by
  obtain ⟨hmode, hcalled, hstage⟩ := h.serves lookup (Multiset.mem_cons_self ..)
  -- Who keeps the claim stays on the query.
  have hclaims : (∀ line, lookup.stage ≠ .fresh line) →
      rest.claim? = lookup.claim? → ∀ query, lookup.IsOn query →
      (∃ hits, after.cache.answers.get? query.key = some hits) ∨
        ∃ other ∈ rest ::ₘ others, other.IsOn query := by
    intro hfresh hclaim query hson
    refine .inr ⟨rest, Multiset.mem_cons_self .., .inr ?_⟩
    rcases hson with ⟨line, hline, -⟩ | hson
    · exact absurd hline (hfresh line)
    · rw [hclaim, hson]
  cases hstep with
  | blank hline =>
      refine h.of_act (.blank hline) (fun _ _ => .inl)
        ⟨hmode, hcalled, trivial⟩ ?_
      intro query hson
      rw [isOn_fresh hson] at hline
      cases hline
  | cached hline hhits =>
      refine h.of_act (.cached hline hhits) (fun _ _ => .inl)
        ⟨hmode, hcalled, trivial⟩ ?_
      intro query hson
      rw [isOn_fresh hson] at hline
      cases hline
      exact .inl ⟨_, hhits⟩
  | @claim _ _ line query hline hnone hfree =>
      have hbefore : before.get? query.key = none := by
        cases hget : before.get? query.key with
        | none => rfl
        | some hits =>
            rw [h.stay _ _ hget] at hnone
            cases hnone
      refine h.of_act (.claim hline hnone hfree) (fun _ _ => .inl)
        ⟨hmode, hcalled, rfl, ⟨line, hstage, hline⟩, hbefore⟩ ?_
      intro found hson
      rw [isOn_fresh hson] at hline
      cases hline
      exact .inr ⟨_, Multiset.mem_cons_self .., .inr rfl⟩
  | persist => cases hcalled
  | @leave _ line query hline hnone hbusy =>
      refine h.of_act (.leave hline hnone hbusy) (fun _ _ => .inl)
        ⟨hmode, hcalled, trivial⟩ ?_
      intro found hson
      rw [isOn_fresh hson] at hline
      cases hline
      obtain ⟨other, hother, hclaim⟩ := h.claimant hbusy
      rcases Multiset.mem_cons.mp hother with rfl | hmem
      · cases hclaim
      · exact .inr ⟨other, Multiset.mem_cons_of_mem hmem, .inr hclaim⟩
  | begin hbegin =>
      exact h.of_act (.begin hbegin) (fun _ _ => .inl)
        ⟨hmode, hcalled, hstage⟩ (hclaims (fun _ => by simp) rfl)
  | fail hbegin =>
      cases (Lookup.begin_of_open hopen hbegin).1
  | find =>
      obtain ⟨hclaimed, hasked, hbefore⟩ := hstage
      refine h.of_act .find (fun _ _ => .inl)
        ⟨hmode, hcalled, hclaimed, hasked, hbefore, ?_⟩
        (hclaims (fun _ => by simp) rfl)
      rw [← hmode, ← hopen.index]
      rfl
  | fill => exact h.fill
  | answer => cases hstage.1
  | release => exact hstage.elim
  | giveUp => exact hstage.elim

/-- A lookup that ends is on no query. -/
theorem finish {ending : Ending}
    (hmove : Lookup.work.move desk lookup = .finish ending)
    (h : Serving index mode before lines desk (lookup ::ₘ others)) :
    Serving index mode before lines desk others := by
  obtain ⟨hfresh, hclaim, hfind⟩ := Lookup.ended_of_move hmove
  obtain ⟨register, hkept⟩ := h.kept
  refine ⟨⟨register, hkept.ended hclaim hfind⟩, h.sound, h.stay,
    fun other hother => h.serves other (Multiset.mem_cons_of_mem hother), ?_⟩
  intro query hquery
  refine (h.covered query hquery).imp_right ?_
  rintro ⟨other, hother, hson⟩
  rcases Multiset.mem_cons.mp hother with rfl | hmem
  · rcases hson with ⟨line, hline, -⟩ | hkey
    · exact absurd hline (hfresh line)
    · rw [hclaim] at hkey
      cases hkey
  · exact ⟨other, hmem, hson⟩

/-- Before anything is looked up every task is still to ask for its claim. -/
theorem start (hsearching : desk.cache.searching = []) (mode : Mode)
    (lines : List String) :
    Serving index mode desk.cache.answers lines desk
      ↑(lines.map (Lookup.ofLine mode false)) where
  kept := ⟨_, Register.kept_ofAnswers hsearching mode lines⟩
  sound := fun _ _ => .inl
  stay := fun _ _ h => h
  serves := by
    intro lookup hlookup
    obtain ⟨line, hline, rfl⟩ := List.mem_map.mp (Multiset.mem_coe.mp hlookup)
    exact ⟨rfl, rfl, hline⟩
  covered := by
    rintro query ⟨line, hline, hquery⟩
    refine .inr ⟨_, Multiset.mem_coe.mpr (List.mem_map_of_mem hline), ?_⟩
    exact .inl ⟨line, rfl, hquery⟩

/-- When nothing is owed any more the lines have extended the answers. -/
theorem extend (h : Serving index mode before lines desk 0) :
    Extend index mode lines before desk.cache.answers ∧
      desk.cache.searching = [] := by
  constructor
  · intro key hits
    refine ⟨h.sound key hits, ?_⟩
    rintro (hbefore | ⟨hnone, query, hasked, rfl, rfl⟩)
    · exact h.stay key hits hbefore
    · rcases h.covered query hasked with ⟨found, hfound⟩ | ⟨_, hnobody, -⟩
      · rw [hfound]
        rcases h.sound _ _ hfound with
          hbefore | ⟨-, same, hsame, hkey, rfl⟩
        · rw [hnone] at hbefore
          cases hbefore
        · rw [hasked.eq_of_key hsame hkey]
      · cases hnobody
  · obtain ⟨register, hkept⟩ := h.kept
    have hclaims := hkept.claims
    rw [Multiset.filterMap_zero] at hclaims
    exact (Multiset.coe_eq_zero _).mp hclaims

end Serving

/-! ## The lines of a file on a pool -/

namespace PooledQueries

variable {index : Index} {queries : PooledQueries}

/-- The lines that are left out are no queries. -/
theorem asked_nonblank {lines : List String} {query : Query} :
    Asked (nonblank lines) query ↔ Asked lines query := by
  constructor
  · rintro ⟨line, hline, hquery⟩
    exact ⟨line, (List.mem_filter.mp hline).1, hquery⟩
  · rintro ⟨line, hline, hquery⟩
    refine ⟨line, List.mem_filter.mpr ⟨hline, ?_⟩, hquery⟩
    rw [Bool.not_eq_true', List.isEmpty_eq_false_iff]
    intro hblank
    rw [Query.ofLine?_of_blank hblank] at hquery
    cases hquery

/-- Whoever gets through with having the lines of a file looked up finds the
answers extended by them, and the pool ready again. -/
theorem asking_extend (hready : queries.Ready) (hopen : queries.stopped = false)
    (hdesk : queries.shared.Open index)
    (hfree : queries.shared.cache.searching = []) {mode : Mode}
    {file : QueryFile} {events : List (ClientEvent Lookup)}
    {last : Client Desk Lookup}
    (h : (queries.asking mode file).run? Lookup.work events = some last)
    (hover : last.isOver = true) :
    last.pool.Ready ∧ last.pool.stopped = false ∧
      last.pool.shared.Open index ∧
      last.pool.shared.cache.searching = [] ∧
      Extend index mode file.lines queries.answers (answers last.pool) := by
  obtain ⟨hagain, hstill, hafter, hserving⟩ := Client.asking_outcome
    (Lookup.steady index)
    (Serving index mode queries.answers (nonblank file.lines))
    (fun hopen hmove hserving =>
      hserving.act hopen (Lookup.step_of_move hmove))
    (fun _ hmove hserving => hserving.finish hmove)
    hready hopen hdesk (Serving.start hfree mode _) h hover
  obtain ⟨hextend, hnone⟩ := hserving.extend
  exact ⟨hagain, hstill, hafter, hnone,
    hextend.congr fun _ => asked_nonblank⟩

theorem asking_inevitably (hready : queries.Ready)
    (hdesk : queries.shared.Open index) (mode : Mode) (file : QueryFile) :
    Inevitably (Client.step? Lookup.work) (·.isOver = true)
      (queries.asking mode file) :=
  (Client.fit_asking hready hdesk _).inevitably (Lookup.steady index)

/-- The usual schedule is one of the schedules. -/
theorem takeFile_extend (hready : queries.Ready)
    (hopen : queries.stopped = false) (hdesk : queries.shared.Open index)
    (hfree : queries.shared.cache.searching = []) (mode : Mode) (tree : Tree)
    (path : String) :
    Extend index mode (tree.queryFile path).lines queries.answers
      (answers (queries.takeFile mode tree path).1) := by
  obtain ⟨hover, events, hrun⟩ :=
    (Client.fit_asking hready hdesk _).complete (Lookup.steady index)
  obtain ⟨-, -, -, -, hextend⟩ :=
    asking_extend hready hopen hdesk hfree hrun hover
  exact hextend

/-- A thread that has the lines of a file looked up on a pool without a pending
task gets through on every schedule. When it does, the answers are those that
the lines give one after the other, and nothing is being searched. If the file
can be read to its end, these are the answers there were, and for each segment
between line feeds that is text and a query without an answer the hits of its
search. If the file cannot be opened, they are as they were. -/
theorem asking_agrees {used : Work Desk Lookup} {workers : Nat} {desk : Desk}
    {before : List (PoolEvent Lookup)}
    (hused : (Pool.start workers desk).run? used before = some queries)
    (hidle : queries.pending = 0) (hopen : queries.stopped = false)
    (hfree : queries.shared.cache.searching = [])
    (hdesk : queries.shared.Open index) {inline : InlineQueries}
    (hindex : inline.probe.index = index)
    (hfailures : inline.probe.failures = 0)
    (hsame : inline.answers = queries.answers)
    (mode : Mode) (tree : Tree) (path : String) :
    Inevitably (Client.step? Lookup.work) (·.isOver = true)
        (queries.asking mode (tree.queryFile path)) ∧
      (∀ events last,
        (queries.asking mode (tree.queryFile path)).run? Lookup.work events =
          some last →
        last.isOver = true →
          answers last.pool = (inline.takeFile mode tree path).1.1.answers ∧
          last.pool.shared.cache.searching = []) ∧
      (inline.takeFile mode tree path).1.2 = true ∧
      (inline.takeFile mode tree path).2 = (tree.queryFile path).error? ∧
      (∀ content, tree.open? path = .ok ⟨content, none⟩ →
        (tree.queryFile path).error? = none ∧
        ∀ key hits,
          (inline.takeFile mode tree path).1.1.answers.get? key = some hits ↔
            inline.answers.get? key = some hits ∨
            inline.answers.get? key = none ∧ ∃ query,
              (∃ segment text, Text.IsSegment content segment ∧
                Text.Utf8.decode? segment = some text ∧
                Query.ofLine? (.ofList text) = some query) ∧
              query.key = key ∧ hits = index.search mode query.terms) ∧
      ∀ fault, tree.open? path = .error fault →
        (tree.queryFile path).error? = some ⟨path, fault⟩ ∧
        (inline.takeFile mode tree path).1.1.answers = inline.answers := by
  have hready := Pool.ready_of_run before hused hidle
  obtain ⟨hgood, herror, hextend⟩ :=
    InlineQueries.takeFile_extend hfailures mode tree path
  rw [hindex] at hextend
  refine ⟨asking_inevitably hready hdesk mode _, ?_, hgood, herror, ?_, ?_⟩
  · intro events last h hover
    obtain ⟨-, -, -, hnone, hpooled⟩ :=
      asking_extend hready hopen hdesk hfree h hover
    rw [← hsame] at hpooled
    exact ⟨hpooled.unique hextend, hnone⟩
  · intro content hcontent
    have hfile : tree.queryFile path =
        ⟨textLines (Text.byteLines content), none⟩ := by
      rw [Tree.queryFile, hcontent]
      rfl
    rw [hfile] at hextend ⊢
    refine ⟨rfl, fun key hits => ?_⟩
    simpa only [Adds, asked_byteLines] using hextend key hits
  · intro fault hfault
    have hfile : tree.queryFile path = ⟨[], some ⟨path, fault⟩⟩ := by
      rw [Tree.queryFile, hfault]
    rw [hfile] at hextend ⊢
    exact ⟨rfl, hextend.unique Answers.extend_nil⟩

/-- A file of the same query twice, with lines between that are no text, blank,
without a letter, and another query. -/
def petQueries : Tree :=
  .dir [("q", .file [0x43, 0x61, 0x74, 0x73, 0x0D, 0x0A, 0xFF, 0x0A, 0x20, 0x0A,
    0x63, 0x61, 0x74, 0x0A, 0x37, 0x0A, 0x64, 0x6F, 0x67])]

/-- Where the pets are. -/
def pets : Index := (Index.empty.add "cat" "a" 1).add "dog" "b" 1

/-- Two workers on the lines of this file. One of them is told that the other
has the claim, and does the rest before the other goes on. -/
def petLookups : List (ClientEvent Lookup) :=
  [.own, .pool (.enqueue none), .own, .pool (.enqueue none),
    .own, .pool (.enqueue none), .own, .pool (.enqueue none), .own, .own,
    .pool (.move 0), .pool (.move 1), .pool (.move 0), .pool (.move 1),
    .pool (.move 1), .pool (.move 1), .pool (.move 1), .pool (.move 1),
    .pool (.move 1), .pool (.move 1), .pool (.move 1), .pool (.move 1),
    .pool (.move 1), .pool (.move 1), .pool (.move 0), .pool (.move 0),
    .pool (.move 0), .pool (.move 0), .own, .own]

theorem petLookups_agrees :
    (∃ last, ((start 2 pets).asking .exactly (petQueries.queryFile "q")).run?
        Lookup.work petLookups = some last ∧
      last.isOver = true ∧ (answers last.pool).keys = ["cat", "dog"] ∧
      answers last.pool = ((InlineQueries.ofIndex pets).takeFile .exactly
        petQueries "q").1.1.answers) ∧
    ((InlineQueries.ofIndex pets).takeFile .exactly petQueries "q").2 =
      (petQueries.queryFile "q").error? := by
  have hover : (((start 2 pets).asking .exactly (petQueries.queryFile "q")).run?
      Lookup.work petLookups).map (fun last =>
        (last.isOver, (answers last.pool).keys)) =
      some (true, ["cat", "dog"]) := by
    decide +kernel
  obtain ⟨last, hrun, hlast⟩ := Option.map_eq_some_iff.mp hover
  rw [Prod.mk.injEq] at hlast
  have hused : (start 2 pets).run? Lookup.work [] = some (start 2 pets) := rfl
  have hdesk : (start 2 pets).shared.Open pets := ⟨rfl, rfl, rfl⟩
  have hsame : (InlineQueries.ofIndex pets).answers = (start 2 pets).answers :=
    rfl
  obtain ⟨-, hagrees, -, herror, -⟩ := asking_agrees hused rfl rfl rfl hdesk
    rfl rfl hsame .exactly petQueries "q"
  exact ⟨⟨last, hrun, hlast.1, hlast.2,
    (hagrees petLookups last hrun hlast.1).1⟩, herror⟩

end PooledQueries

end Concordance
