import Mathlib.Data.Prod.Lex
import Concordance.Command.Run
import Concordance.Proofs.PooledAnswers
import Concordance.Proofs.PooledBuild
import Concordance.Proofs.ThreadedWords

/-!
# A run on a pool ends like one without

Whatever its workers do and in which order, a run on a pool comes to its end,
and there it has written the same files and made the same complaints as a run
that does one thing after the other (`Options.runInOrder`). In each stage the
run is one thread that uses the pool, so it gets through the stage and finds the
index, or the answers, that the files or lines give one after the other. What it
does between the stages depends on these alone.

Only a crawl has no counterpart in a run without a pool. Where there is none,
the two kinds of run are the same.
-/

namespace Concordance

/-! ## One thing after the other -/

namespace Options

/-- The index of the texts, one file after the other. -/
def indexed (options : Options) (tree : Tree) : Index :=
  (Index.empty.addFiles tree ((options.textFiles tree).1.getD [])).1

/-- The index of the texts and of the pages of a crawl. -/
def gathered (options : Options) (web : Web) (tree : Tree) : Index :=
  (options.crawled web (options.indexed tree)).1

/-- What was done before the queries are searched. -/
def saved (options : Options) (web : Web) (tree : Tree) : Progress :=
  options.saveIndex (options.gathered web tree)
    ⟨tree, (options.textFiles tree).2 ++
      (options.crawled web (options.indexed tree)).2⟩

/-- A run with all stages, in which one thing is done after the other. -/
def runInOrder (options : Options) (web : Web) (tree : Tree) : Report :=
  let index := options.gathered web tree
  let progress := options.saved web tree
  let (answers, error?) := options.answered progress.tree index
  options.report index answers error? progress

theorem runInOrder_eq (options : Options) (web : Web) (tree : Tree) :
    options.runInOrder web tree =
      options.report (options.gathered web tree)
        (options.answered (options.saved web tree).tree
          (options.gathered web tree)).1
        (options.answered (options.saved web tree).tree
          (options.gathered web tree)).2
        (options.saved web tree) :=
  rfl

/-- Without a crawl these are the stages of a run without a pool. -/
theorem runInOrder_eq_runSingle {options : Options} (hhtml : options.html? = none)
    (web : Web) (tree : Tree) :
    options.runInOrder web tree = options.runSingle tree := by
  have hcrawled : ∀ index, options.crawled web index = (index, []) := by
    intro index
    rw [crawled, hhtml]
  unfold runInOrder saved gathered
  simp only [hcrawled, List.append_nil]
  rfl

end Options

/-! ## The stages -/

namespace Indexing

variable {options : Options} {tree : Tree} {client : Client Index FileTask}

theorem client_start (options : Options) (tree : Tree) :
    (start options tree).client =
      (options.textFiles tree).1.elim
        (.start (.start options.workers .empty) [])
        (.indexing (.start options.workers .empty)) :=
  rfl

theorem fit_start (options : Options) (tree : Tree) :
    (start options tree).client.Fit fun _ => True := by
  have hready := Pool.ready_start (τ := FileTask) options.workers Index.empty
  rw [client_start]
  cases (options.textFiles tree).1 with
  | none => exact Client.fit_start hready trivial rfl rfl
  | some paths => exact Client.fit_asking hready trivial _

/-- When the files are indexed, the index is that of one after the other. -/
theorem outcome_start
    (h : (start options tree).client.Reaches (FileTask.work tree) client)
    (hover : client.isOver = true) :
    client.pool.Ready ∧ client.pool.stopped = false ∧
      client.pool.shared = options.indexed tree := by
  obtain ⟨events, hrun⟩ := h
  have hready := Pool.ready_start (τ := FileTask) options.workers Index.empty
  rw [client_start] at hrun
  unfold Options.indexed
  cases hpaths : (options.textFiles tree).1 with
  | none =>
      rw [hpaths] at hrun
      exact Client.idle_outcome (FileTask.steady tree) hready rfl trivial hrun
        hover
  | some paths =>
      rw [hpaths] at hrun
      exact Client.indexing_outcome hready rfl hrun hover

end Indexing

namespace Searching

variable {options : Options} {index : Index} {queries : PooledQueries}
  {progress : Progress} {client : Client Desk Lookup}

theorem progress_start (options : Options) (queries : PooledQueries)
    (progress : Progress) :
    (start options queries progress).progress = progress := by
  unfold start
  split <;> rfl

/-- What is wrong with the file of queries is no matter of the pool. -/
theorem error?_start (options : Options) (index : Index)
    (queries : PooledQueries) (progress : Progress) :
    (start options queries progress).error? =
      (options.answered progress.tree index).2 := by
  have hfailures : (InlineQueries.ofIndex index).probe.failures = 0 := rfl
  unfold start Options.queryFile? Options.answered
  cases options.query? with
  | none => rfl
  | some path =>
      obtain ⟨-, herror, -⟩ := InlineQueries.takeFile_extend hfailures
        options.mode progress.tree path
      exact herror.symm

theorem fit_start (hready : queries.Ready)
    (hshared : queries.shared = ⟨.ofIndex index, .empty⟩) (options : Options)
    (progress : Progress) :
    (start options queries progress).client.Fit (Desk.Open index) := by
  have hdesk : queries.shared.Open index := by
    rw [hshared]
    exact ⟨rfl, rfl, rfl⟩
  unfold start
  split
  · exact Client.fit_start hready hdesk rfl (by cases queries.stopped <;> rfl)
  · exact Client.fit_asking hready hdesk _

/-- When the queries are searched, the answers are those of one line after the
other. -/
theorem outcome_start (hready : queries.Ready) (hopen : queries.stopped = false)
    (hshared : queries.shared = ⟨.ofIndex index, .empty⟩)
    (h : (start options queries progress).client.Reaches Lookup.work client)
    (hover : client.isOver = true) :
    client.pool.Ready ∧ client.pool.shared.Open index ∧
      PooledQueries.answers client.pool =
        (options.answered progress.tree index).1 := by
  obtain ⟨events, hrun⟩ := h
  have hdesk : queries.shared.Open index := by
    rw [hshared]
    exact ⟨rfl, rfl, rfl⟩
  unfold start Options.queryFile? at hrun
  unfold Options.answered
  cases hquery : options.query? with
  | none =>
      rw [hquery] at hrun
      obtain ⟨hagain, -, hsame⟩ := Client.idle_outcome (Lookup.steady index)
        hready hopen hdesk hrun hover
      rw [PooledQueries.answers, hsame, hshared]
      exact ⟨hagain, ⟨rfl, rfl, rfl⟩, rfl⟩
  | some path =>
      rw [hquery] at hrun
      obtain ⟨hagain, -, hafter, -, hpooled⟩ := PooledQueries.asking_extend
        hready hopen hdesk (by rw [hshared]; rfl) hrun hover
      have hfailures : (InlineQueries.ofIndex index).probe.failures = 0 := rfl
      obtain ⟨-, -, hinline⟩ := InlineQueries.takeFile_extend hfailures
        options.mode progress.tree path
      refine ⟨hagain, hafter, ?_⟩
      rw [PooledQueries.answers, hshared] at hpooled
      exact hpooled.unique hinline

end Searching

/-! ## The way through the stages -/

/-- When the files are indexed, the search begins with what a run in order has
got by then. -/
theorem Indexing.proceed_eq {options : Options} {tree : Tree}
    {client : Client Index FileTask}
    (hshared : client.pool.shared = options.indexed tree) (web : Web) :
    Indexing.proceed options web ⟨client, ⟨tree, (options.textFiles tree).2⟩⟩ =
      .start options
        (client.pool.reassign ⟨.ofIndex (options.gathered web tree), .empty⟩)
        (options.saved web tree) := by
  unfold proceed
  rw [hshared]
  rfl

/-- When the queries are searched, all is known that is reported. -/
theorem Searching.proceed_eq {options : Options} {web : Web} {tree : Tree}
    (queries : PooledQueries) {client : Client Desk Lookup}
    (hindex : client.pool.shared.probe.index = options.gathered web tree)
    (hanswers : PooledQueries.answers client.pool =
      (options.answered (options.saved web tree).tree
        (options.gathered web tree)).1) :
    Searching.proceed options
        { start options queries (options.saved web tree) with client } =
      ⟨.start client.pool (Order.shutDown ++ Order.shutDown),
        options.runInOrder web tree⟩ := by
  rw [Options.runInOrder_eq, ← hanswers,
    ← error?_start options (options.gathered web tree) queries]
  unfold proceed
  dsimp only
  rw [hindex, progress_start]

theorem Closing.fit_start {index : Index} {queries : PooledQueries}
    (hready : queries.Ready) (hdesk : queries.shared.Open index) :
    Client.Fit (Desk.Open index)
      (.start queries (Order.shutDown ++ Order.shutDown)) := by
  refine Client.fit_start hready hdesk rfl ?_
  cases queries.stopped <;> rfl

namespace Session

variable {options : Options} {tree : Tree} {web : Web} {session next : Session}

/-- A run on a pool that is as far as one in order, or on its way there. -/
inductive OnCourse (options : Options) (web : Web) (tree : Tree) :
    Session → Prop where
  | indexing {client : Client Index FileTask}
      (hreach : (Indexing.start options tree).client.Reaches
        (FileTask.work tree) client) :
      OnCourse options web tree
        (.indexing ⟨client, ⟨tree, (options.textFiles tree).2⟩⟩)
  | searching {queries : PooledQueries} {client : Client Desk Lookup}
      (hready : queries.Ready) (hopen : queries.stopped = false)
      (hshared : queries.shared =
        ⟨.ofIndex (options.gathered web tree), .empty⟩)
      (hreach : (Searching.start options queries
        (options.saved web tree)).client.Reaches Lookup.work client) :
      OnCourse options web tree
        (.searching
          { Searching.start options queries (options.saved web tree)
            with client })
  | closing {client : Client Desk Lookup}
      (hfit : client.Fit (Desk.Open (options.gathered web tree))) :
      OnCourse options web tree (.closing ⟨client, options.runInOrder web tree⟩)
  | ended : OnCourse options web tree (.ended (options.runInOrder web tree))

theorem onCourse_start (options : Options) (web : Web) (tree : Tree) :
    OnCourse options web tree (start options tree) :=
  .indexing (Client.Reaches.refl _)

/-- What is left to do: the stages to come, and the rest of this one. -/
def left : Session → Nat ×ₗ Nat
  | indexing stage =>
      toLex (3, stage.client.effort (FileTask.work stage.progress.tree))
  | searching stage => toLex (2, stage.client.effort Lookup.work)
  | closing stage => toLex (1, stage.client.effort Lookup.work)
  | ended _ => toLex (0, 0)

/-- The thread of a stage goes on. -/
theorem left_lt_of_effort {stage before after : Nat} (h : after < before) :
    toLex (stage, after) < toLex (stage, before) :=
  Prod.Lex.toLex_lt_toLex.mpr (.inr ⟨rfl, h⟩)

/-- The run goes on to the next stage. -/
theorem left_lt_of_stage {stage later before after : Nat} (h : later < stage) :
    toLex (later, after) < toLex (stage, before) :=
  Prod.Lex.toLex_lt_toLex.mpr (.inl h)

/-- A run on course stays so with every step, and has less to do. -/
theorem onCourse_of_step? {event : SessionEvent}
    (h : OnCourse options web tree session)
    (hstep : session.step? options web event = some next) :
    OnCourse options web tree next ∧ next.left < session.left := by
  cases h with
  | indexing hreach =>
      cases event with
      | files event =>
          obtain ⟨after, hafter, rfl⟩ := Option.map_eq_some_iff.mp hstep
          have hfit := hreach.fit (FileTask.steady tree)
            (Indexing.fit_start options tree)
          obtain ⟨-, hless⟩ := hfit.step? (FileTask.steady tree) hafter
          exact ⟨.indexing (hreach.step hafter), left_lt_of_effort hless⟩
      | proceed =>
          obtain ⟨hover, ⟨⟩⟩ := Option.ite_none_right_eq_some.mp hstep
          obtain ⟨hready, hopen, hshared⟩ :=
            Indexing.outcome_start hreach hover
          rw [Indexing.proceed_eq hshared]
          exact ⟨.searching (hready.reassign _) hopen rfl (.refl _),
            left_lt_of_stage (by decide)⟩
      | lookups => cases hstep
  | searching hready hopen hshared hreach =>
      cases event with
      | lookups event =>
          obtain ⟨after, hafter, rfl⟩ := Option.map_eq_some_iff.mp hstep
          have hfit := hreach.fit (Lookup.steady _)
            (Searching.fit_start hready hshared options _)
          obtain ⟨-, hless⟩ := hfit.step? (Lookup.steady _) hafter
          exact ⟨.searching hready hopen hshared (hreach.step hafter),
            left_lt_of_effort hless⟩
      | proceed =>
          obtain ⟨hover, ⟨⟩⟩ := Option.ite_none_right_eq_some.mp hstep
          obtain ⟨hagain, hdesk, hanswers⟩ :=
            Searching.outcome_start hready hopen hshared hreach hover
          rw [Searching.proceed_eq _ hdesk.index hanswers]
          exact ⟨.closing (Closing.fit_start hagain hdesk),
            left_lt_of_stage (by decide)⟩
      | files => cases hstep
  | closing hfit =>
      cases event with
      | lookups event =>
          obtain ⟨after, hafter, rfl⟩ := Option.map_eq_some_iff.mp hstep
          obtain ⟨hnext, hless⟩ := hfit.step? (Lookup.steady _) hafter
          exact ⟨.closing hnext, left_lt_of_effort hless⟩
      | proceed =>
          obtain ⟨-, ⟨⟩⟩ := Option.ite_none_right_eq_some.mp hstep
          exact ⟨.ended, left_lt_of_stage (by decide)⟩
      | files => cases hstep
  | ended => cases event <;> cases hstep

/-- Until its end a run on course is never stuck. -/
theorem exists_step? (h : OnCourse options web tree session)
    (hgoal : session ≠ .ended (options.runInOrder web tree)) :
    ∃ event, session.step? options web event ≠ none := by
  cases h with
  | indexing hreach =>
      have hfit := hreach.fit (FileTask.steady tree)
        (Indexing.fit_start options tree)
      rcases hfit.over_or_step (FileTask.steady tree) with
        hover | ⟨event, hevent⟩
      · exact ⟨.proceed, by simp [step?, hover]⟩
      · exact ⟨.files event, by simpa [step?] using hevent⟩
  | searching hready hopen hshared hreach =>
      have hfit := hreach.fit (Lookup.steady _)
        (Searching.fit_start hready hshared options _)
      rcases hfit.over_or_step (Lookup.steady _) with hover | ⟨event, hevent⟩
      · exact ⟨.proceed, by simp [step?, hover]⟩
      · exact ⟨.lookups event, by simpa [step?] using hevent⟩
  | closing hfit =>
      rcases hfit.over_or_step (Lookup.steady _) with hover | ⟨event, hevent⟩
      · exact ⟨.proceed, by simp [step?, hover]⟩
      · exact ⟨.lookups event, by simpa [step?] using hevent⟩
  | ended => exact absurd rfl hgoal

/-- Every run on a pool ends, and like one in order. -/
theorem inevitably_inOrder (options : Options) (web : Web) (tree : Tree) :
    Inevitably (step? options web) (· = .ended (options.runInOrder web tree))
      (start options tree) := by
  refine inevitably_of_measure (OnCourse options web tree) left ?_ ?_
    (onCourse_start options web tree)
  · exact fun session honCourse hgoal => exists_step? honCourse hgoal
  · exact fun session event next honCourse hstep =>
      onCourse_of_step? honCourse hstep

/-- Every run on a pool that does not crawl ends, and like one without. -/
theorem inevitably_ended (hhtml : options.html? = none) (web : Web)
    (tree : Tree) :
    Inevitably (step? options web) (· = .ended (options.runSingle tree))
      (start options tree) :=
  Options.runInOrder_eq_runSingle hhtml web tree ▸ inevitably_inOrder options web tree

end Session

/-- The usual schedule of a run on a pool gives the same as well. -/
theorem Options.runPooled_inOrder (options : Options) (web : Web) (tree : Tree) :
    options.runPooled web tree = options.runInOrder web tree := by
  obtain ⟨hindexed, hfiles⟩ := (Indexing.fit_start options tree).complete
    (FileTask.steady tree)
  obtain ⟨hready, hopen, hshared⟩ := Indexing.outcome_start hfiles hindexed
  have hproceed : (Indexing.start options tree).complete.proceed options web =
      .start options _ _ := Indexing.proceed_eq hshared web
  have hagain := hready.reassign (υ := Lookup)
    (⟨.ofIndex (options.gathered web tree), .empty⟩ : Desk)
  obtain ⟨hsearched, hlookups⟩ := (Searching.fit_start hagain rfl options
    (options.saved web tree)).complete (Lookup.steady _)
  obtain ⟨-, hdesk, hanswers⟩ :=
    Searching.outcome_start hagain hopen rfl hlookups hsearched
  rw [runPooled, hproceed]
  exact congrArg Closing.report
    (Searching.proceed_eq (Pool.reassign _ _) hdesk.index hanswers)

theorem Options.runPooled_eq {options : Options} (hhtml : options.html? = none)
    (web : Web) (tree : Tree) :
    options.runPooled web tree = options.runSingle tree := by
  rw [runPooled_inOrder, runInOrder_eq_runSingle hhtml]

/-! ## The words of the command line -/

namespace Outcome

/-- Words that ask for no crawl, no server and no threads run the program, and
so do the same words with any number of threads asked for. Such a run ends on
every schedule, with the same files, the same complaints in the same order, and
the same code as the run without. A number of threads can be asked for in front
of all other words. -/
theorem threads_agree {words : List String} {options : Options}
    (hwords : Options.ofWords words = .ok options)
    (hthreads : options.threads? = none) (hhtml : options.html? = none)
    (hport : options.port? = none) (web : Web) (tree : Tree) :
    ofWords web tree words = .ran (options.runSingle tree) ∧
      (ofWords web tree words).code = 0 ∧
      (∀ count ≤ Text.mostCount,
        Options.ofWords ("--threads" :: toString count :: words) =
          .ok (options.withThreads count)) ∧
      ∀ count threaded,
        Options.ofWords threaded = .ok (options.withThreads count) →
          Inevitably (Session.step? (options.withThreads count) web)
            (· = .ended (options.runSingle tree))
            (Session.start (options.withThreads count) tree) ∧
          ofWords web tree threaded = .ran (options.runSingle tree) := by
  have hsingle : ofWords web tree words = .ran (options.runSingle tree) := by
    have hpool : options.usesPool = false := by
      rw [Options.usesPool, hthreads, hhtml, hport]
      rfl
    rw [ofWords, hwords]
    show ran (options.run web tree) = _
    rw [Options.run, hpool, if_neg Bool.false_ne_true]
  refine ⟨hsingle, by rw [hsingle, code], ?_, ?_⟩
  · exact fun count hcount => Options.ofWords_threads hwords hthreads hcount
  · intro count threaded hthreaded
    have hhtml : (options.withThreads count).html? = none := hhtml
    have hpool : (options.withThreads count).usesPool = true := rfl
    refine ⟨Session.inevitably_ended hhtml web tree, ?_⟩
    rw [ofWords, hthreaded]
    show ran (Options.run (options.withThreads count) web tree) = _
    rw [Options.run, if_pos hpool, Options.runPooled_eq hhtml]
    rfl

/-- A text, and a file of queries that breaks off behind its first line. -/
def noteFiles : Tree :=
  .dir [("notes.txt", .file [0x63, 0x61, 0x74]),
    ("q", .file [0x63, 0x61, 0x74, 0x0A, 0x64]
      { breaks? := some (5, .notFound) })]

/-- The counts are to be written where they cannot be, and the answers over the
texts. -/
def noteWords : List String :=
  ["--text", "notes.txt", "--counts=no/counts", "--query", "q",
    "--results", "notes.txt", "--partial"]

/-- What these words stand for. -/
def noteOptions : Options :=
  { Options.usual with
    text? := some "notes.txt"
    counts? := some "no/counts"
    query? := some "q"
    results? := some "notes.txt"
    partially := true }

theorem noteWords_agree : ∃ report,
    ofWords ⟨fun _ => none⟩ noteFiles noteWords = .ran report ∧
    ofWords ⟨fun _ => none⟩ noteFiles ("--threads" :: "0" :: noteWords) =
      .ran report ∧
    Inevitably (Session.step? (noteOptions.withThreads 0) ⟨fun _ => none⟩)
      (· = .ended report)
      (Session.start (noteOptions.withThreads 0) noteFiles) ∧
    report.complaints.map Complaint.message =
      ["unable to write output", "unable to search queries"] ∧
    (report.tree.read? "notes.txt").toOption.map List.length = some 102 := by
  have hwords : Options.ofWords noteWords = .ok noteOptions := rfl
  obtain ⟨hsingle, -, hfront, hthreaded⟩ :=
    threads_agree hwords rfl rfl rfl ⟨fun _ => none⟩ noteFiles
  obtain ⟨hended, hran⟩ := hthreaded 0 _ (hfront 0 (by decide))
  exact ⟨_, hsingle, hran, hended, by decide +kernel, by decide +kernel⟩

end Outcome

end Concordance
