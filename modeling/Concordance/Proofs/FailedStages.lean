import Concordance.Proofs.FewerFlags
import Concordance.Proofs.SessionOutcome

/-!
# A stage that fails is as good as one not asked for

A run complains about a stage that fails and goes on. What it leaves behind is
then what the same words leave behind without the flags of the stages that
failed, and with these words it has nothing to complain about. Both ways of
running are covered, and the change from one to the other where the only thing
that asked for a pool was a crawl that failed.

Each stage is looked at by itself: without its flag it hands on what it handed
on when it failed. Which flags are left out is read off the complaints of the
whole run, and as each stage complains under a flag of its own, that flag is
among them only when this very stage failed (`Options.FailAt`).

There is one way for a failure to leave something behind. The lines read of a
file of queries before it broke off are answered, so the answers are the same
only if it breaks off before its first line is read, or not at all
(`Options.ReadsAllOrNone`). And there is one way for a run not to come to its
end, which is to ask for more workers than can be started.
-/

namespace Concordance

/-- The flag that asks for an output. -/
def Output.flag : Output → Flag
  | counts => .counts
  | index => .index
  | results => .results

/-- The flag that asks for the stage that failed. -/
def Complaint.flag : Complaint → Flag
  | listing _ => .text
  | crawling _ => .html
  | searching _ => .query
  | writing output _ => output.flag

/-- The flags that ask for a stage, in the order of the stages. -/
def Flag.stages : List Flag := [.text, .html, .counts, .index, .query, .results]

/-! ## Files that can be read to their ends -/

namespace Tree

/-- No file breaks off while it is read. It may be closed all the same. -/
def Whole (tree : Tree) : Prop :=
  ∀ names content access, tree.at? names = some (file content access) →
    access.breaks? = none

variable {tree inner : Tree} {path : String}

theorem child?_setEntry (name other : String) (inner : Tree)
    (entries : List (String × Tree)) :
    child? other (setEntry name inner entries) =
      if other = name then some inner else child? other entries := by
  induction entries with
  | nil => grind [child?, setEntry]
  | cons entry entries ih => grind [child?, setEntry]

theorem whole_file {content : List UInt8} {access : Access}
    (h : access.breaks? = none) : (file content access).Whole := by
  intro names _ _ hat
  cases names with
  | nil => cases hat; exact h
  | cons => cases hat

theorem whole_dir {entries : List (String × Tree)} :
    (dir entries).Whole ↔
      ∀ name inner, child? name entries = some inner → inner.Whole := by
  constructor
  · intro h name inner hchild names content access hat
    exact h (name :: names) content access (by simp [at?, hchild, hat])
  · intro h names content access hat
    cases names with
    | nil => cases hat
    | cons name names =>
        obtain ⟨inner, hchild, hinner⟩ := Option.bind_eq_some_iff.mp hat
        exact h name inner hchild names content access hinner

theorem whole_empty : Tree.empty.Whole :=
  whole_dir.mpr fun _ _ hchild => nomatch hchild

theorem Whole.plantAt (hinner : inner.Whole) {names : List String} :
    ∀ {tree : Tree}, tree.Whole → (tree.plantAt inner names).Whole := by
  induction names with
  | nil => exact fun _ => hinner
  | cons name names ih =>
      intro tree htree
      cases tree with
      | file content access =>
          refine whole_dir.mpr fun other found hfound => ?_
          simp only [child?] at hfound
          split at hfound
          · cases hfound; exact ih whole_empty
          · cases hfound
      | dir entries =>
          refine whole_dir.mpr fun other found hfound => ?_
          rw [child?_setEntry] at hfound
          split at hfound
          · cases hfound
            refine ih ?_
            cases hchild : child? name entries with
            | none => exact whole_empty
            | some old => exact whole_dir.mp htree name old hchild
          · exact whole_dir.mp htree other found hfound

/-- A file that is written does not break off, unless it did before. -/
theorem Whole.write? {content : List UInt8} {after : Tree} (h : tree.Whole)
    (hwrite : tree.write? path content = .ok after) : after.Whole := by
  unfold Tree.write? at hwrite
  split at hwrite
  · cases hwrite
  · split at hwrite
    · cases hwrite
    · next hat =>
        split at hwrite
        · cases hwrite
        · cases hwrite
          exact .plantAt (whole_file (h _ _ _ hat)) h
    · cases hwrite
      exact .plantAt (whole_file rfl) h

theorem Whole.find? (h : tree.Whole) {content : List UInt8} {access : Access}
    (hfind : tree.find? path = .ok (file content access)) :
    access.breaks? = none := by
  unfold Tree.find? at hfind
  split at hfind
  · cases hfind
  · split at hfind
    · cases hfind
    · next place hwalk =>
        cases hat : tree.at? place with
        | none => simp [hat, empty] at hfind
        | some found =>
            simp only [hat, Option.getD_some, Except.ok.injEq] at hfind
            exact h place content access (hfind ▸ hat)

/-- Of a file that does not break off, all is read or nothing. -/
theorem Whole.lines_queryFile (h : tree.Whole) {error : AccessError}
    (herror : (tree.queryFile path).error? = some error) :
    (tree.queryFile path).lines = [] := by
  unfold queryFile open? at herror ⊢
  cases hfind : tree.find? path with
  | error fault => rfl
  | ok found =>
      cases found with
      | dir entries => rfl
      | file content access =>
          cases hclosed : access.closed? with
          | some fault => simp only [hclosed]
          | none =>
              simp only [hfind, hclosed, Access.read, h.find? hfind,
                Option.map_none] at herror
              cases herror

/-! ## Outputs -/

/-- The tree with an output written, if one is asked for and can be. -/
def saved (tree : Tree) (path? : Option String) (text : String) : Tree :=
  path?.elim tree fun path => (tree.save? path text).toOption.getD tree

/-- Two trees are the same apart from what is in the file of an output. -/
def SameBut (path? : Option String) (tree other : Tree) : Prop :=
  ∃ before text text', tree = saved before path? text ∧
    other = saved before path? text'

/-- What is complained about when an output is asked for. -/
def unsaved (tree : Tree) (output : Output) (path? : Option String)
    (text : String) : List Complaint :=
  path?.elim [] fun path =>
    match tree.save? path text with
    | .ok _ => []
    | .error error => [.writing output error]

variable {output : Output} {path? : Option String} {text : String}

theorem flag_of_mem_unsaved {complaint : Complaint}
    (h : complaint ∈ tree.unsaved output path? text) :
    complaint.flag = output.flag := by
  cases path? with
  | none => cases h
  | some path =>
      simp only [unsaved, Option.elim_some] at h
      split at h
      · cases h
      · rw [List.mem_singleton.mp h, Complaint.flag]

/-- An output that cannot be written leaves all as it was. -/
theorem saved_of_unsaved (h : tree.unsaved output path? text ≠ []) :
    tree.saved path? text = tree := by
  cases path? with
  | none => rfl
  | some path =>
      simp only [unsaved, saved, Option.elim_some] at h ⊢
      cases hsave : tree.save? path text with
      | ok after => simp [hsave] at h
      | error error => rfl

/-- Whether a file can be written is no matter of what is to be in it. -/
theorem unsaved_text (tree : Tree) (output : Output) (path? : Option String)
    (text other : String) :
    tree.unsaved output path? text = tree.unsaved output path? other := by
  cases path? with
  | none => rfl
  | some path =>
      simp only [unsaved, save?, write?, Option.elim_some]
      cases tree.target? path with
      | error fault => rfl
      | ok target =>
          dsimp only
          cases tree.at? (target.1 ++ [target.2]) with
          | none => rfl
          | some found =>
              cases found with
              | dir => rfl
              | file content access =>
                  dsimp only
                  cases access.sealed? <;> rfl

/-- An output that is only asked for when it can be written. -/
theorem saved_ite (p : Prop) [Decidable p]
    (h : p ↔ tree.unsaved output path? text ≠ []) :
    tree.saved (if p then none else path?) text = tree.saved path? text ∧
      tree.unsaved output (if p then none else path?) text = [] := by
  by_cases hp : p
  · rw [if_pos hp, saved_of_unsaved (h.mp hp)]
    exact ⟨rfl, rfl⟩
  · rw [if_neg hp]
    exact ⟨rfl, not_not.mp (mt h.mpr hp)⟩

theorem Whole.saved (h : tree.Whole) (path? : Option String) (text : String) :
    (tree.saved path? text).Whole := by
  cases path? with
  | none => exact h
  | some path =>
      simp only [Tree.saved, save?, Option.elim_some]
      split
      · exact h
      · next after hwrite => exact h.write? hwrite

end Tree

theorem Progress.save_eq (progress : Progress) (output : Output)
    (path? : Option String) (text : String) :
    progress.save output path? text =
      ⟨progress.tree.saved path? text,
        progress.complaints ++ progress.tree.unsaved output path? text⟩ := by
  cases path? with
  | none => simp [save, Tree.saved, Tree.unsaved]
  | some path =>
      simp only [save, Tree.saved, Tree.unsaved, Option.elim_some]
      cases progress.tree.save? path text with
      | ok after => simp [Except.toOption]
      | error error => simp [complain, Except.toOption]

/-! ## What each stage complains about -/

namespace Options

variable {options : Options} {web : Web} {tree : Tree} {flags : List Flag}

/-- The files with the counts. -/
def counted (options : Options) (web : Web) (tree : Tree) : Tree :=
  tree.saved options.counts? (options.gathered web tree).totalsReport

/-- The files with the counts and the index. -/
def filed (options : Options) (web : Web) (tree : Tree) : Tree :=
  (options.counted web tree).saved options.index?
    (options.gathered web tree).report

/-- What the queries are answered with, and why not all could be read. -/
def found (options : Options) (web : Web) (tree : Tree) :
    Answers × Option AccessError :=
  options.answered (options.filed web tree) (options.gathered web tree)

/-- What the stage of a flag complains about. -/
def complaints (options : Options) (web : Web) (tree : Tree) :
    Flag → List Complaint
  | .text => (options.textFiles tree).2
  | .html => (options.crawled web (options.indexed tree)).2
  | .counts => tree.unsaved .counts options.counts?
      (options.gathered web tree).totalsReport
  | .index => (options.counted web tree).unsaved .index options.index?
      (options.gathered web tree).report
  | .query => (options.found web tree).2.toList.map .searching
  | .results => (options.filed web tree).unsaved .results options.results?
      (resultsReport (options.found web tree).1)
  | .max | .threads | .partially | .port => []

/-- A run in order, with what each of its stages complains about. -/
theorem runInOrder_stages (options : Options) (web : Web) (tree : Tree) :
    options.runInOrder web tree =
      { tree := (options.filed web tree).saved options.results?
          (resultsReport (options.found web tree).1)
        complaints := Flag.stages.flatMap (options.complaints web tree)
        words := (options.gathered web tree).size } := by
  have hfiled : (options.saved web tree).tree = options.filed web tree := by
    simp only [saved, saveIndex, Progress.save_eq]
    rfl
  rw [runInOrder_eq, report, Progress.save_eq, hfiled]
  simp only [saved, saveIndex, Progress.save_eq, Progress.complain,
    Flag.stages, List.flatMap_cons, List.flatMap_nil, List.append_nil,
    List.append_assoc]
  rfl

/-- A stage complains under its flag, and no other does. -/
theorem flag_of_mem_complaints {flag : Flag} {complaint : Complaint}
    (h : complaint ∈ options.complaints web tree flag) :
    complaint.flag = flag := by
  cases flag with
  | text =>
      simp only [complaints, textFiles] at h
      grind [Complaint.flag]
  | html =>
      simp only [complaints, crawled] at h
      grind [Complaint.flag]
  | query =>
      obtain ⟨error, -, rfl⟩ := List.mem_map.mp h
      rfl
  | counts | index | results => exact Tree.flag_of_mem_unsaved h
  | max | threads | partially | port => cases h

/-- Some flags are those of the stages that fail. -/
def FailAt (options : Options) (web : Web) (tree : Tree) (flags : List Flag) :
    Prop :=
  ∀ flag, flag ∈ flags ↔ options.complaints web tree flag ≠ []

/-- The complaints of a run tell which stages fail. -/
theorem failAt_complaints (options : Options) (web : Web) (tree : Tree) :
    options.FailAt web tree
      ((options.runInOrder web tree).complaints.map Complaint.flag) := by
  intro flag
  rw [runInOrder_stages, List.mem_map]
  constructor
  · rintro ⟨complaint, hmem, rfl⟩
    obtain ⟨flag, -, hflag⟩ := List.mem_flatMap.mp hmem
    rw [flag_of_mem_complaints hflag]
    exact List.ne_nil_of_mem hflag
  · intro hfails
    obtain ⟨complaint, hmem⟩ := List.exists_mem_of_ne_nil _ hfails
    refine ⟨complaint, List.mem_flatMap.mpr ⟨flag, ?_, hmem⟩,
      flag_of_mem_complaints hmem⟩
    cases flag with
    | max | threads | partially | port => cases hmem
    | _ => decide

/-! ## Without the flags of the stages that fail -/

theorem FailAt.kept (h : options.FailAt web tree flags) {flag : Flag}
    (hflag : options.complaints web tree flag = []) : flag ∉ flags :=
  fun hmem => (h flag).mp hmem hflag

theorem FailAt.quiet (h : options.FailAt web tree flags) {flag : Flag}
    (hflag : flag ∉ flags) : options.complaints web tree flag = [] :=
  not_not.mp (mt (h flag).mpr hflag)

theorem FailAt.threads? (h : options.FailAt web tree flags) :
    (options.without flags).threads? = options.threads? :=
  if_neg (h.kept rfl)

theorem FailAt.workers (h : options.FailAt web tree flags) :
    (options.without flags).workers = options.workers := by
  rw [Options.workers, h.threads?, Options.workers]

theorem FailAt.textFiles (h : options.FailAt web tree flags) :
    (options.without flags).textFiles tree = ((options.textFiles tree).1, []) := by
  by_cases hflag : Flag.text ∈ flags
  · have htext : (options.without flags).text? = none := if_pos hflag
    have hnone : (options.textFiles tree).1 = none := by
      have hfails : (options.textFiles tree).2 ≠ [] := (h .text).mp hflag
      unfold Options.textFiles at hfails ⊢
      grind
    rw [hnone, Options.textFiles, htext]
  · have htext : (options.without flags).text? = options.text? := if_neg hflag
    have hquiet : (options.textFiles tree).2 = [] := h.quiet hflag
    rw [← hquiet]
    unfold Options.textFiles
    rw [htext]

theorem FailAt.crawled (h : options.FailAt web tree flags) :
    (options.without flags).crawled web (options.indexed tree) =
      (options.gathered web tree, []) := by
  by_cases hflag : Flag.html ∈ flags
  · have hhtml : (options.without flags).html? = none := if_pos hflag
    have hsame : options.gathered web tree = options.indexed tree := by
      have hfails : (options.crawled web (options.indexed tree)).2 ≠ [] :=
        (h .html).mp hflag
      unfold Options.gathered
      unfold Options.crawled at hfails ⊢
      grind
    rw [hsame, Options.crawled, hhtml]
  · have hhtml : (options.without flags).html? = options.html? := if_neg hflag
    have hmax : (options.without flags).max = options.max := if_neg (h.kept rfl)
    have hquiet : (options.crawled web (options.indexed tree)).2 = [] :=
      h.quiet hflag
    rw [Options.gathered, ← hquiet]
    unfold Options.crawled
    rw [hhtml, hmax, h.workers]

theorem FailAt.indexed (h : options.FailAt web tree flags) :
    (options.without flags).indexed tree = options.indexed tree := by
  rw [Options.indexed, h.textFiles, Options.indexed]

theorem FailAt.gathered (h : options.FailAt web tree flags) :
    (options.without flags).gathered web tree = options.gathered web tree := by
  rw [Options.gathered, h.indexed, h.crawled]

theorem FailAt.counted (h : options.FailAt web tree flags) :
    (options.without flags).counted web tree = options.counted web tree := by
  rw [Options.counted, h.gathered]
  exact (Tree.saved_ite _ (h .counts)).1

theorem FailAt.filed (h : options.FailAt web tree flags) :
    (options.without flags).filed web tree = options.filed web tree := by
  rw [Options.filed, h.counted, h.gathered]
  exact (Tree.saved_ite _ (h .index)).1

/-- The queries are answered as before, or are not searched. -/
theorem FailAt.found (h : options.FailAt web tree flags) :
    (options.without flags).found web tree =
      if .query ∈ flags then (.empty, none) else options.found web tree := by
  rw [Options.found, h.filed, h.gathered, Options.found]
  by_cases hflag : Flag.query ∈ flags
  · have hquery : (options.without flags).query? = none := if_pos hflag
    rw [if_pos hflag, answered, hquery]
  · have hquery : (options.without flags).query? = options.query? := if_neg hflag
    have hmode : (options.without flags).mode = options.mode := by
      have hpartially : (options.without flags).partially = options.partially :=
        if_neg (h.kept rfl)
      rw [mode, mode, hpartially]
    rw [if_neg hflag, answered, answered, hquery, hmode]

/-- Of the file of queries, as it is when they are searched, all lines are read
or none. -/
def ReadsAllOrNone (options : Options) (web : Web) (tree : Tree) : Prop :=
  ∀ path ∈ options.query?,
    ∀ error ∈ ((options.filed web tree).queryFile path).error?,
      ((options.filed web tree).queryFile path).lines = []

theorem readsAllOrNone_of_whole (h : tree.Whole) :
    options.ReadsAllOrNone web tree := by
  have hfiled : (options.filed web tree).Whole := (h.saved _ _).saved _ _
  exact fun path _ error herror => hfiled.lines_queryFile herror

/-- If all lines are read or none, queries that cannot be read answer nothing. -/
theorem found_of_fails (hread : options.ReadsAllOrNone web tree)
    (hfails : options.complaints web tree .query ≠ []) :
    (options.found web tree).1 = .empty := by
  simp only [complaints, found, answered] at hfails ⊢
  cases hquery : options.query? with
  | none => rfl
  | some path =>
      simp only [hquery, InlineQueries.takeFile] at hfails ⊢
      split at hfails
      · cases herror : ((options.filed web tree).queryFile path).error? with
        | none => simp [herror] at hfails
        | some error =>
            rw [hread path hquery error herror]
            rfl
      · cases hfails rfl

/-- The results fail to be written whatever the answers are. -/
theorem FailAt.results_iff (h : options.FailAt web tree flags)
    (answers : String) : Flag.results ∈ flags ↔
      (options.filed web tree).unsaved .results options.results? answers ≠ [] := by
  rw [Tree.unsaved_text _ _ _ answers (resultsReport (options.found web tree).1)]
  exact h .results

/-- No stage complains without the flags of those that fail. -/
theorem FailAt.complaints (h : options.FailAt web tree flags) (flag : Flag) :
    (options.without flags).complaints web tree flag = [] := by
  cases flag with
  | text =>
      show ((options.without flags).textFiles tree).2 = []
      rw [h.textFiles]
  | html =>
      show ((options.without flags).crawled web _).2 = []
      rw [h.indexed, h.crawled]
  | counts =>
      simp only [Options.complaints, h.gathered]
      exact (Tree.saved_ite _ (h .counts)).2
  | index =>
      simp only [Options.complaints, h.counted, h.gathered]
      exact (Tree.saved_ite _ (h .index)).2
  | query =>
      simp only [Options.complaints, h.found]
      split
      · rfl
      · next hflag => exact h.quiet hflag
  | results =>
      simp only [Options.complaints, h.filed]
      exact (Tree.saved_ite _ (h.results_iff _)).2
  | max | threads | partially | port => rfl

/-- Without the flags of the stages that fail, a run has nothing to complain
about and leaves behind what it did with them, up to the answers. -/
theorem FailAt.runInOrder (h : options.FailAt web tree flags) :
    let report := options.runInOrder web tree
    let again := (options.without flags).runInOrder web tree
    again.complaints = [] ∧ again.words = report.words ∧
      report.tree.SameBut options.results? again.tree ∧
      (options.ReadsAllOrNone web tree → again.tree = report.tree) := by
  have hsaved : ∀ answers, (options.filed web tree).saved
      (options.without flags).results? answers =
        (options.filed web tree).saved options.results? answers :=
    fun answers => (Tree.saved_ite _ (h.results_iff answers)).1
  simp only [runInOrder_stages]
  rw [h.filed, hsaved]
  refine ⟨?_, congrArg Index.size h.gathered, ⟨_, _, _, rfl, rfl⟩, fun hread => ?_⟩
  · exact List.flatMap_eq_nil_iff.mpr fun flag _ => h.complaints flag
  · have hanswers : ((options.without flags).found web tree).1 =
        (options.found web tree).1 := by
      rw [h.found]
      split
      · next hflag => exact (found_of_fails hread ((h .query).mp hflag)).symm
      · rfl
    rw [hanswers]

/-- Without the flags of the stages that fail no more workers are asked for. -/
theorem FailAt.canStart (h : options.FailAt web tree flags) {most : Nat}
    (hstart : options.canStart most = true) :
    (options.without flags).canStart most = true := by
  have hpool : (options.without flags).usesPool = true →
      options.usesPool = true := by
    simp only [usesPool, h.threads?, Bool.or_eq_true]
    simp only [without]
    grind
  rw [Options.canStart, h.workers]
  rw [Options.canStart] at hstart
  grind

/-! ## Either way of running -/

/-- On a pool or not, a run leaves behind what one in order does. -/
theorem run_eq (options : Options) (web : Web) (tree : Tree) :
    options.run web tree = options.runInOrder web tree := by
  rw [run]
  split
  · exact runPooled_inOrder options web tree
  · next hpool =>
      have hhtml : options.html? = none := by
        simp only [usesPool, Bool.or_eq_true, not_or] at hpool
        exact Option.not_isSome_iff_eq_none.mp hpool.1.2
      exact (runInOrder_eq_runSingle hhtml web tree).symm

end Options

namespace Outcome

/-- Words run the program to a report, on a system that can start so many
workers. If the run is on a pool, it comes to that report on every schedule. -/
def RunsTo (most : Nat) (web : Web) (tree : Tree) (words : List String)
    (report : Report) : Prop :=
  ofWordsOn most web tree words = .ran report ∧
    ∀ options, Options.ofWords words = .ok options → options.usesPool = true →
      Inevitably (Session.step? options web) (· = .ended report)
        (Session.start options tree)

theorem runsTo_inOrder {words : List String} {options : Options} {most : Nat}
    (hwords : Options.ofWords words = .ok options)
    (hstart : options.canStart most = true) (web : Web) (tree : Tree) :
    RunsTo most web tree words (options.runInOrder web tree) := by
  constructor
  · have hran : ofWords web tree words = .ran (options.run web tree) := by
      rw [ofWords, hwords]
    rw [ofWordsOn, hwords]
    dsimp only
    rw [if_pos hstart, hran, options.run_eq]
  · intro read hread _
    rw [hwords] at hread
    cases hread
    exact Session.inevitably_inOrder options web tree

/-- Words that mean something, and ask for no more workers than can be started,
run the program, and so do the same words without the flags of all stages that
fail. The run with fewer words ends with the same code and as many words in its
index, and complains about nothing. It leaves behind the same files, except that
the results can be others if the file of queries broke off behind a line. -/
theorem failures_passedOver {words : List String} {options : Options}
    {most : Nat} (hwords : Options.ofWords words = .ok options)
    (hstart : options.canStart most = true) (web : Web) (tree : Tree) :
    ∃ report, RunsTo most web tree words report ∧
      (ofWordsOn most web tree words).code = 0 ∧
      let failed := report.complaints.map Complaint.flag
      let fewer := dropFlags failed false words
      ∃ again, RunsTo most web tree fewer again ∧
        (ofWordsOn most web tree fewer).code = 0 ∧
        again.complaints = [] ∧ again.words = report.words ∧
        report.tree.SameBut options.results? again.tree ∧
        (options.ReadsAllOrNone web tree → again.tree = report.tree) := by
  have hfail := options.failAt_complaints web tree
  have hruns := runsTo_inOrder hwords hstart web tree
  have hagain := runsTo_inOrder (Options.ofWords_dropFlags hwords
    ((options.runInOrder web tree).complaints.map Complaint.flag))
    (hfail.canStart hstart) web tree
  refine ⟨_, hruns, by rw [hruns.1, code], _, hagain, by rw [hagain.1, code], ?_⟩
  exact hfail.runInOrder

/-- A text, and nothing else. -/
def loneText : Tree := .dir [("notes.txt", .file [0x63, 0x61, 0x74])]

/-- A crawl from an address that is not one of the web, counts to be written
where they cannot be, and a file of queries that is not there. -/
def vainWords : List String :=
  ["--html", "mailto:a@b", "--text", "notes.txt", "--counts=no/counts",
    "--index", "--query", "queries", "--results=answers"]

/-- What these words stand for. -/
def vainOptions : Options :=
  { Options.usual with
    text? := some "notes.txt"
    html? := some "mailto:a@b"
    counts? := some "no/counts"
    index? := some "index.json"
    query? := some "queries"
    results? := some "answers" }

theorem whole_loneText : loneText.Whole := by
  refine Tree.whole_dir.mpr fun name inner hchild => ?_
  simp only [Tree.child?] at hchild
  split at hchild
  · cases hchild
    exact Tree.whole_file rfl
  · cases hchild

/-- Here only the crawl asks for a pool, so without it there is none. -/
theorem vainWords_passedOver : ∃ report again,
    RunsTo 5 ⟨fun _ => none⟩ loneText vainWords report ∧
    report.complaints.map Complaint.flag = [.html, .counts, .query] ∧
    RunsTo 5 ⟨fun _ => none⟩ loneText
      ["--text", "notes.txt", "--index", "--results=answers"] again ∧
    again.complaints = [] ∧ again.tree = report.tree ∧
    vainOptions.usesPool = true ∧
    (vainOptions.without [.html, .counts, .query]).usesPool = false ∧
    (report.tree.read? "answers").toOption = some [0x7B, 0x7D] := by
  have hwords : Options.ofWords vainWords = .ok vainOptions := rfl
  have hstart : vainOptions.canStart 5 = true := rfl
  obtain ⟨report, hruns, -, again, hagain, -, hnone, -, -, htree⟩ :=
    failures_passedOver hwords hstart ⟨fun _ => none⟩ loneText
  obtain rfl : report = vainOptions.runInOrder ⟨fun _ => none⟩ loneText :=
    Outcome.ran.inj (hruns.1.symm.trans
      (runsTo_inOrder hwords hstart ⟨fun _ => none⟩ loneText).1)
  have hfailed : (vainOptions.runInOrder ⟨fun _ => none⟩
      loneText).complaints.map Complaint.flag = [.html, .counts, .query] := by
    decide +kernel
  rw [hfailed] at hagain
  have hfewer : dropFlags [.html, .counts, .query] false vainWords =
      ["--text", "notes.txt", "--index", "--results=answers"] := rfl
  rw [hfewer] at hagain
  exact ⟨_, again, hruns, hfailed, hagain, hnone,
    htree (Options.readsAllOrNone_of_whole whole_loneText), rfl, rfl,
    by decide +kernel⟩

/-- A text, and a file of queries that breaks off behind its first line. -/
def brokenFiles : Tree :=
  .dir [("notes.txt", .file [0x63, 0x61, 0x74]),
    ("q", .file [0x63, 0x61, 0x74, 0x0A, 0x64]
      { breaks? := some (5, .notFound) })]

/-- The answers that words have written to a file. -/
def answersAfter (words : List String) : Option String :=
  (ofWordsOn Pool.mostWorkers ⟨fun _ => none⟩ brokenFiles words).report?.bind
    (·.tree.text? "r")

/-- The first line is answered, though the stage fails. And words that ask for
more workers than there can be make sense, but do not run. -/
theorem brokenFiles_answered :
    ((ofWordsOn Pool.mostWorkers ⟨fun _ => none⟩ brokenFiles
        ["--text", "notes.txt", "--query", "q", "--results", "r"]).report?.map
      fun report => report.complaints.map Complaint.flag) = some [.query] ∧
    answersAfter ["--text", "notes.txt", "--query", "q", "--results", "r"] ≠
      answersAfter (dropFlags [.query] false
        ["--text", "notes.txt", "--query", "q", "--results", "r"]) ∧
    Options.ofWords ["--threads", "18446744073709551615"] =
      .ok (Options.usual.withThreads (2 ^ 64 - 1)) ∧
    (ofWordsOn Pool.mostWorkers ⟨fun _ => none⟩ brokenFiles
      ["--threads", "18446744073709551615"]).code = 101 := by
  refine ⟨by decide +kernel, by decide +kernel, rfl, by decide +kernel⟩

end Outcome

end Concordance
