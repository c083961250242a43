import Mathlib.Data.Multiset.Fold
import Concordance.Files.Build
import Concordance.Proofs.IndexRecords
import Concordance.Proofs.PoolReady

/-!
# A pool builds the same index

Indexes under `merge` are a commutative monoid, level by level: sets of
positions under union, totals under addition, and sorted maps of these. So if a
thread has files indexed on a pool, all that matters is what the tasks that are
owed are still to add. Merged into the shared index, in whatever order, it is
the same index at every moment of every run: reading a file adds nothing yet,
merging moves a file's tokens from one side to the other, and a file that
cannot be read adds nothing on either side.

When the thread is done nothing is owed, and the index is that of the files one
after the other.
-/

namespace Concordance

/-! ## Indexes under `merge` -/

namespace SortedSet

theorem union_comm (set other : SortedSet Nat) :
    set.union other = other.union set :=
  SortedMap.merge_comm (fun _ _ => rfl) set other

theorem union_assoc (set other third : SortedSet Nat) :
    (set.union other).union third = set.union (other.union third) :=
  SortedMap.merge_assoc (fun _ _ _ => rfl) set other third

end SortedSet

namespace Index

theorem merge_comm (index other : Index) :
    index.merge other = other.merge index := by
  apply congrArg₂ Index.mk
  · exact SortedMap.merge_comm (SortedMap.merge_comm SortedSet.union_comm) ..
  · exact SortedMap.merge_comm UInt64.add_comm ..

theorem merge_assoc (index other third : Index) :
    (index.merge other).merge third = index.merge (other.merge third) := by
  apply congrArg₂ Index.mk
  · exact SortedMap.merge_assoc (SortedMap.merge_assoc SortedSet.union_assoc) ..
  · exact SortedMap.merge_assoc UInt64.add_assoc ..

instance : Std.Commutative Index.merge := ⟨merge_comm⟩

instance : Std.Associative Index.merge := ⟨merge_assoc⟩

end Index

/-! ## Files one after the other -/

namespace Tree

/-- Whether the file at a path can be opened and read to its end, and each of
its lines is well-formed text. -/
def isReadable (tree : Tree) (path : String) : Bool :=
  match tree.read? path with
  | .error _ => false
  | .ok content =>
      (Text.byteLines content).all fun line => (Text.Utf8.decode? line).isSome

/-- The tokens of the file at a path, if it can be read. -/
def records (tree : Tree) (path : String) : List Record :=
  match tree.terms? path with
  | .error _ => []
  | .ok terms => recordRun path terms 1

theorem lineTerms?_isSome (lines : List (List UInt8)) :
    (lineTerms? lines).isSome =
      lines.all fun line => (Text.Utf8.decode? line).isSome := by
  induction lines with
  | nil => rfl
  | cons line lines ih =>
      rw [List.all_cons, ← ih, lineTerms?]
      cases Text.Utf8.decode? line with
      | none => rfl
      | some text => simp

/-- A file gives terms if it can be read, and else none. -/
theorem isOk_terms? (tree : Tree) (path : String) :
    (tree.terms? path).isOk = tree.isReadable path := by
  unfold terms? isReadable read?
  cases tree.open? path with
  | error fault => rfl
  | ok reading =>
      obtain ⟨content, fault?⟩ := reading
      cases fault? with
      | some fault =>
          dsimp only
          cases lineTerms? (Reading.lines ⟨content, some fault⟩) <;> rfl
      | none =>
          dsimp only [Reading.lines]
          rw [← lineTerms?_isSome]
          cases lineTerms? (Text.byteLines content) <;> rfl

theorem records_of_not_isReadable {tree : Tree} {path : String}
    (h : tree.isReadable path = false) : tree.records path = [] := by
  rw [← isOk_terms?] at h
  unfold records
  cases hterms : tree.terms? path with
  | error => rfl
  | ok terms =>
      rw [hterms] at h
      cases h

/-- The tokens of a file are recorded at its path. -/
theorem location_of_mem_records {tree : Tree} {path : String} {r : Record}
    (h : r ∈ tree.records path) : r.location = path := by
  unfold records at h
  split at h
  · cases h
  · next terms _ =>
      exact location_recordRun path terms 1 r h

end Tree

namespace Index

theorem addFile?_eq (index : Index) (tree : Tree) (path : String) :
    (∃ error, index.addFile? tree path = .error error ∧
      tree.isReadable path = false ∧ tree.records path = []) ∨
    ∃ count, index.addFile? tree path =
        .ok (index.recordAll (tree.records path), count) ∧
      tree.isReadable path = true := by
  rw [← Tree.isOk_terms?]
  unfold addFile? Tree.records
  cases tree.terms? path with
  | error fault => exact .inl ⟨⟨path, fault⟩, rfl, rfl, rfl⟩
  | ok terms =>
      refine .inr ⟨terms.length, ?_, rfl⟩
      dsimp only
      rw [addAll_eq_recordAll]

/-- Files one after the other give the tokens of those that can be read. -/
theorem addFiles_eq (tree : Tree) (paths : List String) :
    ∀ index : Index, index.addFiles tree paths =
      (index.recordAll (paths.flatMap tree.records),
        paths.countP tree.isReadable) := by
  induction paths with
  | nil => intro index; rfl
  | cons path paths ih =>
      intro index
      rw [List.flatMap_cons, recordAll_append, addFiles]
      rcases addFile?_eq index tree path with
        ⟨error, hfile, hunread, hnone⟩ | ⟨count, hfile, hread⟩
      · rw [hfile, hnone, List.countP_cons_of_neg (by simp [hunread])]
        exact ih index
      · rw [hfile, List.countP_cons_of_pos hread]
        dsimp only
        rw [ih]

/-- What cannot be read may as well be left out. -/
theorem addFiles_filter (index : Index) (tree : Tree) (paths : List String) :
    (index.addFiles tree paths).1 =
      (index.addFiles tree (paths.filter tree.isReadable)).1 := by
  rw [addFiles_eq, addFiles_eq]
  apply congrArg index.recordAll
  induction paths with
  | nil => rfl
  | cons path paths ih =>
      cases hread : tree.isReadable path with
      | true =>
          rw [List.filter_cons_of_pos hread, List.flatMap_cons,
            List.flatMap_cons, ih]
      | false =>
          rw [List.filter_cons_of_neg (by simp [hread]), List.flatMap_cons, ih,
            Tree.records_of_not_isReadable hread]
          rfl

/-- A file that cannot be read leaves nothing at its path. -/
theorem addFiles_unreadable (index : Index) {tree : Tree} {path : String}
    (h : tree.isReadable path = false) (paths : List String) :
    (∀ term, ((index.addFiles tree paths).1.occurrences term).get? path =
      (index.occurrences term).get? path) ∧
    (index.addFiles tree paths).1.totals.get? path =
      index.totals.get? path := by
  rw [addFiles_eq]
  apply recordAll_elsewhere
  intro r hr heq
  obtain ⟨other, -, hother⟩ := List.mem_flatMap.mp hr
  rw [Tree.location_of_mem_records hother] at heq
  rw [heq, Tree.records_of_not_isReadable h] at hother
  cases hother

end Index

/-! ## Files on a pool -/

namespace FileTask

/-- What a task is still to add to the shared index. -/
def yield (tree : Tree) : FileTask → Index
  | reading path => Index.empty.recordAll (tree.records path)
  | merging filled => filled
  | ended _ => .empty

theorem steady (tree : Tree) :
    (FileTask.work tree).Steady fun _ => True := by
  intro index task _
  cases task with
  | reading path =>
      simp only [work, move]
      split
      · exact .act trivial (show 1 < 3 by decide)
      · exact .act trivial (Nat.lt_succ_self _)
  | merging filled => exact .act trivial (Nat.lt_succ_self _)
  | ended ending => exact .finish

/-- An action of a task takes from what it is to add as much as it adds. -/
theorem merge_yield {tree : Tree} {index after : Index} {task rest : FileTask}
    (h : (FileTask.work tree).move index task = .act after rest) :
    after.merge (rest.yield tree) = index.merge (task.yield tree) := by
  cases task with
  | reading path =>
      show after.merge _ = index.merge (Index.empty.recordAll _)
      rcases Index.addFile?_eq .empty tree path with
        ⟨error, hfile, -, hnone⟩ | ⟨count, hfile, -⟩
      · simp only [work, move, hfile, Move.act.injEq] at h
        obtain ⟨rfl, rfl⟩ := h
        rw [hnone]
        rfl
      · simp only [work, move, hfile, Move.act.injEq] at h
        obtain ⟨rfl, rfl⟩ := h
        rfl
  | merging filled =>
      cases h
      exact Index.merge_empty _
  | ended ending => cases h

theorem yield_of_finish {tree : Tree} {index : Index} {task : FileTask}
    {ending : Ending}
    (h : (FileTask.work tree).move index task = .finish ending) :
    task.yield tree = .empty := by
  cases task with
  | reading path =>
      simp only [work, move] at h
      split at h <;> cases h
  | merging filled => cases h
  | ended ending => rfl

/-- The shared index with all that the tasks are still to add. -/
def total (tree : Tree) (index : Index) (owed : Multiset FileTask) : Index :=
  (owed.map (yield tree)).fold Index.merge index

theorem total_cons (tree : Tree) (index : Index) (task : FileTask)
    (owed : Multiset FileTask) :
    total tree index (task ::ₘ owed) =
      total tree (index.merge (task.yield tree)) owed := by
  rw [total, Multiset.map_cons, Multiset.fold_cons'_right]
  rfl

theorem total_reading (tree : Tree) (paths : List String) :
    ∀ index : Index, total tree index ↑(paths.map reading) =
      (index.addFiles tree paths).1 := by
  induction paths with
  | nil => intro index; rfl
  | cons path paths ih =>
      intro index
      rw [List.map_cons, ← Multiset.cons_coe, total_cons, ih]
      show (Index.addFiles (index.merge (Index.empty.recordAll _)) _ _).1 = _
      rw [Index.merge_recordAll, Index.merge_empty, Index.addFiles_eq,
        Index.addFiles_eq, List.flatMap_cons, Index.recordAll_append]

end FileTask

namespace Client

open FileTask (reading)

variable {pool : Pool Index FileTask}

/-- Whoever gets through with having files indexed finds the index of the files
one after the other, and the pool ready again. -/
theorem indexing_outcome (hready : pool.Ready) (hopen : pool.stopped = false)
    {tree : Tree} {paths : List String} {events : List (ClientEvent FileTask)}
    {last : Client Index FileTask}
    (h : (indexing pool paths).run? (FileTask.work tree) events = some last)
    (hover : last.isOver = true) :
    last.pool.Ready ∧ last.pool.stopped = false ∧
      last.pool.shared = (pool.shared.addFiles tree paths).1 := by
  have houtcome := asking_outcome (FileTask.steady tree)
    (fun index owed => FileTask.total tree index owed =
      (pool.shared.addFiles tree paths).1)
    (by
      intro index after task rest others _ hmove htotal
      rw [FileTask.total_cons] at htotal ⊢
      rw [FileTask.merge_yield hmove, htotal])
    (by
      intro index task ending others _ hmove htotal
      rw [FileTask.total_cons, FileTask.yield_of_finish hmove,
        Index.merge_empty] at htotal
      exact htotal)
    hready hopen trivial (FileTask.total_reading tree paths pool.shared) h hover
  exact ⟨houtcome.1, houtcome.2.1, houtcome.2.2.2⟩

theorem indexing_inevitably (hready : pool.Ready) (tree : Tree)
    (paths : List String) :
    Inevitably (Client.step? (FileTask.work tree)) (·.isOver = true)
      (indexing pool paths) :=
  (fit_asking hready trivial _).inevitably (FileTask.steady tree)

/-- A thread that has files indexed on a pool without a pending task, whatever
the pool was used for before, gets through on every schedule. When it does, the
shared index is the one that the files give one after the other. There the
files that can be read are counted, and the others leave nothing behind. -/
theorem indexing_agrees {used : Work Index FileTask} {workers : Nat}
    {index : Index} {before : List (PoolEvent FileTask)}
    (hused : (Pool.start workers index).run? used before = some pool)
    (hidle : pool.pending = 0) (hopen : pool.stopped = false)
    (tree : Tree) (paths : List String) :
    Inevitably (Client.step? (FileTask.work tree)) (·.isOver = true)
        (indexing pool paths) ∧
      (∀ events last,
        (indexing pool paths).run? (FileTask.work tree) events = some last →
        last.isOver = true →
          last.pool.shared = (pool.shared.addFiles tree paths).1) ∧
      (pool.shared.addFiles tree paths).2 = paths.countP tree.isReadable ∧
      (pool.shared.addFiles tree paths).1 =
        (pool.shared.addFiles tree (paths.filter tree.isReadable)).1 ∧
      ∀ path, tree.isReadable path = false →
        (∀ term,
          ((pool.shared.addFiles tree paths).1.occurrences term).get? path =
            (pool.shared.occurrences term).get? path) ∧
        (pool.shared.addFiles tree paths).1.totals.get? path =
          pool.shared.totals.get? path := by
  have hready := Pool.ready_of_run before hused hidle
  refine ⟨indexing_inevitably hready tree paths, ?_, ?_,
    Index.addFiles_filter pool.shared tree paths, ?_⟩
  · intro events last h hover
    exact (indexing_outcome hready hopen h hover).2.2
  · rw [Index.addFiles_eq]
  · intro path hunread
    exact Index.addFiles_unreadable pool.shared hunread paths

/-- A file of two words, one that is no text from its second line on, one that
breaks off there, and one that cannot be opened. -/
def mixedFiles : Tree :=
  .dir [("a", .file [0x78, 0x20, 0x79]),
    ("b", .file [0x78, 0x0A, 0xFF]),
    ("c", .file [0x78, 0x0A, 0x79] { breaks? := some (2, .notFound) }),
    ("d", .file [0x78] { closed? := some .notFound })]

/-- Two workers on these files, one of them given twice. The copy that was
submitted last is merged first. -/
def mixedBuild : List (ClientEvent FileTask) :=
  [.own, .pool (.enqueue none), .own, .pool (.enqueue none),
    .own, .pool (.enqueue none), .own, .pool (.enqueue none),
    .own, .pool (.enqueue none), .own, .own,
    .pool (.move 0), .pool (.move 0), .pool (.move 1), .pool (.move 1),
    .pool (.move 1), .pool (.move 1), .pool (.move 1), .pool (.move 1),
    .pool (.move 1), .pool (.move 1), .pool (.move 1), .pool (.move 1),
    .pool (.move 1), .pool (.move 1), .pool (.move 1), .pool (.move 1),
    .pool (.move 0), .pool (.move 0), .own, .own]

theorem mixedBuild_agrees :
    (∃ last, (indexing (Pool.start 2 .empty) ["a", "b", "c", "d", "a"]).run?
        (FileTask.work mixedFiles) mixedBuild = some last ∧
      last.isOver = true ∧
      last.pool.shared.positions "y" "a" = [2] ∧
      (last.pool.shared.total "a").toNat = 4 ∧
      last.pool.shared =
        (Index.empty.addFiles mixedFiles ["a", "b", "c", "d", "a"]).1) ∧
    (Index.empty.addFiles mixedFiles ["a", "b", "c", "d", "a"]).2 = 2 := by
  have hover : ((indexing (Pool.start 2 .empty) ["a", "b", "c", "d", "a"]).run?
      (FileTask.work mixedFiles) mixedBuild).map (fun last =>
        (last.isOver, last.pool.shared.positions "y" "a",
          (last.pool.shared.total "a").toNat)) = some (true, [2], 4) := by
    decide +kernel
  obtain ⟨last, hrun, hlast⟩ := Option.map_eq_some_iff.mp hover
  rw [Prod.mk.injEq, Prod.mk.injEq] at hlast
  have hused : (Pool.start 2 .empty).run? (FileTask.work mixedFiles) [] =
      some (Pool.start 2 .empty) := rfl
  obtain ⟨-, hagrees, hcount, -⟩ := indexing_agrees hused rfl rfl mixedFiles
    ["a", "b", "c", "d", "a"]
  refine ⟨⟨last, hrun, hlast.1, hlast.2.1, hlast.2.2,
    hagrees mixedBuild last hrun hlast.1⟩, ?_⟩
  exact hcount.trans (by decide +kernel)

end Client

/-- The usual schedule gives the index of the files one after the other. -/
theorem Index.addFilesPooled_eq (index : Index) (tree : Tree) (workers : Nat)
    (paths : List String) :
    index.addFilesPooled tree workers paths =
      (index.addFiles tree paths).1 := by
  have hready : (Pool.start workers index : Pool Index FileTask).Ready :=
    Pool.ready_start workers index
  have hfit : (Client.indexing (Pool.start workers index) paths).Fit
      fun _ => True := Client.fit_asking hready trivial _
  obtain ⟨hover, events, hrun⟩ := hfit.complete (FileTask.steady tree)
  exact (Client.indexing_outcome hready rfl hrun hover).2.2

end Concordance
