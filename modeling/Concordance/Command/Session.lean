import Concordance.Command.Stages
import Concordance.Query.Pooled

/-!
# A run on a pool

A run on a pool goes through the same stages with one pool for all of them.
Each file and each line is a task, and the run waits for the tasks of a stage
before it goes on to the next. Only such a run can crawl. At its end it waits
for the pool once more, stops it, and sees the workers off; when the pool is
given up, which it is at once, the same is tried again.

The run and the workers take their steps in any order. Between two stages the
run reads and writes files with nobody else at work on them. A crawl is one
step here, and its pool one of its own.
-/

namespace Concordance

/-- Files are being indexed. -/
structure Indexing where
  client : Client Index FileTask
  progress : Progress

/-- Queries are being searched. -/
structure Searching where
  client : Client Desk Lookup
  progress : Progress
  /-- Why the file of queries could not be read further. -/
  error? : Option AccessError

/-- All is written, and the workers are seen off. -/
structure Closing where
  client : Client Desk Lookup
  report : Report

/-- How far a run on a pool has come. -/
inductive Session where
  | indexing (stage : Indexing)
  | searching (stage : Searching)
  | closing (stage : Closing)
  | ended (report : Report)

inductive SessionEvent where
  /-- The run goes on to the next stage. -/
  | proceed
  /-- Something happens while files are indexed. -/
  | files (event : ClientEvent FileTask)
  /-- Something happens while queries are searched or workers are seen off. -/
  | lookups (event : ClientEvent Lookup)

/-- The begin of a run. -/
def Indexing.start (options : Options) (tree : Tree) : Indexing :=
  let (paths?, complaints) := options.textFiles tree
  let pool := Pool.start options.workers .empty
  ⟨paths?.elim (.start pool []) (.indexing pool), ⟨tree, complaints⟩⟩

/-- The begin of a search, with the workers at rest. -/
def Searching.start (options : Options) (queries : PooledQueries) (progress : Progress) :
    Searching :=
  match options.queryFile? progress.tree with
  | none => ⟨.start queries [], progress, none⟩
  | some file => ⟨queries.asking options.mode file, progress, file.error?⟩

/-- When the files are indexed, the run crawls, writes what is asked for, and begins to search. -/
def Indexing.proceed (options : Options) (web : Web) (stage : Indexing) : Searching :=
  let (index, complaints) := options.crawled web stage.client.pool.shared
  let progress := options.saveIndex index (stage.progress.complain complaints)
  .start options (stage.client.pool.reassign ⟨.ofIndex index, .empty⟩) progress

/-- When the queries are searched, the run writes the answers and closes the pool. -/
def Searching.proceed (options : Options) (stage : Searching) : Closing :=
  let queries : PooledQueries := stage.client.pool
  { client := .start queries (Order.shutDown ++ Order.shutDown)
    report := options.report queries.shared.probe.index queries.answers stage.error? stage.progress }

namespace Session

def start (options : Options) (tree : Tree) : Session := indexing (.start options tree)

/-- What an event makes of a run, if it can happen. -/
def step? (options : Options) (web : Web) : Session → SessionEvent → Option Session
  | indexing stage, .files event =>
    (stage.client.step? (FileTask.work stage.progress.tree) event).map fun client =>
      indexing { stage with client }
  | indexing stage, .proceed =>
    if stage.client.isOver then some (searching (stage.proceed options web)) else none
  | searching stage, .lookups event =>
    (stage.client.step? Lookup.work event).map fun client => searching { stage with client }
  | searching stage, .proceed =>
    if stage.client.isOver then some (closing (stage.proceed options)) else none
  | closing stage, .lookups event =>
    (stage.client.step? Lookup.work event).map fun client => closing { stage with client }
  | closing stage, .proceed => if stage.client.isOver then some (ended stage.report) else none
  | _, _ => none

end Session

/-! ## The usual schedule -/

/-- The files, indexed on the usual schedule. -/
def Indexing.complete (stage : Indexing) : Indexing :=
  { stage with client := stage.client.complete (FileTask.work stage.progress.tree) }

/-- The queries, searched on the usual schedule. -/
def Searching.complete (stage : Searching) : Searching :=
  { stage with client := stage.client.complete Lookup.work }

/-- A run on a pool, on the usual schedule of its stages. -/
def Options.runPooled (options : Options) (web : Web) (tree : Tree) : Report :=
  let indexed := (Indexing.start options tree).complete
  let searched := (indexed.proceed options web).complete
  (searched.proceed options).report

end Concordance
