import Concordance.Command.Options
import Concordance.Crawl.Run
import Concordance.Query.Inline

/-!
# The stages of a run

A run goes through its stages in a fixed order: it indexes texts, crawls,
writes the counts, writes the index, searches the queries, and writes the
results. A stage that no flag asks for is passed over. One that fails is
complained about and changes nothing, except that the lines read of a file of
queries before it broke off are searched all the same. The run goes on, and
its end is the same as if everything had gone well.

The stages are the same for all runs. What differs is how files are indexed
and queries are searched. Here one file and one line is taken after the other.
-/

namespace Concordance

/-- What a run can be asked to write. -/
inductive Output where
  | counts
  | index
  | results
deriving DecidableEq, Repr

/-- A stage that failed, and why. -/
inductive Complaint where
  | listing (error : AccessError)
  | crawling (error : CrawlError)
  | searching (error : AccessError)
  | writing (output : Output) (error : AccessError)

def Complaint.message : Complaint → String
  | listing _ => "unable to list text files"
  | crawling _ => "crawl failed"
  | searching _ => "unable to search queries"
  | writing .. => "unable to write output"

/-- What a run leaves behind. -/
structure Report where
  tree : Tree
  complaints : List Complaint
  /-- How many words the index has. -/
  words : Nat

/-- A run between two stages: the files, and the complaints so far. -/
structure Progress where
  tree : Tree
  complaints : List Complaint

namespace Progress

def complain (progress : Progress) (complaints : List Complaint) : Progress :=
  { progress with complaints := progress.complaints ++ complaints }

/-- Writes an output that may have been asked for. -/
def save (progress : Progress) (output : Output) (path? : Option String) (text : String) : Progress :=
  match path? with
  | none => progress
  | some path =>
    match progress.tree.save? path text with
    | .ok tree => { progress with tree }
    | .error error => progress.complain [.writing output error]

end Progress

namespace Options

/-- How the terms of a query are searched for. -/
def mode (options : Options) : Mode := if options.partially then .partially else .exactly

/-! ## Stages of all runs -/

/-- The files to be indexed, if any are asked for and can be listed. -/
def textFiles (options : Options) (tree : Tree) : Option (List String) × List Complaint :=
  match options.text? with
  | none => (none, [])
  | some path =>
    match tree.textFiles? path with
    | .ok paths => (some paths, [])
    | .error error => (none, [.listing error])

/-- The index with the pages of a crawl. -/
def crawled (options : Options) (web : Web) (index : Index) : Index × List Complaint :=
  match options.html? with
  | none => (index, [])
  | some seed =>
    match crawl web options.workers index seed options.max with
    | .ok (index, _) => (index, [])
    | .error error => (index, [.crawling error])

/-- Writes the counts and the index. -/
def saveIndex (options : Options) (index : Index) (progress : Progress) : Progress :=
  (progress.save .counts options.counts? index.totalsReport).save .index options.index? index.report

/-- The file of queries, if there are queries to be searched. -/
def queryFile? (options : Options) (tree : Tree) : Option QueryFile := options.query?.map tree.queryFile

/-- Complains if the queries could not all be read, writes the answers, and is done. -/
def report (options : Options) (index : Index) (answers : Answers) (error? : Option AccessError)
    (progress : Progress) : Report :=
  let progress := progress.complain (error?.toList.map .searching)
  let progress := progress.save .results options.results? (resultsReport answers)
  ⟨progress.tree, progress.complaints, index.size⟩

/-! ## One thing after the other -/

/-- The answers to the queries, searched one after the other. -/
def answered (options : Options) (tree : Tree) (index : Index) : Answers × Option AccessError :=
  match options.query? with
  | none => (.empty, none)
  | some path =>
    let ((queries, _), error?) := (InlineQueries.ofIndex index).takeFile options.mode tree path
    (queries.answers, error?)

/-- A run of one thing after the other. -/
def runSingle (options : Options) (tree : Tree) : Report :=
  let (paths?, complaints) := options.textFiles tree
  let (index, _) := Index.empty.addFiles tree (paths?.getD [])
  let progress := options.saveIndex index ⟨tree, complaints⟩
  let (answers, error?) := options.answered progress.tree index
  options.report index answers error? progress

end Options

end Concordance
