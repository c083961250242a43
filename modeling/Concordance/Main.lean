import Concordance.Command.Run

/-!
# The program

The program works on a tree of files whose names it reads from standard
input, one to a line; a name that cannot be read as a file is that of a
directory. It runs on the tree in memory and then writes the outputs that it
was asked for. There is no network behind it, so a crawl finds no pages, and
a server has nobody to answer.
-/

namespace Concordance.Program

def usage : String :=
  "Build a stemmed inverted index from text files or a web crawl and search it\n\n" ++
  "  --text TEXT          Text file or directory of .txt/.text files to index\n" ++
  "  --html HTML          Seed url to crawl and index\n" ++
  "  --max MAX            Maximum number of pages to crawl, seed included [default: 1]\n" ++
  "  --threads [THREADS]  Build and search on a worker pool\n" ++
  "  --query QUERY        File of search queries, one per line\n" ++
  "  --partial            Prefix search instead of exact search\n" ++
  "  --index [INDEX]      Write the inverted index as JSON\n" ++
  "  --counts [COUNTS]    Write per-location token counts as JSON\n" ++
  "  --results [RESULTS]  Write search results as JSON\n" ++
  "  --port [PORT]        Serve the index over HTTP on this port once built\n" ++
  "  -h, --help           Print help\n"

/-- The lines of standard input up to its end. -/
partial def readLines (input : IO.FS.Stream) (lines : Array String) : IO (Array String) := do
  let line ← input.getLine
  if line.isEmpty then return lines
  readLines input (lines.push (line.dropEndWhile (· == '\n')).toString)

/-- The tree of the files of given names. -/
def readTree (names : Array String) : IO Tree :=
  names.foldlM (fun (tree : Tree) (name : String) => do
    let inner ←
      try
        pure (Tree.file (← IO.FS.readBinFile name).toList)
      catch _ => pure Tree.empty
    return tree.plant inner name) .empty

/-- Writes a file of the tree to its place. -/
def writeOut (tree : Tree) (path : String) : IO Unit :=
  match tree.read? path with
  | .ok content => IO.FS.writeBinFile path ⟨content.toArray⟩
  | .error _ => pure ()

/-- A duration in seconds, with six decimal places. -/
def seconds (nanoseconds : Nat) : String :=
  let micros := nanoseconds / 1000
  let fraction := toString (micros % 1000000)
  toString (micros / 1000000) ++ "." ++ "".pushn '0' (6 - fraction.length) ++ fraction

/-- Runs with options and tells how it went. -/
def run (options : Options) : IO Unit := do
  let tree ← readTree (← readLines (← IO.getStdin) #[])
  let began ← IO.monoNanosNow
  let report := options.run .empty tree
  for complaint in report.complaints do
    IO.eprintln complaint.message
  for path in [options.counts?, options.index?, options.results?].filterMap id do
    writeOut report.tree path
  IO.println ("Elapsed: " ++ seconds ((← IO.monoNanosNow) - began) ++ " seconds")

end Concordance.Program

open Concordance in
def main (words : List String) : IO UInt32 :=
  match Options.ofWords words with
  | .ok options => do
    unless options.canStart Pool.mostWorkers do
      IO.eprintln "capacity overflow"
      return 101
    Program.run options
    return 0
  | .error .helpWanted => do
    IO.print Program.usage
    return 0
  | .error .misuse => do
    IO.eprint Program.usage
    return 2
