import Concordance.Text.Number

/-!
# Options of the command line

The words behind the program's name are flags and their values. A flag begins
with two hyphens. Its value is the word that follows, or stands in the same
word behind an equals sign; in the second form it can begin with a hyphen and
can be empty. Some flags take no value, and some stand for a usual value when
no value follows.

The words are read from the left, and the first that is out of place ends the
reading. No flag is given twice. A word of two hyphens ends the flags, and as
there is nothing but flags, nothing can follow it. Asking for help is obeyed
at once, if everything before it was in order.
-/

namespace Concordance

inductive Flag where
  | text
  | html
  | max
  | threads
  | query
  | partially
  | index
  | counts
  | results
  | port
deriving DecidableEq, Repr

/-- What follows a flag. -/
inductive Flag.Takes where
  | nothing
  | value
  /-- A value, or nothing, which stands for the usual value. -/
  | valueOr (usual : String)

namespace Flag

def ofName? : String → Option Flag
  | "text" => some text
  | "html" => some html
  | "max" => some max
  | "threads" => some threads
  | "query" => some query
  | "partial" => some partially
  | "index" => some index
  | "counts" => some counts
  | "results" => some results
  | "port" => some port
  | _ => none

def takes : Flag → Takes
  | text | html | max | query => .value
  | partially => .nothing
  | threads => .valueOr "5"
  | index => .valueOr "index.json"
  | counts => .valueOr "counts.json"
  | results => .valueOr "results.json"
  | port => .valueOr "8080"

end Flag

/-- What a run is asked to do. -/
structure Options where
  /-- The file or directory to be indexed. -/
  text? : Option String
  /-- The address to crawl from. -/
  html? : Option String
  /-- How many pages a crawl may visit. -/
  max : Nat
  threads? : Option Nat
  /-- The file of queries. -/
  query? : Option String
  /-- Search for words that begin with a term, not only for the term itself. -/
  partially : Bool
  index? : Option String
  counts? : Option String
  results? : Option String
  port? : Option Nat
deriving DecidableEq, Repr

namespace Options

/-- The options when no flag is given. -/
def usual : Options :=
  { text? := none, html? := none, max := 1, threads? := none, query? := none, partially := false,
    index? := none, counts? := none, results? := none, port? := none }

/-- Whether a run works on a pool. A crawl always does, and so does a server, which shares the
answers of the pool. -/
def usesPool (options : Options) : Bool :=
  options.threads?.isSome || options.html?.isSome || options.port?.isSome

/-- How many workers the pool has. Asking for none is asking for the usual number. -/
def workers (options : Options) : Nat :=
  match options.threads? with
  | none | some 0 => 5
  | some n => n

/-! ## Values -/

/-- A path, which is never empty. -/
def readPath? (value : String) : Option String := if value = "" then none else some value

def readCount? (value : String) : Option Nat := (Text.readNumber Text.mostCount value.toList).toOption

/-- The number of a port. It may have any sign, so zero may be negative. -/
def readPort? (value : String) : Option Nat :=
  match value.toList with
  | '-' :: c :: digits => (Text.readDigits 0 0 (c :: digits)).toOption
  | text => (Text.readNumber 0xFFFF text).toOption

/-- The options with the value of a flag, if that is a value the flag can have. -/
def set? (options : Options) (flag : Flag) (value : String) : Option Options :=
  match flag with
  | .text => (readPath? value).map fun path => { options with text? := some path }
  | .html => some { options with html? := some value }
  | .max => (readCount? value).map fun max => { options with max }
  | .threads => (readCount? value).map fun count => { options with threads? := some count }
  | .query => (readPath? value).map fun path => { options with query? := some path }
  | .partially => some { options with partially := true }
  | .index => (readPath? value).map fun path => { options with index? := some path }
  | .counts => (readPath? value).map fun path => { options with counts? := some path }
  | .results => (readPath? value).map fun path => { options with results? := some path }
  | .port => (readPort? value).map fun number => { options with port? := some number }

end Options

/-! ## Words -/

/-- What a word looks like. -/
inductive Word where
  /-- The end of the flags. -/
  | escape
  | long (name : String) (value? : Option String)
  /-- A single hyphen with letters behind it. -/
  | short (letter : Char)
  | plain

def Word.ofString (word : String) : Word :=
  match word.toList with
  | ['-', '-'] => escape
  | '-' :: '-' :: rest =>
    let name := .ofList (rest.takeWhile (· ≠ '='))
    match rest.dropWhile (· ≠ '=') with
    | _ :: value => long name (some (.ofList value))
    | [] => long name none
  | '-' :: letter :: _ => short letter
  | _ => plain

/-- Why there are no options to run with. -/
inductive Refusal where
  | helpWanted
  | misuse
deriving DecidableEq, Repr

/-- What is known after some of the words. -/
structure Command where
  options : Options
  given : List Flag
  /-- The flag that the next word may belong to. -/
  open? : Option Flag
  ended : Bool

namespace Command

def start : Command := ⟨.usual, [], none, false⟩

/-- Takes the value of a flag. -/
def give (command : Command) (flag : Flag) (value : String) : Except Refusal Command :=
  if flag ∈ command.given then .error .misuse
  else match command.options.set? flag value with
    | none => .error .misuse
    | some options => .ok { command with options, given := flag :: command.given, open? := none }

/-- Goes on without a value for the open flag. -/
def close (command : Command) : Except Refusal Command :=
  match command.open? with
  | none => .ok command
  | some flag =>
    match flag.takes with
    | .valueOr value => command.give flag value
    | .value | .nothing => .error .misuse

/-- Takes a flag that is written out. -/
def takeLong (command : Command) (name : String) (value? : Option String) : Except Refusal Command := do
  let command ← command.close
  match Flag.ofName? name, value? with
  | none, none => .error (if name = "help" then .helpWanted else .misuse)
  | none, some _ => .error .misuse
  | some flag, some value =>
    match flag.takes with
    | .nothing => .error .misuse
    | .value | .valueOr _ => command.give flag value
  | some flag, none =>
    match flag.takes with
    | .nothing => command.give flag ""
    | .value | .valueOr _ => .ok { command with open? := some flag }

/-- Takes the next word. -/
def take (command : Command) (word : String) : Except Refusal Command :=
  if command.ended then .error .misuse
  else match Word.ofString word with
    | .escape => .ok { command with ended := true }
    | .long name value? => command.takeLong name value?
    | .short letter => do
      let _ ← command.close
      .error (if letter = 'h' then .helpWanted else .misuse)
    | .plain =>
      match command.open? with
      | some flag => command.give flag word
      | none => .error .misuse

end Command

/-- The options that words stand for. -/
def Options.ofWords (words : List String) : Except Refusal Options := do
  let command ← words.foldlM Command.take .start
  let command ← command.close
  .ok command.options

end Concordance
