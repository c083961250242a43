import Concordance.Index.Report
import Concordance.Index.Search
import Concordance.Lock.Basic

/-!
# An index that threads share

Threads change an index and ask it questions behind one lock: who changes it
holds the lock alone, who asks shares it with others who ask. Neither is done in
one go. A run of terms is recorded token by token, another index is taken in
posting by posting, and a search looks at the index for each term and for each
hit. In between, all other threads may move as far as the lock lets them.

A thread that holds the lock to read may ask any number of questions, and what
it asks may depend on what it was told: that is an inquiry. A single question is
an inquiry with one answer.

What is called a caller here is one use of the index, from the call to its
return. A thread that makes several calls, or makes one while it holds the lock
to read, is several callers.
-/

namespace Concordance

/-! ## Changes -/

inductive Change where
  | add (term : Term) (location : Location) (position : Nat)
  | addAll (terms : List Term) (location : Location) (start : Nat)
  | merge (other : Index)

namespace Change

/-- What a change makes of an index, done in one go. -/
def apply (index : Index) : Change → Index
  | add term location position => index.add term location position
  | addAll terms location start => index.addAll terms location start
  | merge other => index.merge other

/-- What is left of a change under way. -/
inductive Rest where
  | tokens (terms : List Term) (location : Location) (position : Nat)
  | postings (entries : List (Term × Occurrences)) (totals : List (Location × UInt64))
  /-- In the middle of a term that the index has as well. -/
  | locations (term : Term) (entries : List (Location × SortedSet Nat))
      (postings : List (Term × Occurrences)) (totals : List (Location × UInt64))

def start : Change → Rest
  | add term location position => .tokens [term] location position
  | addAll terms location start => .tokens terms location start
  | merge other => .postings other.postings.entries other.totals.entries

/-- Takes in where a term that the index has occurs at one location. -/
def joinLocation (index : Index) (term : Term) (location : Location) (positions : SortedSet Nat) :
    Index :=
  { index with
    postings := index.postings.update term fun mine =>
      (mine.getD .empty).update location fun old =>
        old.elim positions (SortedSet.union · positions) }

/-- The next step of a change, if one is left: a token, a posting or a total. -/
def Rest.step? (index : Index) : Rest → Option (Index × Rest)
  | tokens [] _ _ => none
  | tokens (term :: terms) location position =>
    some (index.add term location position, tokens terms location (position + 1))
  | postings [] [] => none
  | postings [] ((location, total) :: totals) =>
    some ({ index with
      totals := index.totals.update location fun mine => mine.getD 0 + total }, postings [] totals)
  | postings ((term, occurrences) :: entries) totals =>
    if index.postings.contains term then
      some (index, locations term occurrences.entries entries totals)
    else
      some ({ index with postings := index.postings.insert term occurrences },
        postings entries totals)
  | locations _ [] entries totals => some (index, postings entries totals)
  | locations term ((location, positions) :: others) entries totals =>
    some (joinLocation index term location positions, locations term others entries totals)

end Change

/-! ## Questions -/

inductive Answer where
  | flag (holds : Bool)
  | number (n : Nat)
  | numbers (numbers : List Nat)
  | names (names : List String)
  | totals (totals : List (Location × UInt64))
  | hits (hits : List Hit)
  | text (text : String)

/-- What can be asked of an index by one call. -/
inductive Question where
  | contains (term : Term)
  | containsAt (term : Term) (location : Location)
  | containsPosition (term : Term) (location : Location) (position : Nat)
  | words
  | locations (term : Term)
  | positions (term : Term) (location : Location)
  | size
  | isEmpty
  | totals
  | total (location : Location)
  | report
  | totalsReport
  | search (mode : Mode) (terms : SortedSet Term)

/-- What an index answers that nobody changes. -/
def Question.answer (index : Index) : Question → Answer
  | contains term => .flag (index.contains term)
  | containsAt term location => .flag (index.containsAt term location)
  | containsPosition term location position =>
    .flag (index.containsPosition term location position)
  | words => .names index.words
  | locations term => .names (index.locations term)
  | positions term location => .numbers (index.positions term location)
  | size => .number index.size
  | isEmpty => .flag index.postings.isEmpty
  | totals => .totals index.totals.entries
  | total location => .number (index.total location).toNat
  | report => .text index.report
  | totalsReport => .text index.totalsReport
  | search mode terms => .hits (index.search mode terms)

/-- What a thread does while it holds the lock to read. -/
inductive Inquiry where
  /-- Looks at the index, and goes on as what it sees has it. -/
  | look (next : Index → Inquiry)
  /-- Comes by an answer. -/
  | tell (answer : Answer) (rest : Inquiry)
  | ended

namespace Inquiry

/-- What is told on the way, if the index stays as it is. -/
def answers (index : Index) : Inquiry → List Answer
  | look next => (next index).answers index
  | tell answer rest => answer :: rest.answers index
  | ended => []

/-- Looks up the totals of the locations that were found, one by one, and ranks
their hits. -/
def ranking (found : List (Location × Nat)) (hits : List Hit) (rest : Answer → Inquiry) :
    Inquiry :=
  match found with
  | [] =>
    let answer := .hits (Hit.ranked hits.reverse)
    .tell answer (rest answer)
  | (location, count) :: found =>
    .look fun index => ranking found (index.hit location count :: hits) rest

/-- Adds up the matches of terms, one by one, and ranks what was found. -/
def searching (mode : Mode) (terms : List Term) (found : Index.Matches)
    (rest : Answer → Inquiry) : Inquiry :=
  match terms with
  | [] => ranking found.entries [] rest
  | term :: terms =>
    .look fun index => searching mode terms
      ((index.matching mode term).foldl (fun found entry => Index.addMatches found entry.2) found)
      rest

/-- Writes an object of what is found under keys, one by one. -/
def describing (part : Index → String → Json.Document) (keys : List String)
    (members : List (String × Json.Document)) (rest : Answer → Inquiry) : Inquiry :=
  match keys with
  | [] =>
    let answer := .text (Json.Document.object members.reverse).pretty
    .tell answer (rest answer)
  | key :: keys =>
    .look fun index => describing part keys ((key, part index key) :: members) rest

end Inquiry

/-- Asks a question and goes on as the answer has it. -/
def Question.ask (question : Question) (rest : Answer → Inquiry) : Inquiry :=
  match question with
  | .search mode terms => .searching mode terms.toList .empty rest
  | .report =>
    .look fun index =>
      .describing (fun index term => (index.occurrences term).document) index.words [] rest
  | .totalsReport =>
    .look fun index =>
      .describing (fun index location => .number (index.total location).toNat)
        index.totals.keys [] rest
  | question => .look fun index => .tell (question.answer index) (rest (question.answer index))

/-! ## Callers -/

/-- What a caller wants the index for. -/
inductive Use where
  | change (change : Change)
  | read (inquiry : Inquiry)

/-- A call that asks one question. -/
def Question.use (question : Question) : Use := .read (question.ask fun _ => .ended)

/-- How far a caller has come. -/
inductive Caller.Stage where
  | changing (rest : Change.Rest)
  | reading (rest : Inquiry) (told : List Answer)
  | returned (told : List Answer)

structure Caller where
  use : Use
  stage : Caller.Stage

namespace Caller

def come : Use → Caller
  | .change change => ⟨.change change, .changing change.start⟩
  | .read inquiry => ⟨.read inquiry, .reading inquiry []⟩

/-- The side of the lock that a caller takes. -/
def entry (caller : Caller) (thread : Nat) : LockEvent :=
  match caller.use with
  | .change _ => .write thread
  | .read _ => .read thread

/-- Takes the next step of a caller that is in, if one is left. -/
def act? (index : Index) (caller : Caller) : Option (Index × Caller) :=
  match caller.stage with
  | .changing rest =>
    (rest.step? index).map fun (index, rest) => (index, { caller with stage := .changing rest })
  | .reading (.look next) told =>
    some (index, { caller with stage := .reading (next index) told })
  | .reading (.tell answer rest) told =>
    some (index, { caller with stage := .reading rest (told ++ [answer]) })
  | .reading .ended _ | .returned _ => none

/-- What a caller was told so far. -/
def told (caller : Caller) : List Answer :=
  match caller.stage with
  | .changing _ => []
  | .reading _ told | .returned told => told

def hasReturned (caller : Caller) : Bool :=
  match caller.stage with
  | .returned _ => true
  | .changing _ | .reading .. => false

end Caller

/-- The lock, the index behind it, and a caller for each of the lock's threads. -/
structure SharedIndex where
  lock : SharedLock
  index : Index
  callers : List Caller

inductive SharingEvent where
  | call (use : Use)
  /-- A caller asks for the lock. -/
  | enter (caller : Nat)
  /-- A caller that was woken tests again. -/
  | retest (caller : Nat)
  /-- A caller that is in takes its next step. -/
  | act (caller : Nat)
  /-- A caller that has no step left lets go and returns, which may wake the
  waiting writer named. -/
  | leave (caller : Nat) (woken? : Option Nat)

namespace SharedIndex

def start (index : Index) : SharedIndex := ⟨.unused 0, index, []⟩

/-- Whether a caller is let in to the lock. -/
def isIn (shared : SharedIndex) (caller : Nat) : Bool :=
  shared.lock.threads[caller]? = some .reading || shared.lock.threads[caller]? = some .writing

/-- What an event makes of a shared index, if it can happen. -/
def step? (shared : SharedIndex) : SharingEvent → Option SharedIndex
  | .call use =>
    some { shared with
      lock := { shared.lock with threads := shared.lock.threads ++ [.outside] }
      callers := shared.callers ++ [.come use] }
  | .enter i =>
    (shared.callers[i]?).bind fun caller =>
      if caller.hasReturned then none
      else (shared.lock.step? (caller.entry i)).map fun lock => { shared with lock }
  | .retest i => (shared.lock.step? (.retest i)).map fun lock => { shared with lock }
  | .act i =>
    (shared.callers[i]?).bind fun caller =>
      if shared.isIn i then
        (caller.act? shared.index).map fun (index, caller) =>
          { shared with index, callers := shared.callers.set i caller }
      else none
  | .leave i woken? =>
    (shared.callers[i]?).bind fun caller =>
      if (caller.act? shared.index).isSome then none
      else (shared.lock.step? (.release i woken?)).map fun lock =>
        { shared with
          lock
          callers := shared.callers.set i { caller with stage := .returned caller.told } }

/-- What a run of events makes of a shared index, if each can happen in turn. -/
def run? (shared : SharedIndex) (events : List SharingEvent) : Option SharedIndex :=
  events.foldlM step? shared

end SharedIndex

end Concordance
