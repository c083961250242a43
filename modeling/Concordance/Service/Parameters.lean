import Concordance.Index.Search
import Concordance.Text.Number
import Concordance.Text.Utf8
import Concordance.Url.Percent

/-!
# Parameters of a search

The query of a target is a list of pairs, joined by ampersands. In a pair the
name ends at the first equals sign, and in both parts a plus sign is a space
and bytes can be written as digits. A search needs a text to search for; how
many hits it shows and how terms are searched for can be left open. Other
names mean nothing.

The pairs are taken in their order, and the first fault is the one that is
told.
-/

namespace Concordance

/-- The pairs of a query, without those that are nothing at all. -/
def queryPairs (query : List Char) : List (String × String) :=
  ((query.splitOnP (· == '&')).filter (· ≠ [])).map fun pair =>
    (part (pair.takeWhile (· ≠ '=')), part ((pair.dropWhile (· ≠ '=')).drop 1))
where
  /-- What a part of a pair stands for. -/
  part (text : List Char) : String :=
    .ofList (Text.Utf8.decodeLossy (Url.percentDecode (text.map fun c => if c = '+' then ' ' else c)))

/-- What is wrong with the parameters of a search. -/
inductive ParameterFault where
  | missing (name : String)
  | duplicate (name : String)
  | number (fault : Text.NumberFault)
  | notBoolean
deriving DecidableEq, Repr

def ParameterFault.message (fault : ParameterFault) : String :=
  "Failed to deserialize query string: " ++
    match fault with
    | missing name => "missing field \x60" ++ name ++ "\x60"
    | duplicate name => "duplicate field \x60" ++ name ++ "\x60"
    | number fault => fault.message
    | notBoolean => "provided string was not \x60true\x60 or \x60false\x60"

structure SearchParameters where
  query : String
  /-- How many hits are asked for. -/
  asked : Nat
  mode? : Option Mode
deriving Repr

namespace SearchParameters

/-- How many hits are shown: at least one and at most a hundred. -/
def shown (parameters : SearchParameters) : Nat := max 1 (min parameters.asked 100)

/-- What the pairs so far have told. -/
structure Draft where
  query? : Option String
  asked? : Option Nat
  mode? : Option Mode

namespace Draft

def empty : Draft := ⟨none, none, none⟩

def readMode? (value : String) : Option Mode :=
  if value = "true" then some .exactly
  else if value = "false" then some .partially
  else none

/-- Takes the next pair. -/
def take (draft : Draft) (pair : String × String) : Except ParameterFault Draft :=
  match pair with
  | ("q", value) =>
    if draft.query?.isSome then .error (.duplicate "q") else .ok { draft with query? := some value }
  | ("k", value) =>
    if draft.asked?.isSome then .error (.duplicate "k")
    else match Text.readNumber Text.mostCount value.toList with
      | .ok asked => .ok { draft with asked? := some asked }
      | .error fault => .error (.number fault)
  | ("exact", value) =>
    if draft.mode?.isSome then .error (.duplicate "exact")
    else match readMode? value with
      | some mode => .ok { draft with mode? := some mode }
      | none => .error .notBoolean
  | _ => .ok draft

end Draft

/-- The parameters that the query of a target gives. -/
def ofQuery (query : List Char) : Except ParameterFault SearchParameters := do
  let draft ← (queryPairs query).foldlM Draft.take .empty
  match draft.query? with
  | none => .error (.missing "q")
  | some query => .ok ⟨query, draft.asked?.getD 10, draft.mode?⟩

end SearchParameters

end Concordance
