import Concordance.Query.Pooled
import Concordance.Service.Origins
import Concordance.Service.Parameters
import Concordance.Service.Target

/-!
# Searching over the web

A server answers requests for three paths: whether it is there at all, how
large its index is, and a search. It has a mode of searching of its own. A
search in that mode goes through the answers it keeps for all queries, and so
do the lines that its owner submits; a search in the other mode goes to the
index and leaves no trace.

A request that asks for the head of an answer is treated like one that asks
for the whole answer, up to the text, which is left out. A request that asks
for the options is answered before anybody looks at its path.
-/

namespace Concordance

structure Server where
  queries : PooledQueries
  mode : Mode

structure Request where
  method : String
  target : Target
  /-- The origin of the page that asks. -/
  origin? : Option String

/-- What an answer holds. -/
inductive Body where
  | text (s : String)
  | size (words locations : Nat)
  /-- The text searched for, how many hits it has, and those that are shown. -/
  | found (query : String) (total : Nat) (hits : List Hit)

structure Response where
  status : Nat
  body : Body
  allowedOrigin? : Option String

inductive Route where
  | health
  | search
  | stats
deriving DecidableEq, Repr

def Route.ofPath? (path : List Char) : Option Route :=
  if path = "/health".toList then some health
  else if path = "/search".toList then some search
  else if path = "/stats".toList then some stats
  else none

namespace Server

/-- A server of an index, which has not answered any query yet. -/
def start (index : Index) (mode : Mode) : Server := ⟨.start 1 index, mode⟩

def index (server : Server) : Index := server.queries.shared.probe.index

/-- The server when somebody has changed the index. -/
def setIndex (server : Server) (index : Index) : Server :=
  { server with queries := server.queries.setProbe fun probe => { probe with index } }

/-- The hits of a line, unless a search of the index failed. -/
def search (server : Server) (mode : Mode) (line : String) : Server × Option (List Hit) :=
  if mode = server.mode then
    let (queries, hits?) := server.queries.search mode line
    ({ server with queries }, hits?)
  else
    match Query.ofLine? line with
    | none => (server, some [])
    | some query => (server, some (server.index.search mode query.terms))

/-- Status and body of the answer to a request for a route. -/
def answer (server : Server) (query : List Char) : Route → Server × Option (Nat × Body)
  | .health => (server, some (200, .text "ok"))
  | .stats => (server, some (200, .size server.index.size server.index.totals.size))
  | .search =>
    match SearchParameters.ofQuery query with
    | .error fault => (server, some (400, .text fault.message))
    | .ok parameters =>
      let (server, hits?) := server.search (parameters.mode?.getD server.mode) parameters.query
      (server, hits?.map fun hits =>
        (200, .found parameters.query hits.length (hits.take parameters.shown)))

/-- Answers a request, unless a search of the index failed. -/
def respond (server : Server) (origins : Origins) (request : Request) : Server × Option Response :=
  let allowed? := origins.allowed? request.origin?
  let plain (status : Nat) : Server × Option Response := (server, some ⟨status, .text "", allowed?⟩)
  if request.method = "OPTIONS" then plain 200
  else match Route.ofPath? request.target.path with
    | none => plain 404
    | some route =>
      if request.method ≠ "GET" ∧ request.method ≠ "HEAD" then plain 405
      else
        let (server, answer?) := server.answer (request.target.query?.getD []) route
        (server, answer?.map fun (status, body) =>
          ⟨status, if request.method = "HEAD" then .text "" else body, allowed?⟩)

end Server

end Concordance
