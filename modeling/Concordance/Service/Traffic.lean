import Concordance.Query.Room
import Concordance.Service.Server

/-!
# Requests that run into each other

A server answers many requests at once, while its owner has lines looked up. A
well-formed search in the server's mode is a caller in the reading room that
the server shares with its owner, and its lookup goes on in steps between which
all others may move. A search in the other mode looks at the index only. All
other requests are answered where they come.
-/

namespace Concordance

/-- The hits of a line when it is searched at once, without a cache. -/
def Index.searchLine (index : Index) (mode : Mode) (line : String) : List Hit :=
  match Query.ofLine? line with
  | none => []
  | some query => index.search mode query.terms

namespace Request

/-- The parameters of a well-formed search. -/
def search? (request : Request) : Option SearchParameters :=
  if request.method = "GET" ∨ request.method = "HEAD" then
    match Route.ofPath? request.target.path with
    | some .search => (SearchParameters.ofQuery (request.target.query?.getD [])).toOption
    | _ => none
  else none

/-- The answer to a search when its hits are there. -/
def found (request : Request) (origins : Origins) (parameters : SearchParameters)
    (hits : List Hit) : Response :=
  ⟨200,
    if request.method = "HEAD" then .text ""
    else .found parameters.query hits.length (hits.take parameters.shown),
    origins.allowed? request.origin?⟩

end Request

/-- How far a request has come. -/
inductive Exchange.Stage where
  /-- A caller looks it up. -/
  | asking (parameters : SearchParameters) (caller : Nat)
  /-- About to be searched for in the mode that is not the server's. -/
  | aside (parameters : SearchParameters)
  /-- At its end, with an answer unless a search of the index failed. -/
  | answered (response? : Option Response)

structure Exchange where
  request : Request
  stage : Exchange.Stage

/-- A server at work, with all requests that ever came. -/
structure Traffic where
  room : ReadingRoom
  mode : Mode
  origins : Origins
  exchanges : List Exchange

inductive TrafficEvent where
  | arrive (request : Request)
  /-- The next step of anybody's lookup, a line of the owner's, or a change of
  the index. -/
  | room (event : ReadingEvent)
  /-- A request whose hits are there, or who needs no lookup, is answered. -/
  | answer (exchange : Nat)

namespace Traffic

def start (workers : Nat) (index : Index) (mode : Mode) (origins : Origins) : Traffic :=
  ⟨.start workers index, mode, origins, []⟩

def server (traffic : Traffic) : Server := ⟨traffic.room.pool, traffic.mode⟩

def modeOf (traffic : Traffic) (parameters : SearchParameters) : Mode :=
  parameters.mode?.getD traffic.mode

/-- What becomes of a request now, unless it has to wait for its lookup. -/
def outcome? (traffic : Traffic) (exchange : Exchange) : Option (Option Response) :=
  match exchange.stage with
  | .asking parameters caller =>
    match (traffic.room.callers[caller]?).map Lookup.stage with
    | some (.answered hits) =>
      some (some (exchange.request.found traffic.origins parameters hits))
    | some .failed => some none
    | _ => none
  | .aside parameters =>
    let hits := traffic.server.index.searchLine (traffic.modeOf parameters) parameters.query
    some (some (exchange.request.found traffic.origins parameters hits))
  | .answered _ => none

/-- What an event makes of a server at work, if it can happen. -/
def step? (traffic : Traffic) : TrafficEvent → Option Traffic
  | .arrive request =>
    match request.search? with
    | none =>
      let response? := (traffic.server.respond traffic.origins request).2
      some { traffic with exchanges := traffic.exchanges ++ [⟨request, .answered response?⟩] }
    | some parameters =>
      if traffic.modeOf parameters = traffic.mode then
        (traffic.room.step? (.call traffic.mode parameters.query)).map fun room =>
          { traffic with
            room
            exchanges := traffic.exchanges ++
              [⟨request, .asking parameters traffic.room.callers.length⟩] }
      else some { traffic with exchanges := traffic.exchanges ++ [⟨request, .aside parameters⟩] }
  | .room event => (traffic.room.step? event).map fun room => { traffic with room }
  | .answer i =>
    (traffic.exchanges[i]?).bind fun exchange =>
      (traffic.outcome? exchange).map fun response? =>
        { traffic with
          exchanges := traffic.exchanges.set i { exchange with stage := .answered response? } }

/-- What a run of events makes of a server at work, if each can happen in turn. -/
def run? (traffic : Traffic) (events : List TrafficEvent) : Option Traffic :=
  events.foldlM step? traffic

end Traffic

end Concordance
