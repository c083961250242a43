import Concordance.Proofs.FreshSearches

/-!
# Searches over the web are fresh searches

A search in the server's mode is a lookup in the room that the server shares
with its owner, and the cache of the room knows nothing of modes. That is right
since only lookups in one mode come there: a search in the other mode never
touches the cache. So every answer has the hits of a search of the index as it
is, in the mode that was asked for, however requests and submitted lines run
into each other (`Traffic.run_fresh`).

No request waits for another. Its lookup is never held, and told that another
has the claim it searches all the same; a few steps of its own lead from
anywhere to its answer. With nothing in between these are the steps of
`Server.respond` (`Traffic.run_respond`).
-/

namespace Concordance

/-! ## Lookups of callers -/

namespace Lookup

/-- The lookup of a caller is never held. -/
theorem exists_step?_of_called (desk : Desk) {lookup : Lookup}
    (hcalled : lookup.called = true) (hleft : lookup.stepsLeft ≠ 0) :
    ∃ after rest, lookup.step? desk = some (after, rest) := by
  obtain ⟨mode, called, stage⟩ := lookup
  obtain rfl : called = true := hcalled
  cases stage with
  | fresh line =>
      simp only [step?]
      split <;> exact ⟨_, _, rfl⟩
  | searching query claimed =>
      simp only [step?, Bool.not_true, Bool.and_false, Bool.false_eq_true,
        if_false]
      exact ⟨_, _, rfl⟩
  | ready | found | crashed => exact ⟨_, _, rfl⟩
  | answered | failed => exact absurd rfl hleft

theorem stepsLeft_le (lookup : Lookup) : lookup.stepsLeft ≤ 4 := by
  obtain ⟨mode, called, stage⟩ := lookup
  cases stage <;> simp [stepsLeft]

theorem stepsLeft_runFor (n : Nat) : ∀ (desk : Desk) (lookup : Lookup),
    lookup.called = true → lookup.stepsLeft ≤ n →
      (lookup.runFor n desk).2.stepsLeft = 0 := by
  induction n with
  | zero => exact fun _ _ _ hleft => Nat.le_zero.mp hleft
  | succ n ih =>
      intro desk lookup hcalled hleft
      by_cases hover : lookup.stepsLeft = 0
      · rw [runFor]
        split
        · next hstep =>
            have hless := stepsLeft_of_step (step_of_step? hstep)
            rw [hover] at hless
            exact absurd hless (Nat.not_lt_zero _)
        · exact hover
      · obtain ⟨after, rest, hstep⟩ :=
          exists_step?_of_called desk hcalled hover
        rw [runFor, hstep]
        have hless := stepsLeft_of_step (step_of_step? hstep)
        apply ih
        · rw [called_of_step (step_of_step? hstep), hcalled]
        · omega

end Lookup

namespace ReadingRoom

/-- The next steps of one caller, with nothing in between. -/
theorem exists_run?_own (k : Nat) (n : Nat) :
    ∀ {room : ReadingRoom} {lookup : Lookup},
      room.callers[k]? = some lookup →
      ∃ m ≤ n, room.run? (List.replicate m (.own k)) =
        some ⟨{ room.pool with shared := (lookup.runFor n room.pool.shared).1 },
          room.callers.set k (lookup.runFor n room.pool.shared).2⟩ := by
  have hstill : ∀ {room : ReadingRoom} {lookup : Lookup},
      room.callers[k]? = some lookup →
        room = ⟨room.pool, room.callers.set k lookup⟩ := by
    intro room lookup hk
    obtain ⟨hlt, hget⟩ := List.getElem?_eq_some_iff.mp hk
    rw [← hget, List.set_getElem_self]
  induction n with
  | zero => exact fun hk => ⟨0, le_refl 0, congrArg some (hstill hk)⟩
  | succ n ih =>
      intro room lookup hk
      rw [Lookup.runFor]
      split
      · next after rest hstep =>
          have hnext : room.step? (.own k) =
              some ⟨{ room.pool with shared := after },
                room.callers.set k rest⟩ := by
            rw [step?, lookup?, hk, Option.bind_some, hstep]
            rfl
          have hlt := (List.getElem?_eq_some_iff.mp hk).1
          have hset : (room.callers.set k rest)[k]? = some rest :=
            List.getElem?_set_self hlt
          obtain ⟨m, hm, hrun⟩ := @ih ⟨_, _⟩ rest hset
          refine ⟨m + 1, Nat.succ_le_succ hm, ?_⟩
          rw [List.set_set] at hrun
          exact (run_cons hnext _).trans hrun
      · exact ⟨0, Nat.zero_le _, congrArg some (hstill hk)⟩

end ReadingRoom

/-! ## What every event keeps -/

/-- An event that does not change the index or let a search fail, and brings no
line of the owner's in another mode than the server's. -/
def TrafficEvent.IsCalm (mode : Mode) : TrafficEvent → Prop
  | .room event => event.IsCalm mode
  | .arrive _ | .answer _ => True

namespace Traffic

/-- The answer that a search gets. -/
def freshAnswer (index : Index) (traffic : Traffic) (request : Request)
    (parameters : SearchParameters) : Response :=
  request.found traffic.origins parameters
    (index.searchLine (traffic.modeOf parameters) parameters.query)

/-- How it is with a request. -/
inductive Fares (index : Index) (traffic : Traffic) (request : Request) :
    Exchange.Stage → Prop where
  | asking {parameters : SearchParameters} {caller : Nat}
      (hsearch : request.search? = some parameters)
      (hmode : traffic.modeOf parameters = traffic.mode)
      (hseeks : ReadingRoom.Seeks index traffic.mode traffic.room.callers caller
        parameters.query) :
      Fares index traffic request (.asking parameters caller)
  | aside {parameters : SearchParameters}
      (hsearch : request.search? = some parameters) :
      Fares index traffic request (.aside parameters)
  | answered {response? : Option Response}
      (hfresh : ∀ parameters, request.search? = some parameters →
        response? = some (traffic.freshAnswer index request parameters)) :
      Fares index traffic request (.answered response?)

structure Served (index : Index) (traffic : Traffic) : Prop where
  room : ReadingRoom.Calm index traffic.mode traffic.room.pool.shared
    traffic.room.pool.tasks traffic.room.callers
  exchanges : ∀ exchange ∈ traffic.exchanges,
    Fares index traffic exchange.request exchange.stage

variable {index : Index} {traffic next : Traffic}

/-- It stays so while callers go on to the hits of their lines. -/
theorem Fares.keep {request : Request} {stage : Exchange.Stage}
    (h : Fares index traffic request stage) {room : ReadingRoom}
    {exchanges : List Exchange}
    (hseeks : ∀ k line,
      ReadingRoom.Seeks index traffic.mode traffic.room.callers k line →
        ReadingRoom.Seeks index traffic.mode room.callers k line) :
    Fares index ⟨room, traffic.mode, traffic.origins, exchanges⟩ request
      stage := by
  cases h with
  | asking hsearch hmode hline =>
      exact .asking hsearch hmode (hseeks _ _ hline)
  | aside hsearch => exact .aside hsearch
  | answered hfresh => exact .answered hfresh

/-- Whoever is answered gets the answer of a fresh search. -/
theorem fares_of_outcome? (h : Served index traffic) {exchange : Exchange}
    {response? : Option Response}
    (hfares : Fares index traffic exchange.request exchange.stage)
    (houtcome : traffic.outcome? exchange = some response?) :
    Fares index traffic exchange.request (.answered response?) := by
  obtain ⟨request, stage⟩ := exchange
  refine .answered fun parameters hparameters => ?_
  cases hfares with
  | @asking asked caller hsearch hmode hseeks =>
      obtain rfl : asked = parameters :=
        Option.some.inj (hsearch.symm.trans hparameters)
      obtain ⟨lookup, hk, hcalled, -, hstage⟩ := hseeks
      simp only [outcome?, hk, Option.map_some] at houtcome
      split at houtcome
      · next hits heq =>
          obtain heq : lookup.stage = .answered hits := Option.some.inj heq
          rw [heq] at hstage
          rw [← Option.some.inj houtcome, freshAnswer, hmode,
            ← hstage hcalled]
      · next heq =>
          obtain heq : lookup.stage = .failed := Option.some.inj heq
          rw [heq] at hstage
          exact hstage.elim
      · cases houtcome
  | @aside asked hsearch =>
      obtain rfl : asked = parameters :=
        Option.some.inj (hsearch.symm.trans hparameters)
      have hindex : traffic.server.index = index := h.room.desk.unchanged
      rw [← Option.some.inj houtcome, freshAnswer, hindex]
  | answered => cases houtcome

/-- One more request. -/
theorem Served.arrive (h : Served index traffic) {room : ReadingRoom}
    {exchange : Exchange}
    (hroom : ReadingRoom.Calm index traffic.mode room.pool.shared
      room.pool.tasks room.callers)
    (hseeks : ∀ k line,
      ReadingRoom.Seeks index traffic.mode traffic.room.callers k line →
        ReadingRoom.Seeks index traffic.mode room.callers k line)
    (hfares : Fares index { traffic with room } exchange.request
      exchange.stage) :
    Served index
      { traffic with room, exchanges := traffic.exchanges ++ [exchange] } where
  room := hroom
  exchanges := by
    intro other hother
    rcases List.mem_append.mp hother with hmem | hnew
    · exact (h.exchanges other hmem).keep hseeks
    · rw [List.mem_singleton.mp hnew]
      exact hfares.keep fun _ _ hline => hline

theorem served_of_step? {event : TrafficEvent} (h : Served index traffic)
    (hstep : traffic.step? event = some next)
    (hcalm : event.IsCalm traffic.mode) :
    Served index next ∧ next.mode = traffic.mode ∧
      next.origins = traffic.origins := by
  cases event with
  | arrive request =>
      simp only [step?] at hstep
      split at hstep
      · next hsearch =>
          cases hstep
          refine ⟨h.arrive h.room (fun _ _ hline => hline) ?_, rfl, rfl⟩
          refine .answered fun parameters hparameters => ?_
          rw [hsearch] at hparameters
          cases hparameters
      · next parameters hsearch =>
          split at hstep
          · next hmode =>
              obtain ⟨room, hroom, rfl⟩ := Option.map_eq_some_iff.mp hstep
              obtain ⟨hcalled, hseeks⟩ :=
                ReadingRoom.calm_of_step? hroom rfl h.room
              refine ⟨h.arrive hcalled hseeks ?_, rfl, rfl⟩
              refine .asking hsearch hmode ?_
              cases hroom
              exact ⟨_, List.getElem?_concat_length, rfl,
                Lookup.seeks_ofLine true parameters.query⟩
          · cases hstep
            refine ⟨h.arrive h.room (fun _ _ hline => hline) ?_, rfl, rfl⟩
            exact .aside hsearch
  | room event =>
      obtain ⟨room, hroom, rfl⟩ := Option.map_eq_some_iff.mp hstep
      obtain ⟨hnext, hseeks⟩ := ReadingRoom.calm_of_step? hroom hcalm h.room
      refine ⟨⟨hnext, ?_⟩, rfl, rfl⟩
      exact fun exchange hmem => (h.exchanges exchange hmem).keep hseeks
  | answer i =>
      obtain ⟨exchange, hi, hstep⟩ := Option.bind_eq_some_iff.mp hstep
      obtain ⟨response?, houtcome, rfl⟩ := Option.map_eq_some_iff.mp hstep
      refine ⟨⟨h.room, ?_⟩, rfl, rfl⟩
      have hfares := fares_of_outcome? h
        (h.exchanges exchange (List.mem_of_getElem? hi)) houtcome
      intro other hother
      rcases List.mem_or_eq_of_mem_set hother with hmem | rfl
      · exact (h.exchanges other hmem).keep fun _ _ hline => hline
      · exact hfares.keep fun _ _ hline => hline

theorem served_start (workers : Nat) (index : Index) (mode : Mode)
    (origins : Origins) :
    Served index (start workers index mode origins) :=
  ⟨ReadingRoom.calm_start workers index mode, nofun⟩

theorem served_of_run? {traffic last : Traffic} {events : List TrafficEvent}
    (h : Served index traffic) (hrun : traffic.run? events = some last)
    (hcalm : ∀ event ∈ events, event.IsCalm traffic.mode) :
    Served index last ∧ last.mode = traffic.mode ∧
      last.origins = traffic.origins := by
  refine run_keeps (fun late => Served index late ∧ late.mode = traffic.mode ∧
    late.origins = traffic.origins) ?_ ⟨h, rfl, rfl⟩ hrun
  rintro late event next hmem ⟨hserved, hmode, horigins⟩ hstep
  have hkept := served_of_step? hserved hstep (hmode ▸ hcalm event hmem)
  rw [← hmode, ← horigins]
  exact hkept

/-! ## Every request comes to its answer -/

theorem run?_room {room : ReadingRoom} {events : List ReadingEvent}
    (h : traffic.room.run? events = some room) :
    traffic.run? (events.map .room) = some { traffic with room } := by
  refine run_map (fun room => { traffic with room }) _ ?_ h
  intro room event next _ hstep
  rw [step?, hstep]
  rfl

theorem step?_answer {i : Nat} {exchange : Exchange}
    {response? : Option Response} (hi : traffic.exchanges[i]? = some exchange)
    (houtcome : traffic.outcome? exchange = some response?) :
    traffic.step? (.answer i) = some { traffic with
      exchanges := traffic.exchanges.set i
        ⟨exchange.request, .answered response?⟩ } := by
  rw [step?, hi, Option.bind_some, houtcome]
  rfl

/-- When its lookup is over, a request is answered with the hits, if there are
any. -/
theorem outcome?_asking {request : Request} {parameters : SearchParameters}
    {k : Nat} {lookup : Lookup} (hk : traffic.room.callers[k]? = some lookup)
    (hover : lookup.stepsLeft = 0) :
    traffic.outcome? ⟨request, .asking parameters k⟩ =
      some (lookup.hits?.map fun hits =>
        request.found traffic.origins parameters hits) := by
  obtain ⟨mode, called, stage⟩ := lookup
  simp only [outcome?, hk, Option.map_some]
  cases stage with
  | answered | failed => rfl
  | fresh | ready | searching | found | crashed => cases hover

/-- A request that asks comes to the end of its lookup, and is answered. -/
theorem exists_run?_asking {i k : Nat} {request : Request}
    {parameters : SearchParameters} {lookup : Lookup}
    (hi : traffic.exchanges[i]? = some ⟨request, .asking parameters k⟩)
    (hk : traffic.room.callers[k]? = some lookup)
    (hcalled : lookup.called = true) {n : Nat} (hn : lookup.stepsLeft ≤ n) :
    let ended := lookup.runFor n traffic.room.pool.shared
    ∃ m ≤ n, traffic.run?
        (List.replicate m (.room (.own k)) ++ [.answer i]) =
      some { traffic with
        room := ⟨{ traffic.room.pool with shared := ended.1 },
          traffic.room.callers.set k ended.2⟩
        exchanges := traffic.exchanges.set i ⟨request, .answered
          (ended.2.hits?.map fun hits =>
            request.found traffic.origins parameters hits)⟩ } := by
  intro ended
  obtain ⟨m, hm, hrun⟩ := ReadingRoom.exists_run?_own k n hk
  refine ⟨m, hm, ?_⟩
  have hroom := run?_room hrun
  rw [List.map_replicate] at hroom
  have hset : (traffic.room.callers.set k ended.2)[k]? = some ended.2 :=
    List.getElem?_set_self (List.getElem?_eq_some_iff.mp hk).1
  have hanswer := @step?_answer
    { traffic with
      room := ⟨{ traffic.room.pool with shared := ended.1 },
        traffic.room.callers.set k ended.2⟩ } i _ _ hi
    (outcome?_asking hset (Lookup.stepsLeft_runFor n _ lookup hcalled hn))
  exact (run_append hroom _).trans (run_cons hanswer [])

/-! ## With nothing in between -/

/-- A request that is not a well-formed search leaves a server as it is. -/
theorem respond_of_other (server : Server) (origins : Origins)
    {request : Request} (h : request.search? = none) :
    (server.respond origins request).1 = server := by
  simp only [Server.respond]
  split
  · rfl
  split
  · rfl
  next route hroute =>
  split
  · rfl
  next hmethod =>
  cases route with
  | health | stats => rfl
  | search =>
      have hasked : request.method = "GET" ∨ request.method = "HEAD" := by
        by_contra hneither
        rw [not_or] at hneither
        exact hmethod hneither
      simp only [Request.search?, if_pos hasked, hroute] at h
      simp only [Server.answer]
      split
      · rfl
      · next parameters hok =>
          rw [hok] at h
          cases h

/-- A well-formed search is answered with the hits of its line. -/
theorem respond_of_search (server : Server) (origins : Origins)
    {request : Request} {parameters : SearchParameters}
    (h : request.search? = some parameters) :
    server.respond origins request =
      let (after, hits?) := server.search
        (parameters.mode?.getD server.mode) parameters.query
      (after, hits?.map fun hits => request.found origins parameters hits) := by
  unfold Request.search? at h
  split at h
  · next hmethod =>
      split at h
      · next hroute =>
          have hoptions : request.method ≠ "OPTIONS" := by
            rcases hmethod with hget | hhead
            · rw [hget]
              decide
            · rw [hhead]
              decide
          have hasked :
              ¬ (request.method ≠ "GET" ∧ request.method ≠ "HEAD") :=
            fun hneither => hmethod.elim hneither.1 hneither.2
          cases hok : SearchParameters.ofQuery
              (request.target.query?.getD []) with
          | error => rw [hok] at h; cases h
          | ok asked =>
              rw [hok] at h
              cases h
              simp only [Server.respond, if_neg hoptions, hroute, if_neg hasked,
                Server.answer, hok, Option.map_map]
              rfl
      · cases h
  · cases h

/-- A search in the mode that is not the server's goes to the index. -/
theorem search_of_ne {server : Server} {mode : Mode} (h : mode ≠ server.mode)
    (line : String) :
    server.search mode line =
      (server, some (server.index.searchLine mode line)) := by
  rw [Server.search, if_neg h]
  cases hline : Query.ofLine? line with
  | none => rw [Index.searchLine, hline]
  | some query => rw [Index.searchLine_of_query hline]

theorem search_of_eq {server : Server} {mode : Mode} (h : mode = server.mode)
    (line : String) :
    server.search mode line =
      let lookup := Lookup.ofLine server.mode true line
      let ended := lookup.runFor 4 server.queries.shared
      ({ server with queries := { server.queries with shared := ended.1 } },
        ended.2.hits?) := by
  subst h
  rw [Server.search, if_pos rfl]
  rfl

/-- The server stands as it would when it had answered one request with nothing
in between. -/
structure Responds (traffic : Traffic) (request : Request) (next : Traffic) :
    Prop where
  server : next.server = (traffic.server.respond traffic.origins request).1
  exchanges : next.exchanges = traffic.exchanges ++ [⟨request,
    .answered (traffic.server.respond traffic.origins request).2⟩]

theorem getElem?_arrived (traffic : Traffic) (exchange : Exchange) :
    (traffic.exchanges ++ [exchange])[traffic.exchanges.length]? =
      some exchange :=
  List.getElem?_concat_length

theorem set_arrived (traffic : Traffic) (exchange later : Exchange) :
    (traffic.exchanges ++ [exchange]).set traffic.exchanges.length later =
      traffic.exchanges ++ [later] := by
  rw [List.set_append_right _ _ (le_refl _), Nat.sub_self, List.set_cons_zero]

theorem respond_asking {request : Request} {parameters : SearchParameters}
    (hsearch : request.search? = some parameters)
    (hmode : traffic.modeOf parameters = traffic.mode) :
    ∃ m next, m ≤ 4 ∧
      traffic.run? (.arrive request ::
        (List.replicate m (.room (.own traffic.room.callers.length)) ++
          [.answer traffic.exchanges.length])) = some next ∧
      traffic.Responds request next := by
  have hown : parameters.mode?.getD traffic.server.mode =
      traffic.server.mode := hmode
  have hrespond := respond_of_search traffic.server traffic.origins hsearch
  rw [search_of_eq hown] at hrespond
  let arrived : Traffic := { traffic with
    room := { traffic.room with
      callers := traffic.room.callers ++
        [.ofLine traffic.mode true parameters.query] }
    exchanges := traffic.exchanges ++
      [⟨request, .asking parameters traffic.room.callers.length⟩] }
  have harrive : traffic.step? (.arrive request) = some arrived := by
    rw [step?, hsearch]
    exact if_pos hmode
  obtain ⟨m, hm, hrun⟩ := @exists_run?_asking arrived _ _ _ _ _
    (getElem?_arrived traffic _) List.getElem?_concat_length rfl 4 (le_refl 4)
  refine ⟨m, _, hm, (run_cons harrive _).trans hrun, ?_, ?_⟩
  · exact (congrArg Prod.fst hrespond).symm
  · refine (set_arrived traffic _ _).trans ?_
    simp only [server] at hrespond ⊢
    rw [hrespond]

theorem respond_aside {request : Request} {parameters : SearchParameters}
    (hsearch : request.search? = some parameters)
    (hmode : traffic.modeOf parameters ≠ traffic.mode) :
    ∃ next, traffic.run?
        [.arrive request, .answer traffic.exchanges.length] = some next ∧
      traffic.Responds request next := by
  have hother : parameters.mode?.getD traffic.server.mode ≠
      traffic.server.mode := hmode
  have hrespond := respond_of_search traffic.server traffic.origins hsearch
  rw [search_of_ne hother] at hrespond
  let arrived : Traffic := { traffic with
    exchanges := traffic.exchanges ++ [⟨request, .aside parameters⟩] }
  have harrive : traffic.step? (.arrive request) = some arrived := by
    rw [step?, hsearch]
    exact if_neg hmode
  have hanswer := @step?_answer arrived _ _ _ (getElem?_arrived traffic _) rfl
  refine ⟨_, (run_cons harrive _).trans (run_cons hanswer []), ?_, ?_⟩
  · exact (congrArg Prod.fst hrespond).symm
  · rw [hrespond]
    exact set_arrived traffic _ _

/-- A request with nothing in between is answered like one that is alone. -/
theorem run_respond (traffic : Traffic) (request : Request) :
    ∃ events next, events.length ≤ 5 ∧
      (∀ event ∈ events, event = .answer traffic.exchanges.length ∨
        event = .room (.own traffic.room.callers.length)) ∧
      traffic.run? (.arrive request :: events) = some next ∧
      traffic.Responds request next := by
  cases hsearch : request.search? with
  | none =>
      have harrive : traffic.step? (.arrive request) = some { traffic with
          exchanges := traffic.exchanges ++ [⟨request, .answered
            (traffic.server.respond traffic.origins request).2⟩] } := by
        rw [step?, hsearch]
      refine ⟨[], _, Nat.zero_le _, nofun, run_cons harrive [], ?_, rfl⟩
      exact (respond_of_other _ _ hsearch).symm
  | some parameters =>
      by_cases hmode : traffic.modeOf parameters = traffic.mode
      · obtain ⟨m, next, hm, hrun, hresponds⟩ := respond_asking hsearch hmode
        refine ⟨_, next, ?_, ?_, hrun, hresponds⟩
        · rw [List.length_append, List.length_replicate]
          exact Nat.succ_le_succ hm
        · intro event hmem
          rcases List.mem_append.mp hmem with hown | hanswer
          · exact .inr (List.eq_of_mem_replicate hown)
          · exact .inl (List.mem_singleton.mp hanswer)
      · obtain ⟨next, hrun, hresponds⟩ := respond_aside hsearch hmode
        exact ⟨[.answer _], next, Nat.le_add_left 1 4,
          fun event hmem => .inl (List.mem_singleton.mp hmem), hrun, hresponds⟩

/-! ## All requests -/

/-- To a request for the whole answer, it has the number of hits and the first
of them. -/
theorem freshAnswer_of_get {request : Request} (hget : request.method = "GET")
    (parameters : SearchParameters) :
    traffic.freshAnswer index request parameters =
      let hits := index.searchLine (traffic.modeOf parameters) parameters.query
      let shown := min (max 1 (min parameters.asked 100)) hits.length
      ⟨200, .found parameters.query hits.length (hits.take shown),
        traffic.origins.allowed? request.origin?⟩ := by
  rw [freshAnswer, Request.found, hget, if_neg (by decide),
    SearchParameters.shown, List.take_eq_take_min]

/-- A request that is not answered yet will be by steps of its own. -/
theorem Served.exists_answer (h : Served index traffic) {i : Nat}
    {exchange : Exchange} (hi : traffic.exchanges[i]? = some exchange)
    (hopen : ∀ response?, exchange.stage ≠ .answered response?) :
    ∃ k m next response, m ≤ 4 ∧
      traffic.run? (List.replicate m (.room (.own k)) ++ [.answer i]) =
        some next ∧
      next.exchanges[i]? =
        some ⟨exchange.request, .answered (some response)⟩ := by
  obtain ⟨request, stage⟩ := exchange
  have hlt := (List.getElem?_eq_some_iff.mp hi).1
  cases h.exchanges _ (List.mem_of_getElem? hi) with
  | @asking parameters k hsearch hasked hseeks =>
      obtain ⟨lookup, hk, hcalled, -⟩ := hseeks
      obtain ⟨m, hm, hmore⟩ :=
        exists_run?_asking hi hk hcalled (Lookup.stepsLeft_le lookup)
      have hcalm : ∀ event ∈ List.replicate m (.room (.own k)) ++ [.answer i],
          TrafficEvent.IsCalm traffic.mode event := by
        intro event hmem
        rcases List.mem_append.mp hmem with hown | hanswer
        · rw [List.eq_of_mem_replicate hown]
          trivial
        · rw [List.mem_singleton.mp hanswer]
          trivial
      have hset : ∀ response? : Option Response,
          (traffic.exchanges.set i ⟨request, .answered response?⟩)[i]? =
            some ⟨request, .answered response?⟩ :=
        fun _ => List.getElem?_set_self hlt
      obtain ⟨hnext, -⟩ := served_of_run? h hmore hcalm
      cases hnext.exchanges _ (List.mem_of_getElem? (hset _)) with
      | answered hfresh =>
          have hresponse := hfresh parameters hsearch
          refine ⟨k, m, _, traffic.freshAnswer index request parameters, hm,
            hmore, (hset _).trans ?_⟩
          rw [hresponse]
          rfl
  | aside hsearch =>
      exact ⟨0, 0, _, _, Nat.zero_le 4, run_cons (step?_answer hi rfl) [],
        List.getElem?_set_self hlt⟩
  | answered => exact absurd rfl (hopen _)

/-- However requests and lines of the owner's run into each other: the cache
holds what a search in the server's mode gives, every search is answered with
the hits of a fresh search in the mode that it asks for, and a search that is
not answered yet will be by a few steps of its own. -/
theorem run_fresh {workers : Nat} {index : Index} {mode : Mode}
    {origins : Origins} {events : List TrafficEvent} {last : Traffic}
    (hrun : (start workers index mode origins).run? events = some last)
    (hcalm : ∀ event ∈ events, event.IsCalm mode) :
    last.room.cache.answers.Fresh index mode ∧
    (∀ (exchange : Exchange) (parameters : SearchParameters)
      (response? : Option Response),
      exchange ∈ last.exchanges → exchange.request.method = "GET" →
      Route.ofPath? exchange.request.target.path = some .search →
      SearchParameters.ofQuery (exchange.request.target.query?.getD []) =
        .ok parameters →
      exchange.stage = .answered response? →
        let hits := index.searchLine (parameters.mode?.getD mode)
          parameters.query
        let shown := min (max 1 (min parameters.asked 100)) hits.length
        response? = some ⟨200,
          .found parameters.query hits.length (hits.take shown),
          origins.allowed? exchange.request.origin?⟩) ∧
    ∀ (i : Nat) (exchange : Exchange), last.exchanges[i]? = some exchange →
      (∀ response?, exchange.stage ≠ .answered response?) →
        ∃ k m next response, m ≤ 4 ∧
          last.run? (List.replicate m (.room (.own k)) ++ [.answer i]) =
            some next ∧
          next.exchanges[i]? =
            some ⟨exchange.request, .answered (some response)⟩ := by
  obtain ⟨hserved, hmode, horigins⟩ :=
    served_of_run? (served_start workers index mode origins) hrun hcalm
  obtain rfl : last.mode = mode := hmode
  obtain rfl : last.origins = origins := horigins
  refine ⟨hserved.room.desk.answers, ?_, ?_⟩
  · rintro ⟨request, stage⟩ parameters response? hmem hget hroute hok
      (rfl : stage = .answered response?)
    have hsearch : request.search? = some parameters := by
      rw [Request.search?, if_pos (.inl hget), hroute, hok]
      rfl
    cases hserved.exchanges _ hmem with
    | answered hfresh =>
        rw [hfresh parameters hsearch, freshAnswer_of_get hget]
        rfl
  · exact fun i exchange hi hopen => hserved.exists_answer hi hopen

def catIndex : Index := Index.empty.addAll ["cat", "catalog"] "pets" 0

def searchFor (query : String) : Request :=
  ⟨"GET", ⟨"/search".toList, some query.toList⟩, none⟩

/-- The owner's line has the claim when a request for the same query comes, and
another request wants the other mode. -/
def catEvents : List TrafficEvent :=
  [.arrive (searchFor "q=cats"), .room (.submit .exactly "Cat!"),
    .room (.pool (.enqueue none)), .room (.pool (.move 0)),
    .room (.pool (.move 0)), .room (.own 0),
    .arrive (searchFor "q=cat&exact=false&k=0"), .room (.own 0), .answer 1,
    .room (.own 0), .room (.own 0), .answer 0, .room (.pool (.move 0)),
    .room (.pool (.move 0)), .room (.pool (.move 0))]

theorem run_catEvents :
    ∃ last, (start 1 catIndex .exactly .any).run? catEvents = some last ∧
      last.room.cache.answers.keys = ["cat"] ∧
      last.room.cache.answers.Fresh catIndex .exactly ∧
      (last.exchanges[0]?).map Exchange.stage = some (.answered (some ⟨200,
        .found "cats" 1 [⟨1, Rank.share 1 2, "pets"⟩], some "*"⟩)) ∧
      (last.exchanges[1]?).map Exchange.stage = some (.answered (some ⟨200,
        .found "cat" 1 [⟨2, Rank.share 2 2, "pets"⟩], some "*"⟩)) := by
  have hrun : ∃ last, (start 1 catIndex .exactly .any).run? catEvents =
      some last ∧ last.room.cache.answers.keys = ["cat"] ∧
        ∃ first second, last.exchanges =
          [⟨searchFor "q=cats", .answered first⟩,
            ⟨searchFor "q=cat&exact=false&k=0", .answered second⟩] :=
    ⟨_, rfl, rfl, _, _, rfl⟩
  obtain ⟨last, hrun, hkeys, first, second, hexchanges⟩ := hrun
  have hcalm : ∀ event ∈ catEvents, event.IsCalm .exactly := by
    simp [catEvents, TrafficEvent.IsCalm, ReadingEvent.IsCalm]
  obtain ⟨hfresh, hanswers, -⟩ := run_fresh hrun hcalm
  rw [hexchanges] at hanswers
  have hfirst := hanswers _ ⟨"cats", 10, none⟩ first
    (List.mem_of_getElem? (i := 0) rfl) rfl rfl rfl rfl
  have hsecond := hanswers _ ⟨"cat", 0, some .partially⟩ second
    (List.mem_of_getElem? (i := 1) rfl) rfl rfl rfl rfl
  refine ⟨last, hrun, hkeys, hfresh, ?_, ?_⟩
  · rw [hexchanges, hfirst]
    rfl
  · rw [hexchanges, hsecond]
    rfl

end Traffic

end Concordance
