import Concordance.Query.Lookup

/-!
# The steps of a lookup, one by one

A lookup asks for the claim on its query and gets one of three answers, begins
its search or fails to, and then leaves its hits in the cache, gives the claim
back, or goes away without a trace. `Lookup.Step` lists what can happen, with
what it makes of the cache. Only three of the cases touch the cache: taking a
claim, filling and giving back.
-/

namespace Concordance

namespace QueryCache

theorem claim_of_answered {cache : QueryCache} {key : String} {hits : List Hit}
    (h : cache.answers.get? key = some hits) :
    cache.claim key = (cache, .cached hits) := by
  rw [claim, h]

theorem claim_of_busy {cache : QueryCache} {key : String}
    (h : cache.answers.get? key = none) (hbusy : key ∈ cache.searching) :
    cache.claim key = (cache, .busy) := by
  rw [claim, h]
  exact if_pos hbusy

theorem claim_of_free {cache : QueryCache} {key : String}
    (h : cache.answers.get? key = none) (hfree : key ∉ cache.searching) :
    cache.claim key =
      ({ cache with searching := key :: cache.searching }, .claimed) := by
  rw [claim, h]
  exact if_neg hfree

end QueryCache

/-- As long as no search is to fail, each goes on. -/
theorem Probe.eq_of_begin {probe after : Probe} {begun : Bool}
    (h : probe.failures = 0) (hbegin : probe.begin = (after, begun)) :
    begun = true ∧
      after = { probe with searches := probe.searches + 1, failures := 0 } := by
  rw [begin, h, Prod.mk.injEq] at hbegin
  exact ⟨hbegin.2.symm, hbegin.1.symm⟩

namespace Lookup

/-- What the next step of a lookup makes of the desk and of the lookup. -/
inductive Step (desk : Desk) : Lookup → Desk → Lookup → Prop where
  | blank {mode : Mode} {called : Bool} {line : String}
      (hline : Query.ofLine? line = none) :
      Step desk ⟨mode, called, .fresh line⟩ desk ⟨mode, called, .answered []⟩
  | cached {mode : Mode} {called : Bool} {line : String} {query : Query}
      {hits : List Hit}
      (hline : Query.ofLine? line = some query)
      (hhits : desk.cache.answers.get? query.key = some hits) :
      Step desk ⟨mode, called, .fresh line⟩ desk ⟨mode, called, .answered hits⟩
  | claim {mode : Mode} {called : Bool} {line : String} {query : Query}
      (hline : Query.ofLine? line = some query)
      (hnone : desk.cache.answers.get? query.key = none)
      (hfree : query.key ∉ desk.cache.searching) :
      Step desk ⟨mode, called, .fresh line⟩
        { desk with cache.searching := query.key :: desk.cache.searching }
        ⟨mode, called, .ready query true⟩
  | persist {mode : Mode} {line : String} {query : Query}
      (hline : Query.ofLine? line = some query)
      (hnone : desk.cache.answers.get? query.key = none)
      (hbusy : query.key ∈ desk.cache.searching) :
      Step desk ⟨mode, true, .fresh line⟩ desk ⟨mode, true, .ready query false⟩
  | leave {mode : Mode} {line : String} {query : Query}
      (hline : Query.ofLine? line = some query)
      (hnone : desk.cache.answers.get? query.key = none)
      (hbusy : query.key ∈ desk.cache.searching) :
      Step desk ⟨mode, false, .fresh line⟩ desk ⟨mode, false, .answered []⟩
  | begin {mode : Mode} {called claimed : Bool} {query : Query} {probe : Probe}
      (hbegin : desk.probe.begin = (probe, true)) :
      Step desk ⟨mode, called, .ready query claimed⟩ { desk with probe }
        ⟨mode, called, .searching query claimed⟩
  | fail {mode : Mode} {called claimed : Bool} {query : Query} {probe : Probe}
      (hbegin : desk.probe.begin = (probe, false)) :
      Step desk ⟨mode, called, .ready query claimed⟩ { desk with probe }
        ⟨mode, called, .crashed query claimed⟩
  | find {mode : Mode} {called claimed : Bool} {query : Query} :
      Step desk ⟨mode, called, .searching query claimed⟩ desk
        ⟨mode, called, .found query claimed (desk.probe.hits query mode)⟩
  | fill {mode : Mode} {called : Bool} {query : Query} {hits : List Hit} :
      Step desk ⟨mode, called, .found query true hits⟩
        { desk with cache := desk.cache.fill query.key hits }
        ⟨mode, called, .answered hits⟩
  | answer {mode : Mode} {called : Bool} {query : Query} {hits : List Hit} :
      Step desk ⟨mode, called, .found query false hits⟩ desk
        ⟨mode, called, .answered hits⟩
  | release {mode : Mode} {called : Bool} {query : Query} :
      Step desk ⟨mode, called, .crashed query true⟩
        { desk with cache := desk.cache.release query.key }
        ⟨mode, called, .failed⟩
  | giveUp {mode : Mode} {called : Bool} {query : Query} :
      Step desk ⟨mode, called, .crashed query false⟩ desk
        ⟨mode, called, .failed⟩

theorem step_of_ask (desk : Desk) (mode : Mode) (called : Bool) {line : String}
    {query : Query} (hline : Query.ofLine? line = some query) :
    Step desk ⟨mode, called, .fresh line⟩
      (ask desk ⟨mode, called, .fresh line⟩ query).1
      (ask desk ⟨mode, called, .fresh line⟩ query).2 := by
  cases hhits : desk.cache.answers.get? query.key with
  | some hits =>
      rw [ask, QueryCache.claim_of_answered hhits]
      exact .cached hline hhits
  | none =>
      by_cases hbusy : query.key ∈ desk.cache.searching
      · rw [ask, QueryCache.claim_of_busy hhits hbusy]
        cases called with
        | true => exact .persist hline hhits hbusy
        | false => exact .leave hline hhits hbusy
      · rw [ask, QueryCache.claim_of_free hhits hbusy]
        exact .claim hline hhits hbusy

theorem step_of_begin (desk : Desk) (mode : Mode) (called : Bool)
    (query : Query) (claimed : Bool) :
    Step desk ⟨mode, called, .ready query claimed⟩
      (begin desk ⟨mode, called, .ready query claimed⟩ query claimed).1
      (begin desk ⟨mode, called, .ready query claimed⟩ query claimed).2 := by
  unfold begin
  split
  · next probe hbegin => exact .begin hbegin
  · next probe hbegin => exact .fail hbegin

/-- Whatever a lookup does next, it is one of the listed cases. -/
theorem step_of_step? {desk after : Desk} {lookup rest : Lookup}
    (h : lookup.step? desk = some (after, rest)) :
    Step desk lookup after rest := by
  obtain ⟨mode, called, stage⟩ := lookup
  cases stage with
  | fresh line =>
      simp only [step?] at h
      split at h
      · next hline => cases h; exact .blank hline
      · next query hline =>
          have hask := step_of_ask desk mode called hline
          rw [Option.some.inj h] at hask
          exact hask
  | ready query claimed =>
      have hbegin := step_of_begin desk mode called query claimed
      rw [Option.some.inj h] at hbegin
      exact hbegin
  | searching query claimed =>
      simp only [step?] at h
      split at h
      · cases h
      · cases h; exact .find
  | found query claimed hits =>
      cases h
      cases claimed with
      | true => exact .fill
      | false => exact .answer
  | crashed query claimed =>
      cases h
      cases claimed with
      | true => exact .release
      | false => exact .giveUp
  | answered hits => cases h
  | failed => cases h

/-- The key of which a lookup holds the claim. -/
def claim? (lookup : Lookup) : Option String :=
  match lookup.stage with
  | .ready query claimed | .searching query claimed | .found query claimed _
  | .crashed query claimed => if claimed then some query.key else none
  | _ => none

/-- The key of which a lookup searches without having the claim. -/
def unclaimed? (lookup : Lookup) : Option String :=
  match lookup.stage with
  | .ready query claimed | .searching query claimed | .found query claimed _
  | .crashed query claimed => if claimed then none else some query.key
  | _ => none

/-- What a lookup is about to put into the cache. -/
def find? (lookup : Lookup) : Option (String × List Hit) :=
  match lookup.stage with
  | .found query claimed hits =>
      if claimed then some (query.key, hits) else none
  | _ => none

/-- A lookup that finds something holds the claim on it. -/
theorem claim?_of_find? {lookup : Lookup} {key : String} {hits : List Hit}
    (h : lookup.find? = some (key, hits)) : lookup.claim? = some key := by
  obtain ⟨mode, called, stage⟩ := lookup
  cases stage with
  | found query claimed found =>
      cases claimed with
      | true => cases h; rfl
      | false => cases h
  | fresh => cases h
  | ready => cases h
  | searching => cases h
  | crashed => cases h
  | answered => cases h
  | failed => cases h

theorem called_of_step {desk after : Desk} {lookup rest : Lookup}
    (h : Step desk lookup after rest) : rest.called = lookup.called := by
  cases h <;> rfl

/-- What a lookup does as a task: it acts by its own steps, waits, or ends. -/
inductive Moves (desk : Desk) : Lookup → Move Desk Lookup → Prop where
  | act {after : Desk} {lookup rest : Lookup}
      (hstep : Step desk lookup after rest) :
      Moves desk lookup (.act after rest)
  | wait {lookup : Lookup} : Moves desk lookup .wait
  | answered {mode : Mode} {called : Bool} {hits : List Hit} :
      Moves desk ⟨mode, called, .answered hits⟩ (.finish .done)
  | failed {mode : Mode} {called : Bool} :
      Moves desk ⟨mode, called, .failed⟩ (.finish .crashed)

theorem moves (desk : Desk) (lookup : Lookup) :
    Moves desk lookup (lookup.move desk) := by
  obtain ⟨mode, called, stage⟩ := lookup
  unfold move
  split
  · next hits hstage =>
      cases hstage
      exact .answered
  · next hstage =>
      cases hstage
      exact .failed
  · split
    · next after rest hstep => exact .act (step_of_step? hstep)
    · exact .wait

theorem step_of_move {desk after : Desk} {lookup rest : Lookup}
    (h : work.move desk lookup = .act after rest) :
    Step desk lookup after rest := by
  have hmoves := moves desk lookup
  rw [show lookup.move desk = .act after rest from h] at hmoves
  cases hmoves with
  | act hstep => exact hstep

end Lookup

end Concordance
