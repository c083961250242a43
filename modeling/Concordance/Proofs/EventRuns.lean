/-!
# Runs of events

A pool, a lock, a crawl, a shared index and a server at work all move in the
same way. An event can happen in some states, and then it settles the state that
comes after; a run is the fold of such steps over the events, and none if one of
them cannot happen in its turn.

So what holds of every run needs to be said only once, for any steps at all: a
run begins with a step, two runs that meet are one, what every step keeps a run
keeps, and a run of a part is a run of the whole. Each system adds what its own
steps do.

A state does not remember how it came about. Where a result is about that, notes
are taken beside the run, event by event (`notesAfter`). Nothing in the system
reads them.
-/

namespace Concordance

variable {σ ε : Type} {step? : σ → ε → Option σ} {state mid next last : σ}
  {event : ε} {events : List ε}

theorem run_cons (h : step? state event = some next) (events : List ε) :
    (event :: events).foldlM step? state = events.foldlM step? next := by
  rw [List.foldlM_cons, h]
  rfl

theorem step_of_run (h : (event :: events).foldlM step? state = some last) :
    ∃ next, step? state event = some next ∧
      events.foldlM step? next = some last := by
  rw [List.foldlM_cons] at h
  exact Option.bind_eq_some_iff.mp h

theorem run_append {before : List ε} (h : before.foldlM step? state = some mid)
    (after : List ε) :
    (before ++ after).foldlM step? state = after.foldlM step? mid := by
  rw [List.foldlM_append, h]
  rfl

/-- What every step keeps, every run keeps. -/
theorem run_keeps (Inv : σ → Prop)
    (hkeeps : ∀ {state event next}, event ∈ events → Inv state →
      step? state event = some next → Inv next)
    (hstart : Inv state) (h : events.foldlM step? state = some last) :
    Inv last := by
  induction events generalizing state with
  | nil =>
      cases h
      exact hstart
  | cons event events ih =>
      obtain ⟨next, hstep, hrest⟩ := step_of_run h
      have hnext := hkeeps List.mem_cons_self hstart hstep
      exact ih (fun hmem => hkeeps (List.mem_cons_of_mem _ hmem)) hnext hrest

/-- A run of a part is a run of the whole, which is the same apart from it. -/
theorem run_map {ρ δ : Type} {whole? : ρ → δ → Option ρ} (place : σ → ρ)
    (embed : ε → δ)
    (hsteps : ∀ {state event next}, event ∈ events →
      step? state event = some next →
        whole? (place state) (embed event) = some (place next))
    (h : events.foldlM step? state = some last) :
    (events.map embed).foldlM whole? (place state) = some (place last) := by
  induction events generalizing state with
  | nil =>
      cases h
      rfl
  | cons event events ih =>
      obtain ⟨next, hstep, hrest⟩ := step_of_run h
      rw [List.map_cons, run_cons (hsteps List.mem_cons_self hstep)]
      exact ih (fun hmem => hsteps (List.mem_cons_of_mem _ hmem)) hrest

/-! ## Notes of a run -/

/-- What is written down in a run, if something is noted of each event, of what
it meets and of what it makes. -/
def notesAfter {β : Type} (step? : σ → ε → Option σ)
    (note : β → σ → ε → σ → β) (notes : β) (state : σ) : List ε → β
  | [] => notes
  | event :: events =>
    match step? state event with
    | none => notes
    | some next =>
      notesAfter step? note (note notes state event next) next events

variable {β : Type} {note : β → σ → ε → σ → β} {notes : β}

theorem notes_cons (h : step? state event = some next) :
    notesAfter step? note notes state (event :: events) =
      notesAfter step? note (note notes state event next) next events := by
  rw [notesAfter, h]

theorem notes_append {before after : List ε}
    (h : before.foldlM step? state = some mid) :
    notesAfter step? note notes state (before ++ after) =
      notesAfter step? note (notesAfter step? note notes state before) mid
        after := by
  induction before generalizing state notes with
  | nil =>
      cases h
      rfl
  | cons event before ih =>
      obtain ⟨next, hstep, hrest⟩ := step_of_run h
      rw [List.cons_append, notes_cons hstep, notes_cons hstep, ih hrest]

/-- What every step and its note keep, a run and its notes keep. -/
theorem notes_keep (Inv : σ → β → Prop)
    (hkeeps : ∀ {state event next notes}, Inv state notes →
      step? state event = some next → Inv next (note notes state event next))
    (hstart : Inv state notes) (h : events.foldlM step? state = some last) :
    Inv last (notesAfter step? note notes state events) := by
  induction events generalizing state notes with
  | nil =>
      cases h
      exact hstart
  | cons event events ih =>
      obtain ⟨next, hstep, hrest⟩ := step_of_run h
      rw [notes_cons hstep]
      exact ih (hkeeps hstart hstep) hrest

end Concordance
