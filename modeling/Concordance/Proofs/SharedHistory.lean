import Concordance.Proofs.SharedIndexStep

/-!
# The order of changes to a shared index

Changes take effect in the order in which they are let in to write. While one is
under way nobody else is in, so nobody sees what it has done so far; and what
counts of the index then is not what it is but what it will be when the change
is done. Read so, the index is at every moment what all changes let in so far
make of it one after the other (`Coherent`), and every event keeps it so
(`Coherent.of_step?`).

The order is not part of the index, nor is what each reader has seen of it.
Both are written down along a run (`History`).
-/

namespace Concordance

/-! ## What is written down -/

/-- What changes make of an index one after the other. Each goes with the number
of its caller. -/
def sequential (initial : Index) (order : List (Nat × Change)) : Index :=
  order.foldl (fun index entry => entry.2.apply index) initial

theorem sequential_append (initial : Index) (order : List (Nat × Change))
    (entry : Nat × Change) :
    sequential initial (order ++ [entry]) =
      entry.2.apply (sequential initial order) := by
  rw [sequential, List.foldl_append]
  rfl

structure History where
  /-- The changes in the order in which they were let in. -/
  order : List (Nat × Change)
  /-- With each reader, the changes that were let in before it. -/
  seen : List (Nat × List (Nat × Change))

namespace History

def empty : History := ⟨[], []⟩

/-- Writes down that a caller was let in, if it was. -/
def noteEvent (next : SharedIndex) (history : History) :
    SharingEvent → History
  | .enter i | .retest i =>
    match next.callers[i]?, next.lock.threads[i]? with
    | some ⟨.change change, _⟩, some .writing =>
      { history with order := history.order ++ [(i, change)] }
    | some ⟨.read _, _⟩, some .reading =>
      { history with seen := (i, history.order) :: history.seen }
    | _, _ => history
  | .call _ | .act _ | .leave .. => history

/-- The history after a run of events that can happen in turn. -/
def after (shared : SharedIndex) (history : History)
    (events : List SharingEvent) : History :=
  notesAfter SharedIndex.step?
    (fun history _ event next => history.noteEvent next event) history shared
    events

/-- The history of a run on an index. -/
def ofRun (initial : Index) (events : List SharingEvent) : History :=
  empty.after (.start initial) events

/-- The numbers of the callers whose changes were let in. -/
def writers (order : List (Nat × Change)) : List Nat := order.map Prod.fst

/-- One history goes on from another with what concerns one caller. -/
structure Extends (i : Nat) (history later : History) : Prop where
  order : history.order ⊆ later.order
  seen : history.seen ⊆ later.seen
  newOrder : ∀ entry ∈ later.order, entry.1 ≠ i → entry ∈ history.order
  newSeen : ∀ entry ∈ later.seen, entry.1 ≠ i → entry ∈ history.seen

theorem Extends.refl (i : Nat) (history : History) :
    history.Extends i history :=
  ⟨List.Subset.refl _, List.Subset.refl _, fun _ h _ => h, fun _ h _ => h⟩

theorem extends_order (i : Nat) (history : History) (change : Change) :
    history.Extends i
      { history with order := history.order ++ [(i, change)] } where
  order := List.subset_append_left _ _
  seen := List.Subset.refl _
  newOrder := by
    intro entry hentry hne
    rcases List.mem_append.mp hentry with hold | hnew
    · exact hold
    · rw [List.mem_singleton.mp hnew] at hne
      exact absurd rfl hne
  newSeen := fun entry hentry _ => hentry

theorem extends_seen (i : Nat) (history : History) :
    history.Extends i
      { history with seen := (i, history.order) :: history.seen } where
  order := List.Subset.refl _
  seen := List.subset_cons_self _ _
  newOrder := fun entry hentry _ => hentry
  newSeen := by
    intro entry hentry hne
    rcases List.mem_cons.mp hentry with rfl | hold
    · exact absurd rfl hne
    · exact hold

variable (next : SharedIndex) {history : History} {event : SharingEvent}
  {i : Nat}

theorem noteEvent_writing {change : Change} {stage : Caller.Stage}
    (hevent : event = .enter i ∨ event = .retest i)
    (hi : next.lock.threads[i]? = some .writing)
    (hcaller : next.callers[i]? = some ⟨.change change, stage⟩) :
    history.noteEvent next event =
      { history with order := history.order ++ [(i, change)] } := by
  rcases hevent with rfl | rfl <;> rw [noteEvent, hcaller, hi]

theorem noteEvent_reading {inquiry : Inquiry} {stage : Caller.Stage}
    (hevent : event = .enter i ∨ event = .retest i)
    (hi : next.lock.threads[i]? = some .reading)
    (hcaller : next.callers[i]? = some ⟨.read inquiry, stage⟩) :
    history.noteEvent next event =
      { history with seen := (i, history.order) :: history.seen } := by
  rcases hevent with rfl | rfl <;> rw [noteEvent, hcaller, hi]

theorem noteEvent_waiting {caller : Caller} {stance : Stance}
    (hevent : event = .enter i ∨ event = .retest i)
    (hi : next.lock.threads[i]? = some stance)
    (hcaller : next.callers[i]? = some caller)
    (hwaits : stance = .awaitingWrite false ∨ stance = .awaitingRead false) :
    history.noteEvent next event = history := by
  obtain ⟨use, stage⟩ := caller
  rcases hevent with rfl | rfl <;> rcases hwaits with rfl | rfl <;>
    cases use <;> rw [noteEvent, hcaller, hi]

end History

/-! ## How a caller stands -/

/-- What is so of a caller that stands so to the lock, when some changes have
been let in. -/
inductive Standing (initial index : Index) (history : History) (i : Nat) :
    Caller → Stance → Prop where
  | toChange {change : Change} {stance : Stance}
      (hout : stance = .outside ∨ ∃ woken, stance = .awaitingWrite woken)
      (hnew : i ∉ History.writers history.order) :
      Standing initial index history i
        ⟨.change change, .changing change.start⟩ stance
  | changing {change : Change} {rest : Change.Rest}
      (hin : (i, change) ∈ history.order)
      (hfinish : rest.finish index = sequential initial history.order) :
      Standing initial index history i ⟨.change change, .changing rest⟩ .writing
  | changed {change : Change} (hin : (i, change) ∈ history.order) :
      Standing initial index history i ⟨.change change, .returned []⟩ .outside
  | toRead {inquiry : Inquiry} {stance : Stance}
      (hout : stance = .outside ∨ ∃ woken, stance = .awaitingRead woken)
      (hnew : i ∉ history.seen.map Prod.fst) :
      Standing initial index history i
        ⟨.read inquiry, .reading inquiry []⟩ stance
  | reading {inquiry rest : Inquiry} {told : List Answer}
      (hin : (i, history.order) ∈ history.seen)
      (htold : told ++ rest.answers (sequential initial history.order) =
        inquiry.answers (sequential initial history.order)) :
      Standing initial index history i ⟨.read inquiry, .reading rest told⟩
        .reading
  | read {inquiry : Inquiry} {before : List (Nat × Change)}
      (hin : (i, before) ∈ history.seen) :
      Standing initial index history i
        ⟨.read inquiry, .returned (inquiry.answers (sequential initial before))⟩
        .outside

/-- A caller that is not in stands as before when another moves, and one that is
in does if neither the index changes nor a change is let in. -/
theorem Standing.keep {initial index later : Index} {history next : History}
    {i j : Nat} {caller : Caller} {stance old : Stance}
    (h : Standing initial index history j caller old)
    (hstays : old.Stays stance) (hextends : history.Extends i next)
    (hne : j ≠ i)
    (hwriting : old = .writing → later = index ∧ next.order = history.order)
    (hreading : old = .reading → next.order = history.order) :
    Standing initial later next j caller stance := by
  cases h with
  | toChange hout hnew =>
      refine .toChange ?_ ?_
      · rcases hout with rfl | ⟨woken, rfl⟩
        · cases hstays
          exact .inl rfl
        · cases hstays with
          | same => exact .inr ⟨_, rfl⟩
          | wokenToWrite => exact .inr ⟨_, rfl⟩
      · intro hmem
        obtain ⟨entry, hentry, rfl⟩ := List.mem_map.mp hmem
        exact hnew (List.mem_map_of_mem (hextends.newOrder entry hentry hne))
  | changing hin hfinish =>
      cases hstays
      obtain ⟨rfl, horder⟩ := hwriting rfl
      refine .changing (hextends.order hin) ?_
      rw [horder]
      exact hfinish
  | changed hin =>
      cases hstays
      exact .changed (hextends.order hin)
  | toRead hout hnew =>
      refine .toRead ?_ ?_
      · rcases hout with rfl | ⟨woken, rfl⟩
        · cases hstays
          exact .inl rfl
        · cases hstays with
          | same => exact .inr ⟨_, rfl⟩
          | wokenToRead => exact .inr ⟨_, rfl⟩
      · intro hmem
        obtain ⟨entry, hentry, rfl⟩ := List.mem_map.mp hmem
        exact hnew (List.mem_map_of_mem (hextends.newSeen entry hentry hne))
  | reading hin htold =>
      cases hstays
      have horder := hreading rfl
      refine .reading ?_ ?_
      · rw [horder]
        exact hextends.seen hin
      · rw [horder]
        exact htold
  | read hin =>
      cases hstays
      exact .read (hextends.seen hin)

/-! ## What every step keeps -/

structure Coherent (initial : Index) (shared : SharedIndex)
    (history : History) : Prop where
  tallied : shared.lock.Tallied
  length : shared.lock.threads.length = shared.callers.length
  standing : ∀ (i : Nat) (caller : Caller) (stance : Stance),
    shared.callers[i]? = some caller →
    shared.lock.threads[i]? = some stance →
      Standing initial shared.index history i caller stance
  /-- When nobody changes the index it is what all changes have made of it. -/
  whole : (∀ i : Nat, shared.lock.threads[i]? ≠ some .writing) →
    shared.index = sequential initial history.order
  ordered : ∀ i change, (i, change) ∈ history.order →
    ∃ caller, shared.callers[i]? = some caller ∧ caller.use = .change change
  once : (History.writers history.order).Nodup
  seen : ∀ i before, (i, before) ∈ history.seen →
    i < shared.callers.length ∧ before <+: history.order
  seenOnce : (history.seen.map Prod.fst).Nodup

namespace Coherent

variable {initial : Index} {shared : SharedIndex} {history : History}

theorem start (initial : Index) :
    Coherent initial (.start initial) .empty where
  tallied := SharedLock.tallied_unused 0
  length := rfl
  standing := by
    intro i caller stance hcaller
    cases hcaller
  whole := fun _ => rfl
  ordered := by
    intro i change h
    cases h
  once := List.nodup_nil
  seen := by
    intro i before h
    cases h
  seenOnce := List.nodup_nil

/-- The number of a caller whose change was let in is that of a caller. -/
theorem lt_of_writer (h : Coherent initial shared history) {i : Nat}
    (hi : i ∈ History.writers history.order) : i < shared.callers.length := by
  obtain ⟨⟨j, change⟩, hmem, rfl⟩ := List.mem_map.mp hi
  obtain ⟨caller, hcaller, -⟩ := h.ordered j change hmem
  exact (List.getElem?_eq_some_iff.mp hcaller).1

theorem lt_of_seen (h : Coherent initial shared history) {i : Nat}
    (hi : i ∈ history.seen.map Prod.fst) : i < shared.callers.length := by
  obtain ⟨⟨j, before⟩, hmem, rfl⟩ := List.mem_map.mp hi
  exact (h.seen j before hmem).1

/-- A caller comes, and is not in. -/
theorem call (h : Coherent initial shared history) (use : Use) :
    Coherent initial
      { shared with
        lock := { shared.lock with
          threads := shared.lock.threads ++ [.outside] }
        callers := shared.callers ++ [.come use] } history where
  tallied := h.tallied.come
  length := by
    dsimp only
    rw [List.length_append, List.length_append, h.length]
    rfl
  standing := by
    intro i caller stance hcaller hi
    dsimp only at hcaller hi ⊢
    by_cases hlt : i < shared.callers.length
    · rw [List.getElem?_append_left hlt] at hcaller
      rw [List.getElem?_append_left (h.length ▸ hlt)] at hi
      exact h.standing i caller stance hcaller hi
    · have hge : shared.callers.length ≤ i := Nat.le_of_not_lt hlt
      rw [List.getElem?_append_right hge, List.getElem?_singleton] at hcaller
      rw [List.getElem?_append_right (h.length ▸ hge),
        List.getElem?_singleton] at hi
      split at hcaller
      · split at hi
        · cases hcaller
          cases hi
          cases use with
          | change change =>
              exact .toChange (.inl rfl) fun hmem => hlt (h.lt_of_writer hmem)
          | read inquiry =>
              exact .toRead (.inl rfl) fun hmem => hlt (h.lt_of_seen hmem)
        · cases hi
      · cases hcaller
  whole := by
    intro hnobody
    apply h.whole
    intro i hi
    apply hnobody i
    dsimp only
    rw [List.getElem?_append_left (List.getElem?_eq_some_iff.mp hi).1, hi]
  ordered := by
    intro i change hmem
    obtain ⟨caller, hcaller, huse⟩ := h.ordered i change hmem
    refine ⟨caller, ?_, huse⟩
    dsimp only
    rw [List.getElem?_append_left (List.getElem?_eq_some_iff.mp hcaller).1,
      hcaller]
  once := h.once
  seen := by
    intro i before hmem
    obtain ⟨hlt, hprefix⟩ := h.seen i before hmem
    refine ⟨?_, hprefix⟩
    dsimp only
    rw [List.length_append]
    omega
  seenOnce := h.seenOnce

/-- When one caller moves, the others stand as before unless it meets one that
is in. -/
theorem standing_of_turn (h : Coherent initial shared history)
    {threads : List Stance} {callers : List Caller} {index : Index}
    {next : History} {i : Nat} {caller : Caller} {before after : Stance}
    (hturn : SharedLock.Turn shared.lock.threads threads i before after)
    (hcaller : callers[i]? = some caller)
    (hothers : ∀ j : Nat, j ≠ i → callers[j]? = shared.callers[j]?)
    (hextends : history.Extends i next)
    (hwriting : ∀ j : Nat, j ≠ i → shared.lock.threads[j]? = some .writing →
      index = shared.index ∧ next.order = history.order)
    (hreading : ∀ j : Nat, j ≠ i → shared.lock.threads[j]? = some .reading →
      next.order = history.order)
    (hself : Standing initial index next i caller after)
    (j : Nat) (other : Caller) (stance : Stance)
    (hother : callers[j]? = some other)
    (hj : threads[j]? = some stance) :
    Standing initial index next j other stance := by
  by_cases hne : j = i
  · subst hne
    rw [hcaller] at hother
    rw [hturn.after] at hj
    cases hother
    cases hj
    exact hself
  · obtain ⟨old, hold, hstays⟩ := hturn.others j stance hne hj
    rw [hothers j hne] at hother
    exact (h.standing j other old hother hold).keep hstays hextends hne
      (fun hin => hwriting j hne (hin ▸ hold))
      (fun hin => hreading j hne (hin ▸ hold))

/-- Who wrote before one caller moved that was not in still does. -/
theorem unwritten_of_turn {threads later : List Stance} {i : Nat}
    {before after : Stance}
    (hturn : SharedLock.Turn threads later i before after)
    (hbefore : before ≠ .writing)
    (hnobody : ∀ j : Nat, j ≠ i → later[j]? ≠ some .writing) (j : Nat) :
    threads[j]? ≠ some .writing := by
  intro hj
  by_cases hne : j = i
  · subst hne
    rw [hturn.before] at hj
    cases hj
    exact hbefore rfl
  · exact hnobody j hne (hturn.in_of_in hne hj (.inr rfl))

variable {lock : SharedLock} {i : Nat} {before after : Stance}

/-- A caller is not let in. -/
theorem wait (h : Coherent initial shared history) {caller : Caller}
    (hcaller : shared.callers[i]? = some caller) (htallied : lock.Tallied)
    (hturn : SharedLock.Turn shared.lock.threads lock.threads i before after)
    (hbefore : before ≠ .writing)
    (hself : Standing initial shared.index history i caller after) :
    Coherent initial { shared with lock } history where
  tallied := htallied
  length := hturn.length.trans h.length
  standing := h.standing_of_turn hturn hcaller (fun _ _ => rfl)
    (.refl i history) (fun _ _ _ => ⟨rfl, rfl⟩)
    (fun _ _ _ => rfl) hself
  whole := fun hnobody =>
    h.whole (unwritten_of_turn hturn hbefore fun j _ => hnobody j)
  ordered := h.ordered
  once := h.once
  seen := h.seen
  seenOnce := h.seenOnce

/-- A caller is let in to change the index, which is whole then. -/
theorem letWrite (h : Coherent initial shared history) {change : Change}
    (hcaller : shared.callers[i]? =
      some ⟨.change change, .changing change.start⟩)
    (htallied : lock.Tallied)
    (hturn : SharedLock.Turn shared.lock.threads lock.threads i before .writing)
    (hbefore : before ≠ .writing)
    (hnew : i ∉ History.writers history.order) :
    Coherent initial { shared with lock }
      { history with order := history.order ++ [(i, change)] } := by
  have halone : ∀ j : Nat, j ≠ i → shared.lock.threads[j]? ≠ some .reading ∧
      shared.lock.threads[j]? ≠ some .writing := by
    intro j hne
    constructor
    · intro hj
      have hin := hturn.in_of_in hne hj (.inl rfl)
      exact hne (htallied.alone hturn.after (.inl hin))
    · intro hj
      have hin := hturn.in_of_in hne hj (.inr rfl)
      exact hne (htallied.alone hturn.after (.inr hin))
  have hwhole : shared.index = sequential initial history.order :=
    h.whole (unwritten_of_turn hturn hbefore fun j hne hj =>
      hne (htallied.alone hturn.after (.inr hj)))
  exact {
    tallied := htallied
    length := hturn.length.trans h.length
    standing := by
      apply h.standing_of_turn hturn hcaller
        (fun _ _ => rfl) (History.extends_order i history change)
        (fun j hne hj => absurd hj (halone j hne).2)
        (fun j hne hj => absurd hj (halone j hne).1)
      refine .changing (List.mem_append_right _ (List.mem_singleton_self _)) ?_
      rw [Change.finish_start, sequential_append, ← hwhole]
    whole := fun hnobody => absurd hturn.after (hnobody i)
    ordered := by
      intro j other hmem
      rcases List.mem_append.mp hmem with hold | hlast
      · exact h.ordered j other hold
      · cases List.mem_singleton.mp hlast
        exact ⟨_, hcaller, rfl⟩
    once := by
      rw [History.writers, List.map_append]
      exact List.nodup_append.mpr ⟨h.once, List.nodup_singleton _, by
        intro j hj k hk heq
        rw [heq, List.mem_singleton.mp hk] at hj
        exact hnew hj⟩
    seen := by
      intro j before hmem
      obtain ⟨hlt, hprefix⟩ := h.seen j before hmem
      exact ⟨hlt, hprefix.trans (List.prefix_append _ _)⟩
    seenOnce := h.seenOnce }

/-- A caller is let in to read. -/
theorem letRead (h : Coherent initial shared history) {inquiry : Inquiry}
    (hcaller : shared.callers[i]? =
      some ⟨.read inquiry, .reading inquiry []⟩)
    (htallied : lock.Tallied)
    (hturn : SharedLock.Turn shared.lock.threads lock.threads i before .reading)
    (hbefore : before ≠ .writing)
    (hnew : i ∉ history.seen.map Prod.fst) :
    Coherent initial { shared with lock }
      { history with seen := (i, history.order) :: history.seen } where
  tallied := htallied
  length := hturn.length.trans h.length
  standing := h.standing_of_turn hturn hcaller
    (fun _ _ => rfl) (History.extends_seen i history) (fun _ _ _ => ⟨rfl, rfl⟩)
    (fun _ _ _ => rfl) (.reading List.mem_cons_self rfl)
  whole := fun hnobody =>
    h.whole (unwritten_of_turn hturn hbefore fun j _ => hnobody j)
  ordered := h.ordered
  once := h.once
  seen := by
    intro j before hmem
    rcases List.mem_cons.mp hmem with hnew | hold
    · cases hnew
      exact ⟨(List.getElem?_eq_some_iff.mp hcaller).1, List.prefix_rfl⟩
    · exact h.seen j before hold
  seenOnce := List.nodup_cons.mpr ⟨hnew, h.seenOnce⟩

/-- A caller comes to another stage. -/
theorem move (h : Coherent initial shared history) {caller next : Caller}
    {index : Index} (hcaller : shared.callers[i]? = some caller)
    (huse : next.use = caller.use) (htallied : lock.Tallied)
    (hturn : SharedLock.Turn shared.lock.threads lock.threads i before after)
    (hindex : ∀ j : Nat, j ≠ i → shared.lock.threads[j]? = some .writing →
      index = shared.index)
    (hself : Standing initial index history i next after)
    (hwhole : (∀ j : Nat, lock.threads[j]? ≠ some .writing) →
      index = sequential initial history.order) :
    Coherent initial ⟨lock, index, shared.callers.set i next⟩ history where
  tallied := htallied
  length := by
    rw [List.length_set]
    exact hturn.length.trans h.length
  standing := h.standing_of_turn hturn
    (List.getElem?_set_self (List.getElem?_eq_some_iff.mp hcaller).1)
    (fun j hne => List.getElem?_set_ne hne.symm) (.refl i history)
    (fun j hne hj => ⟨hindex j hne hj, rfl⟩) (fun _ _ _ => rfl) hself
  whole := hwhole
  ordered := by
    intro j change hmem
    obtain ⟨other, hother, hchange⟩ := h.ordered j change hmem
    dsimp only
    by_cases hne : j = i
    · subst hne
      rw [hcaller] at hother
      cases hother
      exact ⟨next,
        List.getElem?_set_self (List.getElem?_eq_some_iff.mp hcaller).1,
        huse.trans hchange⟩
    · exact ⟨other, by rw [List.getElem?_set_ne (Ne.symm hne), hother], hchange⟩
  once := h.once
  seen := by
    intro j before hmem
    rw [List.length_set]
    exact h.seen j before hmem
  seenOnce := h.seenOnce

/-- A caller that is in takes a step. Only one that is in alone changes the
index. -/
theorem act (h : Coherent initial shared history) {caller next : Caller}
    {index : Index} {stance : Stance}
    (hcaller : shared.callers[i]? = some caller)
    (hi : shared.lock.threads[i]? = some stance)
    (hin : stance = .reading ∨ stance = .writing)
    (hact : caller.act? shared.index = some (index, next)) :
    Coherent initial
      { shared with index, callers := shared.callers.set i next } history := by
  have hturn : SharedLock.Turn shared.lock.threads shared.lock.threads i stance
      stance :=
    ⟨hi, hi, rfl, fun j other _ hj => ⟨other, hj, .same⟩⟩
  have hstanding := h.standing i caller stance hcaller hi
  cases hstanding with
  | toChange hout | toRead hout =>
      rcases hin with rfl | rfl <;> rcases hout with hout | ⟨woken, hout⟩ <;>
        cases hout
  | changed | read => rcases hin with hin | hin <;> cases hin
  | changing hmem hfinish =>
      obtain ⟨⟨later, rest⟩, hstep, heq⟩ := Option.map_eq_some_iff.mp hact
      cases heq
      refine h.move hcaller rfl h.tallied hturn
        (fun j hne hj => absurd (h.tallied.alone hi (.inr hj)) hne) ?_
        (fun hnobody => absurd hi (hnobody i))
      exact .changing hmem ((Change.finish_of_step? hstep).trans hfinish)
  | @reading inquiry rest told hmem htold =>
      have hwhole : (∀ j : Nat, shared.lock.threads[j]? ≠ some .writing) →
          shared.index = sequential initial history.order := h.whole
      have hnobody : ∀ j : Nat, shared.lock.threads[j]? ≠ some .writing := by
        intro j hj
        have heq := h.tallied.alone hj (.inl hi)
        subst heq
        rw [hi] at hj
        cases hj
      cases rest with
      | look continue' =>
          cases hact
          refine h.move hcaller rfl h.tallied hturn (fun _ _ _ => rfl) ?_ hwhole
          refine .reading hmem ?_
          rw [hwhole hnobody]
          exact htold
      | tell answer rest =>
          cases hact
          refine h.move hcaller rfl h.tallied hturn (fun _ _ _ => rfl) ?_ hwhole
          refine .reading hmem ?_
          rw [List.append_assoc]
          exact htold
      | ended => cases hact

/-- A caller that has no step left goes. -/
theorem leave (h : Coherent initial shared history) {caller : Caller}
    (hcaller : shared.callers[i]? = some caller)
    (hover : caller.act? shared.index = none) (htallied : lock.Tallied)
    (hturn : SharedLock.Turn shared.lock.threads lock.threads i before .outside)
    (hin : before = .reading ∨ before = .writing) :
    Coherent initial
      { shared with
        lock
        callers := shared.callers.set i
          { caller with stage := .returned caller.told } } history := by
  have hstanding := h.standing i caller before hcaller hturn.before
  cases hstanding with
  | toChange hout | toRead hout =>
      rcases hin with rfl | rfl <;> rcases hout with hout | ⟨woken, hout⟩ <;>
        cases hout
  | changed | read => rcases hin with hin | hin <;> cases hin
  | changing hmem hfinish =>
      have hdone := Change.finish_of_over (Option.map_eq_none_iff.mp hover)
      exact h.move hcaller rfl htallied hturn (fun _ _ _ => rfl) (.changed hmem)
        (fun _ => hdone.symm.trans hfinish)
  | @reading inquiry rest told hmem htold =>
      cases rest with
      | look | tell => cases hover
      | ended =>
          refine h.move hcaller rfl htallied hturn (fun _ _ _ => rfl) ?_
            (fun hnobody => h.whole
              (unwritten_of_turn hturn nofun fun j _ => hnobody j))
          rw [Inquiry.answers, List.append_nil] at htold
          subst htold
          exact .read hmem

/-- A caller asks for the side of the lock that its use needs. -/
theorem door (h : Coherent initial shared history) {caller : Caller}
    {event : SharingEvent}
    (hcaller : shared.callers[i]? = some caller) (htallied : lock.Tallied)
    (hturn : SharedLock.Turn shared.lock.threads lock.threads i before after)
    (hbefore : before = .outside ∧ caller.hasReturned = false ∨
      ∃ woken, before = .awaitingRead woken ∨ before = .awaitingWrite woken)
    (hafter : ∀ change, caller.use = .change change →
      after = .writing ∨ after = .awaitingWrite false)
    (hafter' : ∀ inquiry, caller.use = .read inquiry →
      after = .reading ∨ after = .awaitingRead false)
    (hevent : event = .enter i ∨ event = .retest i) :
    Coherent initial { shared with lock }
      (history.noteEvent { shared with lock } event) := by
  have hwriting : before ≠ .writing := by
    rcases hbefore with ⟨rfl, -⟩ | ⟨woken, rfl | rfl⟩ <;> exact nofun
  have hstanding := h.standing i caller before hcaller hturn.before
  cases hstanding with
  | @toChange change _ hout hnew =>
      rcases hafter change rfl with rfl | rfl
      · rw [History.noteEvent_writing { shared with lock } hevent hturn.after
          hcaller]
        exact h.letWrite hcaller htallied hturn hwriting hnew
      · rw [History.noteEvent_waiting { shared with lock } hevent hturn.after
          hcaller (.inl rfl)]
        exact h.wait hcaller htallied hturn hwriting
          (.toChange (.inr ⟨_, rfl⟩) hnew)
  | @toRead inquiry _ hout hnew =>
      rcases hafter' inquiry rfl with rfl | rfl
      · rw [History.noteEvent_reading { shared with lock } hevent hturn.after
          hcaller]
        exact h.letRead hcaller htallied hturn hwriting hnew
      · rw [History.noteEvent_waiting { shared with lock } hevent hturn.after
          hcaller (.inr rfl)]
        exact h.wait hcaller htallied hturn hwriting
          (.toRead (.inr ⟨_, rfl⟩) hnew)
  | changing | reading =>
      rcases hbefore with ⟨hout, -⟩ | ⟨woken, hout | hout⟩ <;> cases hout
  | changed | read =>
      rcases hbefore with ⟨-, hnot⟩ | ⟨woken, hout | hout⟩
      · cases hnot
      · cases hout
      · cases hout

/-- Every step keeps it. -/
theorem of_step? (h : Coherent initial shared history) {event : SharingEvent}
    {next : SharedIndex} (hstep : shared.step? event = some next) :
    Coherent initial next (history.noteEvent next event) := by
  cases event with
  | call use =>
      cases hstep
      exact h.call use
  | enter i =>
      obtain ⟨caller, hcaller, hstep⟩ := Option.bind_eq_some_iff.mp hstep
      split at hstep
      · cases hstep
      next hnot =>
      rw [Bool.not_eq_true] at hnot
      obtain ⟨lock, hlock, rfl⟩ := Option.map_eq_some_iff.mp hstep
      have htallied := SharedLock.tallied_of_step
        (SharedLock.step_of_step? hlock) h.tallied
      obtain ⟨use, stage⟩ := caller
      cases use with
      | change change =>
          obtain ⟨after, hturn, hafter⟩ := SharedLock.turn_of_write hlock
          exact h.door hcaller htallied hturn (.inl ⟨rfl, hnot⟩)
            (fun _ _ => hafter) nofun (.inl rfl)
      | read inquiry =>
          obtain ⟨after, hturn, hafter⟩ := SharedLock.turn_of_read hlock
          exact h.door hcaller htallied hturn (.inl ⟨rfl, hnot⟩)
            nofun (fun _ _ => hafter) (.inl rfl)
  | retest i =>
      obtain ⟨lock, hlock, rfl⟩ := Option.map_eq_some_iff.mp hstep
      have htallied := SharedLock.tallied_of_step
        (SharedLock.step_of_step? hlock) h.tallied
      have hcaller : ∀ stance : Stance, shared.lock.threads[i]? = some stance →
          ∃ caller, shared.callers[i]? = some caller := by
        intro stance hi
        have hlt := (List.getElem?_eq_some_iff.mp hi).1
        rw [h.length] at hlt
        exact ⟨_, List.getElem?_eq_getElem hlt⟩
      rcases SharedLock.turn_of_retest hlock with
        ⟨after, hturn, hafter⟩ | ⟨after, hturn, hafter⟩
      · obtain ⟨caller, hcaller⟩ := hcaller _ hturn.before
        refine h.door hcaller htallied hturn (.inr ⟨_, .inl rfl⟩) ?_
          (fun _ _ => hafter) (.inr rfl)
        intro change huse
        -- A caller that waits to read is not one that changes the index.
        cases h.standing i caller _ hcaller hturn.before with
        | toChange hout => rcases hout with hout | ⟨woken, hout⟩ <;> cases hout
        | toRead => cases huse
      · obtain ⟨caller, hcaller⟩ := hcaller _ hturn.before
        refine h.door hcaller htallied hturn (.inr ⟨_, .inr rfl⟩)
          (fun _ _ => hafter) ?_ (.inr rfl)
        intro inquiry huse
        cases h.standing i caller _ hcaller hturn.before with
        | toChange => cases huse
        | toRead hout => rcases hout with hout | ⟨woken, hout⟩ <;> cases hout
  | act i =>
      obtain ⟨caller, hcaller, hstep⟩ := Option.bind_eq_some_iff.mp hstep
      split at hstep
      · next hin =>
          obtain ⟨⟨index, later⟩, hact, rfl⟩ := Option.map_eq_some_iff.mp hstep
          rw [SharedIndex.isIn, Bool.or_eq_true, decide_eq_true_iff,
            decide_eq_true_iff] at hin
          rcases hin with hi | hi
          · exact h.act hcaller hi (.inl rfl) hact
          · exact h.act hcaller hi (.inr rfl) hact
      · cases hstep
  | leave i woken? =>
      obtain ⟨caller, hcaller, hstep⟩ := Option.bind_eq_some_iff.mp hstep
      split at hstep
      · cases hstep
      next hover =>
      rw [Option.not_isSome_iff_eq_none] at hover
      obtain ⟨lock, hlock, rfl⟩ := Option.map_eq_some_iff.mp hstep
      have htallied := SharedLock.tallied_of_step
        (SharedLock.step_of_step? hlock) h.tallied
      obtain ⟨before, hturn, hin⟩ := SharedLock.turn_of_release hlock
      exact h.leave hcaller hover htallied hturn hin

end Coherent

end Concordance
