import Concordance.Proofs.SharedHistory

/-!
# Calls on a shared index take effect at once

While somebody is in to read, no change is let in, so all answers of one inquiry
are about one index, the one of the changes let in before it. Among these are
all changes that had returned when the inquiry was made, since a change returns
after it was let in; and none that were made after the inquiry returned.
-/

namespace Concordance

/-! ## What a run keeps -/

namespace History

/-- One history goes on from another. Who is let in later has seen all changes
that were let in before. -/
structure Grows (history later : History) : Prop where
  order : history.order <+: later.order
  seen : history.seen ⊆ later.seen
  fresh : ∀ entry ∈ later.seen, entry ∈ history.seen ∨
    history.order <+: entry.2

theorem Grows.refl (history : History) : history.Grows history :=
  ⟨List.prefix_rfl, List.Subset.refl _, fun _ h => .inl h⟩

theorem Grows.trans {history mid later : History} (h : history.Grows mid)
    (h' : mid.Grows later) : history.Grows later where
  order := h.order.trans h'.order
  seen := fun _ hentry => h'.seen (h.seen hentry)
  fresh := by
    intro entry hentry
    rcases h'.fresh entry hentry with hmid | hlate
    · exact h.fresh entry hmid
    · exact .inr (h.order.trans hlate)

theorem grows_noteEvent (next : SharedIndex) (history : History)
    (event : SharingEvent) : history.Grows (history.noteEvent next event) := by
  have hentered : ∀ i : Nat, history.Grows
      (history.noteEvent next (.enter i)) := by
    intro i
    rw [noteEvent]
    split
    · exact ⟨List.prefix_append _ _, List.Subset.refl _, fun _ h => .inl h⟩
    · refine ⟨List.prefix_rfl, List.subset_cons_self _ _, ?_⟩
      intro entry hentry
      rcases List.mem_cons.mp hentry with rfl | hold
      · exact .inr List.prefix_rfl
      · exact .inl hold
    · exact .refl history
  cases event with
  | enter i | retest i => exact hentered i
  | call | act | leave => exact .refl history

theorem grows_after (events : List SharingEvent) :
    ∀ (shared : SharedIndex) (history : History),
      history.Grows (history.after shared events) := by
  induction events with
  | nil => exact fun _ history => .refl history
  | cons event events ih =>
      intro shared history
      rw [after, notesAfter]
      split
      · exact .refl history
      · exact (grows_noteEvent _ history event).trans (ih _ _)

end History

namespace Coherent

theorem of_run? {initial : Index} {shared last : SharedIndex}
    {history : History} {events : List SharingEvent}
    (h : Coherent initial shared history)
    (hrun : shared.run? events = some last) :
    Coherent initial last (history.after shared events) :=
  notes_keep (Coherent initial) (fun h hstep => h.of_step? hstep) h hrun

variable {initial : Index} {shared : SharedIndex} {history : History}

/-- Every caller stands somehow. -/
theorem stands (h : Coherent initial shared history) {i : Nat} {caller : Caller}
    (hcaller : shared.callers[i]? = some caller) :
    ∃ stance, shared.lock.threads[i]? = some stance ∧
      Standing initial shared.index history i caller stance := by
  have hlt := (List.getElem?_eq_some_iff.mp hcaller).1
  rw [← h.length] at hlt
  exact ⟨_, List.getElem?_eq_getElem hlt,
    h.standing i caller _ hcaller (List.getElem?_eq_getElem hlt)⟩

/-- A change that has returned was let in. -/
theorem mem_order_of_returned (h : Coherent initial shared history) {i : Nat}
    {change : Change} {told : List Answer}
    (hcaller : shared.callers[i]? = some ⟨.change change, .returned told⟩) :
    (i, change) ∈ history.order := by
  obtain ⟨stance, -, hstanding⟩ := h.stands hcaller
  cases hstanding with
  | changed hin => exact hin

/-- A change is let in exactly when it is under way or has returned. -/
theorem mem_order_iff (h : Coherent initial shared history) (i : Nat)
    (change : Change) :
    (i, change) ∈ history.order ↔
      ∃ caller, shared.callers[i]? = some caller ∧
        caller.use = .change change ∧
        (shared.lock.threads[i]? = some .writing ∨
          caller.hasReturned = true) := by
  constructor
  · intro hmem
    obtain ⟨caller, hcaller, huse⟩ := h.ordered i change hmem
    refine ⟨caller, hcaller, huse, ?_⟩
    obtain ⟨stance, hi, hstanding⟩ := h.stands hcaller
    cases hstanding with
    | toChange hout hnew => exact absurd (List.mem_map_of_mem hmem) hnew
    | changing => exact .inl hi
    | changed => exact .inr rfl
    | toRead | reading | read => cases huse
  · rintro ⟨caller, hcaller, huse, hin⟩
    obtain ⟨stance, hi, hstanding⟩ := h.stands hcaller
    cases hstanding with
    | toChange hout hnew =>
        rcases hin with hwriting | hreturned
        · rw [hi] at hwriting
          rcases hout with rfl | ⟨woken, rfl⟩ <;> cases hwriting
        · cases hreturned
    | changing hmem =>
        cases huse
        exact hmem
    | changed hmem =>
        cases huse
        exact hmem
    | toRead | reading | read => cases huse

/-- A reader that has returned had been let in. -/
theorem exists_seen_of_returned (h : Coherent initial shared history) {r : Nat}
    {caller : Caller} (hcaller : shared.callers[r]? = some caller)
    (hreturned : caller.hasReturned = true)
    (hreads : r ∉ History.writers history.order) :
    ∃ before, (r, before) ∈ history.seen := by
  obtain ⟨stance, -, hstanding⟩ := h.stands hcaller
  cases hstanding with
  | toChange | changing | toRead | reading => cases hreturned
  | changed hin => exact absurd (List.mem_map_of_mem hin) hreads
  | read hin => exact ⟨_, hin⟩

end Coherent

/-! ## Whole runs -/

/-- What a thread asks while it holds the lock to read, where what it asks next
may depend on what it was told. -/
inductive Questions where
  | ask (question : Question) (next : Answer → Questions)
  | ended

namespace Questions

/-- The steps that answering takes. -/
def inquiry : Questions → Inquiry
  | ask question next => question.ask fun answer => (next answer).inquiry
  | ended => .ended

/-- What an index answers that nobody shares. -/
def answers (index : Index) : Questions → List Answer
  | ask question next =>
    question.answer index :: (next (question.answer index)).answers index
  | ended => []

theorem answers_inquiry (index : Index) (questions : Questions) :
    questions.inquiry.answers index = questions.answers index := by
  induction questions with
  | ask question next ih =>
      refine (Inquiry.answers_ask index question _).trans ?_
      rw [ih, answers]
  | ended => rfl

end Questions

/-- What a reader was told is about the index that the changes `before` have
made, and these are the right ones for when the reader came and went. -/
structure ReadsAfter (initial : Index) (events : List SharingEvent)
    (order before : List (Nat × Change)) (r : Nat) (caller : Caller)
    (inquiry : Inquiry) : Prop where
  front : before <+: order
  told : caller.told <+: inquiry.answers (sequential initial before)
  toldAll : caller.hasReturned = true →
    caller.told = inquiry.answers (sequential initial before)
  /-- Whatever steps it takes to answer questions, the answers are those that
  the index gives to each at once. -/
  plain : ∀ questions : Questions, inquiry = questions.inquiry →
    inquiry.answers (sequential initial before) =
      questions.answers (sequential initial before)
  /-- Changes that had returned when the reader came are among them. -/
  latest : ∀ (earlier later : List SharingEvent) (mid : SharedIndex),
    events = earlier ++ later →
    (SharedIndex.start initial).run? earlier = some mid →
    mid.callers.length ≤ r →
      ∀ (i : Nat) (change : Change) (told : List Answer),
        mid.callers[i]? = some ⟨.change change, .returned told⟩ →
          (i, change) ∈ before
  /-- Changes that had not come when the reader returned are not. -/
  earliest : ∀ (earlier later : List SharingEvent) (mid : SharedIndex)
    (done : Caller), events = earlier ++ later →
    (SharedIndex.start initial).run? earlier = some mid →
    mid.callers[r]? = some done → done.hasReturned = true →
      ∀ entry ∈ before, entry.1 < mid.callers.length

section Moments

variable {initial : Index} {earlier later : List SharingEvent}
  {mid last : SharedIndex}

theorem coherent_ofRun {events : List SharingEvent}
    (hrun : (SharedIndex.start initial).run? events = some last) :
    Coherent initial last (History.ofRun initial events) :=
  (Coherent.start initial).of_run? hrun

theorem History.grows_ofRun
    (hearlier : (SharedIndex.start initial).run? earlier = some mid) :
    (ofRun initial earlier).Grows (ofRun initial (earlier ++ later)) := by
  rw [ofRun, ofRun, after, after, notes_append hearlier]
  exact grows_after later mid _

/-- What has returned when a reader comes, the reader will see. -/
theorem mem_seen_of_returned
    (hearlier : (SharedIndex.start initial).run? earlier = some mid)
    {r i : Nat} {before : List (Nat × Change)} {change : Change}
    {told : List Answer}
    (hseen : (r, before) ∈ (History.ofRun initial (earlier ++ later)).seen)
    (hr : mid.callers.length ≤ r)
    (hi : mid.callers[i]? = some ⟨.change change, .returned told⟩) :
    (i, change) ∈ before := by
  have hmid := coherent_ofRun hearlier
  rcases (History.grows_ofRun hearlier).fresh _ hseen with hold | hfront
  · exact absurd (hmid.seen r before hold).1 (Nat.not_lt.mpr hr)
  · exact hfront.subset (hmid.mem_order_of_returned hi)

/-- What a reader has seen that has returned, are changes that had come. -/
theorem lt_of_mem_seen
    (hearlier : (SharedIndex.start initial).run? earlier = some mid)
    (hrun : (SharedIndex.start initial).run? (earlier ++ later) = some last)
    {r : Nat} {before : List (Nat × Change)} {done : Caller}
    (hseen : (r, before) ∈ (History.ofRun initial (earlier ++ later)).seen)
    (hreads : r ∉
      History.writers (History.ofRun initial (earlier ++ later)).order)
    (hdone : mid.callers[r]? = some done) (hreturned : done.hasReturned = true)
    {entry : Nat × Change} (hentry : entry ∈ before) :
    entry.1 < mid.callers.length := by
  have hmid := coherent_ofRun hearlier
  have hgrows : (History.ofRun initial earlier).Grows
      (History.ofRun initial (earlier ++ later)) :=
    History.grows_ofRun hearlier
  obtain ⟨old, hold⟩ := hmid.exists_seen_of_returned hdone hreturned
    fun hmem => hreads (hgrows.order.map Prod.fst |>.subset hmem)
  have heq := List.inj_on_of_nodup_map (coherent_ofRun hrun).seenOnce
    (hgrows.seen hold) hseen rfl
  cases heq
  have hfront := (hmid.seen r before hold).2
  exact hmid.lt_of_writer (List.mem_map_of_mem (hfront.subset hentry))

end Moments

/-- However calls on a shared index run into each other, it is as if each change
was made at one moment, in the order in which the changes were let in to write,
and as if all that one reader asked was answered at one moment too. -/
theorem SharedIndex.run_atomic {initial : Index} {events : List SharingEvent}
    {last : SharedIndex}
    (hrun : (SharedIndex.start initial).run? events = some last) :
    let order := (History.ofRun initial events).order
    (order.map Prod.fst).Nodup ∧
    (∀ (i : Nat) (change : Change), (i, change) ∈ order ↔
      ∃ caller, last.callers[i]? = some caller ∧
        caller.use = .change change ∧
        (last.lock.threads[i]? = some .writing ∨
          caller.hasReturned = true)) ∧
    ((∀ i : Nat, last.lock.threads[i]? ≠ some .writing) →
      last.index = sequential initial order) ∧
    ∀ (r : Nat) (caller : Caller) (inquiry : Inquiry),
      last.callers[r]? = some caller → caller.use = .read inquiry →
        ∃ before, ReadsAfter initial events order before r caller inquiry := by
  have hend := coherent_ofRun hrun
  refine ⟨hend.once, hend.mem_order_iff, hend.whole, ?_⟩
  rintro r ⟨use, stage⟩ inquiry hcaller rfl
  have hreads : r ∉ History.writers (History.ofRun initial events).order := by
    intro hmem
    obtain ⟨⟨j, change⟩, hin, rfl⟩ := List.mem_map.mp hmem
    obtain ⟨other, hother, huse⟩ := hend.ordered j change hin
    rw [hcaller] at hother
    cases hother
    cases huse
  have hplain : ∀ (before : List (Nat × Change)) (questions : Questions),
      inquiry = questions.inquiry →
        inquiry.answers (sequential initial before) =
          questions.answers (sequential initial before) := by
    rintro before questions rfl
    exact Questions.answers_inquiry _ questions
  obtain ⟨stance, -, hstanding⟩ := hend.stands hcaller
  -- A reader that was let in goes by what it saw then.
  have hlet : ∀ before, (r, before) ∈ (History.ofRun initial events).seen →
      Caller.told ⟨.read inquiry, stage⟩ <+:
        inquiry.answers (sequential initial before) →
      (Caller.hasReturned ⟨.read inquiry, stage⟩ = true →
        Caller.told ⟨.read inquiry, stage⟩ =
          inquiry.answers (sequential initial before)) →
      ReadsAfter initial events (History.ofRun initial events).order before r
        ⟨.read inquiry, stage⟩ inquiry := by
    intro before hseen htold hall
    refine ⟨(hend.seen r before hseen).2, htold, hall, hplain before, ?_, ?_⟩
    · rintro earlier later mid rfl hearlier hr i change told hi
      exact mem_seen_of_returned hearlier hseen hr hi
    · rintro earlier later mid done rfl hearlier hdone hreturned entry hentry
      exact lt_of_mem_seen hearlier hrun hseen hreads hdone hreturned hentry
  cases hstanding with
  | toRead hout hnew =>
      refine ⟨_, List.prefix_rfl, List.nil_prefix, nofun, hplain _, ?_, ?_⟩
      · rintro earlier later mid rfl hearlier - i change told hi
        have hin := (coherent_ofRun hearlier).mem_order_of_returned hi
        exact (History.grows_ofRun hearlier).order.subset hin
      · rintro earlier later mid done rfl hearlier hdone hreturned
        have hgrows : (History.ofRun initial earlier).Grows
            (History.ofRun initial (earlier ++ later)) :=
          History.grows_ofRun hearlier
        obtain ⟨before, hold⟩ :=
          (coherent_ofRun hearlier).exists_seen_of_returned hdone hreturned
            fun hmem => hreads (hgrows.order.map Prod.fst |>.subset hmem)
        exact absurd (List.mem_map_of_mem (hgrows.seen hold)) hnew
  | reading hin htold =>
      exact ⟨_, hlet _ hin ⟨_, htold⟩ nofun⟩
  | read hin => exact ⟨_, hlet _ hin List.prefix_rfl fun _ => rfl⟩

/-- A page of two words is added. -/
def pears : Change := .addAll ["apple", "pear"] "fruit" 0

/-- Another thread asks for the number of words when one of the two is in. -/
def pearEvents : List SharingEvent :=
  [.call (.change pears), .call Question.size.use, .enter 0, .act 0, .enter 1,
    .act 0, .leave 0 none, .retest 1, .act 1, .act 1, .leave 1 none]

/-- It waits and is told of both. -/
theorem run_pears :
    ∃ last, (SharedIndex.start .empty).run? pearEvents = some last ∧
      last.callers.map Caller.told = [[], [.number 2]] ∧
      last.index = sequential .empty [(0, pears)] ∧
      ∃ before, ReadsAfter .empty pearEvents [(0, pears)] before 1
        ⟨Question.size.use, .returned [.number 2]⟩
        (Question.size.ask fun _ => .ended) := by
  have hrun : (SharedIndex.start .empty).run? pearEvents =
      some ⟨⟨0, false, 0, [.outside, .outside]⟩,
        pears.apply .empty,
        [⟨.change pears, .returned []⟩,
          ⟨Question.size.use, .returned [.number 2]⟩]⟩ := rfl
  obtain ⟨-, -, hwhole, hreads⟩ := SharedIndex.run_atomic hrun
  refine ⟨_, hrun, rfl, hwhole ?_, hreads 1 _ _ rfl rfl⟩
  rintro (_ | _ | i) hi <;> cases hi

end Concordance
