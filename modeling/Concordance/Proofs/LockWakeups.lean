import Concordance.Proofs.LockRoles

/-!
# No wake-up of a lock is lost

A thread that is not let in parks, and from then on others have to see to it
that it tests again. The lock does little for that: who lets go wakes one
writer, or all readers if no writer waits, and nobody else wakes anybody. The
thread that was woken may find the lock taken by one that never waited, and
park once more.

What carries the argument is that the lock never lets anybody in who would
leave others behind unnoticed. Whoever comes in shuts out the writers, and a
writer the readers too, until it lets go and wakes again. So it is enough to
look at the moments in which the lock would let somebody in: then no reader is
parked, or one of the waiting writers is awake (`SharedLock.Alert`). Every
event keeps that, given that the lock counts the waiting writers right.
-/

namespace Concordance

namespace Stance

/-- Has asked for the lock and is not in. -/
def isWaiting : Stance → Bool
  | awaitingRead _ | awaitingWrite _ => true
  | outside | reading | writing => false

/-- Waits, and does not test again before it is woken. -/
def isParked : Stance → Bool
  | awaitingRead woken | awaitingWrite woken => !woken
  | outside | reading | writing => false

end Stance

namespace SharedLock

/-- Of those whom the lock would let in, not all are parked: of the readers
nobody is, and of the writers one is awake. -/
structure Alert (lock : SharedLock) : Prop where
  writers : lock.admitsWriter = true → 0 < lock.waitingWriters →
    .awaitingWrite true ∈ lock.threads
  readers : lock.admitsReader = true → .awaitingRead false ∉ lock.threads

theorem alert_unused (threads : Nat) : (unused threads).Alert where
  writers := fun _ hwaiting => absurd hwaiting (Nat.lt_irrefl 0)
  readers := by
    intro _ hparked
    cases List.eq_of_mem_replicate hparked

/-! ## Coming in, and parking -/

/-- While a thread writes nobody else would be let in. -/
theorem alert_of_writer {lock : SharedLock} (h : lock.writer = true) :
    lock.Alert where
  writers := by
    intro hadmits
    rw [(admitsWriter_iff.mp hadmits).1] at h
    cases h
  readers := by
    intro hadmits
    rw [(admitsReader_iff.mp hadmits).1] at h
    cases h

/-- Where another stands now, everybody else is still found. -/
theorem mem_set_of_ne {threads : List Stance} {i : Nat}
    {before after other : Stance} (hi : threads[i]? = some before)
    (hmem : other ∈ threads) (hne : before ≠ other) :
    other ∈ threads.set i after := by
  obtain ⟨j, hj⟩ := List.getElem?_of_mem hmem
  have hij : i ≠ j := by
    rintro rfl
    exact hne (Option.some.inj (hi.symm.trans hj))
  exact List.mem_of_getElem? ((List.getElem?_set_ne hij).trans hj)

/-- A thread that the lock does not let in is left as it was or parks, and it
was not the one writer that has to be awake. -/
theorem Alert.place {lock : SharedLock} {i : Nat} {before after : Stance}
    (halert : lock.Alert) (hi : lock.threads[i]? = some before)
    (hbefore : before = .awaitingWrite true → lock.admitsWriter = false)
    (hafter : after = .awaitingRead false → lock.admitsReader = false) :
    (lock.place i after).Alert where
  writers := by
    intro hadmits hwaiting
    refine mem_set_of_ne hi (halert.writers hadmits hwaiting) ?_
    intro heq
    rw [show lock.admitsWriter = true from hadmits] at hbefore
    cases hbefore heq
  readers := by
    intro hadmits hparked
    rcases List.mem_or_eq_of_mem_set hparked with hmem | heq
    · exact halert.readers hadmits hmem
    · rw [show lock.admitsReader = true from hadmits] at hafter
      cases hafter heq.symm

theorem Alert.enterRead {lock : SharedLock} {i : Nat}
    {before otherwise : Stance} (halert : lock.Alert)
    (hi : lock.threads[i]? = some before)
    (hbefore : before ≠ .awaitingWrite true) :
    (lock.enterRead i otherwise).Alert := by
  unfold SharedLock.enterRead
  split
  · next hadmits =>
      constructor
      · intro hwriter
        cases (admitsWriter_iff.mp hwriter).2
      · intro _ hparked
        rcases List.mem_or_eq_of_mem_set hparked with hmem | heq
        · exact halert.readers hadmits hmem
        · cases heq
  · next hshut =>
      exact halert.place hi (fun heq => absurd heq hbefore)
        fun _ => Bool.eq_false_iff.mpr hshut

theorem Alert.enterWrite {lock : SharedLock} {i : Nat} (halert : lock.Alert)
    (hi : lock.threads[i]? = some .outside) :
    (lock.enterWrite i .outside).Alert := by
  unfold SharedLock.enterWrite
  split
  · exact alert_of_writer rfl
  · exact halert.place hi (fun heq => by cases heq) (fun heq => by cases heq)

theorem Alert.enterWaiting {lock : SharedLock} {i : Nat} (halert : lock.Alert)
    (hi : lock.threads[i]? = some (.awaitingWrite true)) :
    (lock.enterWaiting i).Alert := by
  unfold SharedLock.enterWaiting
  split
  · exact alert_of_writer rfl
  · next hshut =>
      exact halert.place hi (fun _ => Bool.eq_false_iff.mpr hshut)
        (fun heq => by cases heq)

/-- A thread that calls to write is let in or shuts out the readers, and it
parks only where nobody else could write either. -/
theorem alert_call (lock : SharedLock) (i : Nat) :
    (SharedLock.enterWaiting
      { lock with waitingWriters := lock.waitingWriters + 1 } i).Alert := by
  unfold SharedLock.enterWaiting
  split
  · exact alert_of_writer rfl
  · next hshut =>
      constructor
      · exact fun hadmits => absurd hadmits hshut
      · intro hadmits
        cases (admitsReader_iff.mp hadmits).2

/-! ## Letting go -/

theorem mem_roles_reader {lock : SharedLock} :
    .reader ∈ lock.roles ↔ .reading ∈ lock.threads := by
  rw [roles, List.mem_map]
  constructor
  · rintro ⟨stance, hmem, hrole⟩
    cases stance <;> cases hrole
    exact hmem
  · exact fun hmem => ⟨.reading, hmem, rfl⟩

theorem mem_roles_writer {lock : SharedLock} :
    .writer ∈ lock.roles ↔ .writing ∈ lock.threads := by
  rw [roles, List.mem_map]
  constructor
  · rintro ⟨stance, hmem, hrole⟩
    cases stance <;> cases hrole
    exact hmem
  · exact fun hmem => ⟨.writing, hmem, rfl⟩

theorem mem_roles_claimant {lock : SharedLock} :
    .claimant ∈ lock.roles ↔ ∃ woken, .awaitingWrite woken ∈ lock.threads := by
  rw [roles, List.mem_map]
  constructor
  · rintro ⟨stance, hmem, hrole⟩
    cases stance <;> cases hrole
    exact ⟨_, hmem⟩
  · rintro ⟨woken, hmem⟩
    exact ⟨.awaitingWrite woken, hmem, rfl⟩

theorem Tallied.exists_awaiting {lock : SharedLock} (htallied : lock.Tallied)
    (hwaiting : 0 < lock.waitingWriters) :
    ∃ woken, .awaitingWrite woken ∈ lock.threads := by
  rw [Tally.claimants htallied] at hwaiting
  exact mem_roles_claimant.mp (List.count_pos_iff.mp hwaiting)

/-- Who wakes a writer leaves one awake: the one that was named or, if none was
parked, any of those that wait. -/
theorem alert_of_wakeWriter? {lock next : SharedLock} {woken? : Option Nat}
    (h : lock.wakeWriter? woken? = some next) (htallied : next.Tallied)
    (hreaders : lock.admitsReader = true →
      .awaitingRead false ∉ lock.threads) : next.Alert := by
  unfold wakeWriter? at h
  split at h
  · split at h
    · cases h
    · next hnone =>
        cases h
        refine ⟨fun _ hwaiting => ?_, hreaders⟩
        obtain ⟨woken, hmem⟩ := htallied.exists_awaiting hwaiting
        cases woken with
        | false => exact absurd hmem hnone
        | true => exact hmem
  · next i =>
      split at h
      · next hi =>
          cases h
          constructor
          · intro _ _
            exact List.mem_of_getElem? (List.getElem?_set_self
              (List.getElem?_eq_some_iff.mp hi).1)
          · intro hadmits hparked
            rcases List.mem_or_eq_of_mem_set hparked with hmem | heq
            · exact hreaders hadmits hmem
            · cases heq
      · cases h

/-- No reader is parked once all of them were woken. -/
theorem not_mem_wakeReaders (lock : SharedLock) :
    .awaitingRead false ∉ lock.wakeReaders.threads := by
  intro hmem
  obtain ⟨stance, -, hstance⟩ := List.mem_map.mp hmem
  split at hstance
  · cases hstance
  · next hne => exact hne hstance

theorem Alert.leaveRead {lock next : SharedLock} {i : Nat}
    {woken? : Option Nat} (halert : lock.Alert)
    (h : lock.leaveRead? i woken? = some next) (htallied : next.Tallied) :
    next.Alert := by
  have hreaders : lock.admitsReader = true →
      .awaitingRead false ∉ (lock.place i .outside).threads := by
    intro hadmits hparked
    rcases List.mem_or_eq_of_mem_set hparked with hmem | heq
    · exact halert.readers hadmits hmem
    · cases heq
  simp only [leaveRead?] at h
  split at h
  · exact alert_of_wakeWriter? h htallied hreaders
  · next hothers =>
      split at h
      · cases h
      · cases h
        exact ⟨fun hadmits => absurd (admitsWriter_iff.mp hadmits).2 hothers,
          hreaders⟩

theorem alert_of_leaveWrite? {lock next : SharedLock} {i : Nat}
    {woken? : Option Nat} (h : lock.leaveWrite? i woken? = some next)
    (htallied : next.Tallied) : next.Alert := by
  simp only [leaveWrite?] at h
  split at h
  · next hwaiting =>
      refine alert_of_wakeWriter? h htallied ?_
      intro hadmits
      exact absurd (admitsReader_iff.mp hadmits).2 (Nat.ne_of_gt hwaiting)
  · next hnone =>
      split at h
      · cases h
      · cases h
        exact ⟨fun _ hwaiting => absurd hwaiting hnone,
          fun _ => not_mem_wakeReaders _⟩

/-! ## What a step and a run keep -/

theorem alert_of_step? {lock next : SharedLock} {event : LockEvent}
    (h : lock.step? event = some next) (htallied : lock.Tallied)
    (halert : lock.Alert) : next.Alert := by
  have hnext := tallied_of_step (step_of_step? h) htallied
  cases event with
  | read i =>
      simp only [step?] at h
      split at h
      · next hi => cases h; exact halert.enterRead hi (by decide)
      · cases h
  | tryRead i =>
      simp only [step?] at h
      split at h
      · next hi => cases h; exact halert.enterRead hi (by decide)
      · cases h
  | write i =>
      simp only [step?] at h
      split at h
      · cases h; exact alert_call lock i
      · cases h
  | tryWrite i =>
      simp only [step?] at h
      split at h
      · next hi => cases h; exact halert.enterWrite hi
      · cases h
  | retest i =>
      simp only [step?] at h
      split at h
      · next hi => cases h; exact halert.enterRead hi (by decide)
      · next hi => cases h; exact halert.enterWaiting hi
      · cases h
  | release i woken? =>
      simp only [step?] at h
      split at h
      · exact halert.leaveRead h hnext
      · exact alert_of_leaveWrite? h hnext
      · cases h

theorem alert_of_run? {lock last : SharedLock} {events : List LockEvent}
    (htallied : lock.Tallied) (halert : lock.Alert)
    (h : lock.run? events = some last) : last.Tallied ∧ last.Alert :=
  run_keeps (fun lock => lock.Tallied ∧ lock.Alert)
    (fun _ hkept hstep =>
      ⟨tallied_of_step (step_of_step? hstep) hkept.1,
        alert_of_step? hstep hkept.1 hkept.2⟩)
    ⟨htallied, halert⟩ h

/-! ## Nobody waits for nothing -/

/-- Nobody is in. -/
def Vacant (lock : SharedLock) : Prop :=
  .reading ∉ lock.threads ∧ .writing ∉ lock.threads

/-- No thread stays parked before a lock that would let it in. -/
structure Rousing (lock : SharedLock) : Prop where
  /-- If nobody is in and writers wait, one of them is not parked. -/
  writers : lock.Vacant → 0 < lock.waitingWriters →
    .awaitingWrite true ∈ lock.threads
  /-- If nobody writes and no writer waits, no reader is parked. -/
  readers : .writing ∉ lock.threads → lock.waitingWriters = 0 →
    .awaitingRead false ∉ lock.threads
  unstuck : ¬(lock.Vacant ∧ (∃ stance ∈ lock.threads, stance.isWaiting) ∧
    ∀ stance ∈ lock.threads, stance.isWaiting → stance.isParked)
  /-- If nobody is in and somebody waits, somebody has only to test again to be
  let in. -/
  entering : lock.Vacant → (∃ stance ∈ lock.threads, stance.isWaiting) →
    ∃ i next, lock.step? (.retest i) = some next ∧
      (lock.Gains next i .reader ∨ lock.Gains next i .writer)

theorem Tallied.writer_eq_false {lock : SharedLock} (htallied : lock.Tallied)
    (hwriting : .writing ∉ lock.threads) : lock.writer = false := by
  have hcount := Tally.writer htallied
  rw [List.count_eq_zero.mpr (mt mem_roles_writer.mp hwriting)] at hcount
  exact Bool.toNat_eq_zero.mp hcount

theorem Tallied.admitsWriter {lock : SharedLock} (htallied : lock.Tallied)
    (hvacant : lock.Vacant) : lock.admitsWriter = true := by
  refine admitsWriter_iff.mpr ⟨htallied.writer_eq_false hvacant.2, ?_⟩
  rw [Tally.readers htallied]
  exact List.count_eq_zero.mpr (mt mem_roles_reader.mp hvacant.1)

/-- Of those who wait before a lock with nobody in, a writer is awake or else,
since then no writer waits, a reader that would be let in. -/
theorem Alert.exists_woken {lock : SharedLock} (halert : lock.Alert)
    (htallied : lock.Tallied) (hvacant : lock.Vacant)
    (hwaits : ∃ stance ∈ lock.threads, stance.isWaiting) :
    .awaitingWrite true ∈ lock.threads ∨
      lock.admitsReader = true ∧ .awaitingRead true ∈ lock.threads := by
  rcases Nat.eq_zero_or_pos lock.waitingWriters with hnone | hsome
  · right
    have hadmits : lock.admitsReader = true :=
      admitsReader_iff.mpr ⟨htallied.writer_eq_false hvacant.2, hnone⟩
    refine ⟨hadmits, ?_⟩
    obtain ⟨stance, hmem, hstance⟩ := hwaits
    cases stance with
    | outside => cases hstance
    | reading => cases hstance
    | writing => cases hstance
    | awaitingRead woken =>
        cases woken with
        | true => exact hmem
        | false => exact absurd hmem (halert.readers hadmits)
    | awaitingWrite woken =>
        have hclaimant := mem_roles_claimant.mpr ⟨woken, hmem⟩
        have hpos := List.count_pos_iff.mpr hclaimant
        rw [← Tally.claimants htallied, hnone] at hpos
        exact absurd hpos (Nat.lt_irrefl 0)
  · exact .inl (halert.writers (htallied.admitsWriter hvacant) hsome)

/-- A thread that stands where it stood with another role has come to it. -/
theorem gains_of_set {lock next : SharedLock} {i : Nat} {before : Stance}
    (hi : lock.threads[i]? = some before) (after : Stance)
    (hthreads : next.threads = lock.threads.set i after)
    (hrole : before.role ≠ after.role) : lock.Gains next i after.role := by
  constructor
  · apply roles_getElem?
    rw [hthreads, List.getElem?_set_self (List.getElem?_eq_some_iff.mp hi).1]
  · rw [roles_getElem? hi]
    exact fun heq => hrole (Option.some.inj heq)

theorem exists_retest_write {lock : SharedLock}
    (hadmits : lock.admitsWriter = true)
    (hmem : .awaitingWrite true ∈ lock.threads) :
    ∃ i next, lock.step? (.retest i) = some next ∧
      lock.Gains next i .writer := by
  obtain ⟨i, hi⟩ := List.getElem?_of_mem hmem
  have hstep : lock.step? (.retest i) = some { lock.place i .writing with
      writer := true, waitingWriters := lock.waitingWriters - 1 } := by
    simp only [step?, hi, SharedLock.enterWaiting, hadmits, if_true]
  exact ⟨i, _, hstep, gains_of_set hi .writing rfl (by decide)⟩

theorem exists_retest_read {lock : SharedLock}
    (hadmits : lock.admitsReader = true)
    (hmem : .awaitingRead true ∈ lock.threads) :
    ∃ i next, lock.step? (.retest i) = some next ∧
      lock.Gains next i .reader := by
  obtain ⟨i, hi⟩ := List.getElem?_of_mem hmem
  have hstep : lock.step? (.retest i) = some { lock.place i .reading with
      readers := lock.readers + 1 } := by
    simp only [step?, hi, SharedLock.enterRead, hadmits, if_true]
  exact ⟨i, _, hstep, gains_of_set hi .reading rfl (by decide)⟩

/-- However the threads of a lock interleave, no wake-up is lost: whenever the
lock would let in somebody of those who wait for it, not all of them are
parked, and one that is not is let in as soon as it tests again. -/
theorem run_rousing {threads : Nat} {events : List LockEvent}
    {lock : SharedLock} (h : (unused threads).run? events = some lock) :
    lock.Rousing := by
  obtain ⟨htallied, halert⟩ :=
    alert_of_run? (tallied_unused threads) (alert_unused threads) h
  constructor
  case writers =>
      exact fun hvacant => halert.writers (htallied.admitsWriter hvacant)
  case readers =>
      intro hwriting hnone
      exact halert.readers
        (admitsReader_iff.mpr ⟨htallied.writer_eq_false hwriting, hnone⟩)
  case unstuck =>
      rintro ⟨hvacant, hwaits, hparked⟩
      rcases halert.exists_woken htallied hvacant hwaits with hmem | ⟨-, hmem⟩
      · cases hparked _ hmem rfl
      · cases hparked _ hmem rfl
  case entering =>
      intro hvacant hwaits
      rcases halert.exists_woken htallied hvacant hwaits with
        hmem | ⟨hadmits, hmem⟩
      · obtain ⟨i, next, hstep, hgains⟩ :=
          exists_retest_write (htallied.admitsWriter hvacant) hmem
        exact ⟨i, next, hstep, .inr hgains⟩
      · obtain ⟨i, next, hstep, hgains⟩ := exists_retest_read hadmits hmem
        exact ⟨i, next, hstep, .inl hgains⟩

/-- A writer was woken twice, since another overtook it the first time. It is
awake now, and a reader is parked behind it. -/
theorem overtaking_rousing :
    let lock : SharedLock := ⟨0, false, 1,
      [.outside, .awaitingWrite true, .awaitingRead false, .outside]⟩
    (unused 4).run? (overtaking.take 8) = some lock ∧ lock.Rousing ∧
      lock.Vacant ∧ .awaitingWrite true ∈ lock.threads := by
  intro lock
  have hrun : (unused 4).run? (overtaking.take 8) = some lock := by decide
  have hrousing := run_rousing hrun
  have hvacant : lock.Vacant := ⟨by decide, by decide⟩
  exact ⟨hrun, hrousing, hvacant, hrousing.writers hvacant (by decide)⟩

end SharedLock

end Concordance
