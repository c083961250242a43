import Mathlib.Data.List.Perm.Basic
import Concordance.Lock.Basic
import Concordance.Proofs.EventRuns

/-!
# Who is in, and who waits to write

The lock keeps three numbers and never looks at its threads; the threads park,
are woken, test again and park once more. For what the numbers mean only the
role of a thread counts: it reads, it writes, it has called to write and is
not in, or none of these. Parking and waking leave all roles as they are, so
of the many things an event can do seven are left, and `SharedLock.Step` lists
them.

The invariant is that the numbers are those of the roles, and that nobody
reads beside a writer. From it comes what the waiting writers are there for:
while a thread has called to write and is not in, no reader is let in, however
many other writers come and go and however often parked threads test again.
-/

namespace Concordance

/-- What a thread is to the other threads of a lock. -/
inductive Role where
  | idle
  | reader
  | writer
  /-- Has called to write and is not in. -/
  | claimant
deriving DecidableEq, Repr

/-- A thread that waits to read is nothing to the others. -/
def Stance.role : Stance → Role
  | outside | awaitingRead _ => .idle
  | reading => .reader
  | writing => .writer
  | awaitingWrite _ => .claimant

namespace SharedLock

/-- The roles of all threads, in their order. -/
def roles (lock : SharedLock) : List Role := lock.threads.map Stance.role

theorem roles_place (lock : SharedLock) (i : Nat) (stance : Stance) :
    (lock.place i stance).roles = lock.roles.set i stance.role :=
  List.map_set

theorem roles_getElem? {lock : SharedLock} {i : Nat} {stance : Stance}
    (hi : lock.threads[i]? = some stance) :
    lock.roles[i]? = some stance.role := by
  rw [roles, List.getElem?_map, hi, Option.map_some]

/-- A thread that parks, or fails to get in, or is woken. -/
theorem roles_place_same {lock : SharedLock} {i : Nat} {before after : Stance}
    (hi : lock.threads[i]? = some before) (hrole : after.role = before.role) :
    (lock.place i after).roles = lock.roles := by
  obtain ⟨hlt, hget⟩ := List.getElem?_eq_some_iff.mp (roles_getElem? hi)
  rw [roles_place, hrole, ← hget]
  exact List.set_getElem_self hlt

/-- The lock with other threads that have the same roles. -/
def SameRoles (lock next : SharedLock) : Prop :=
  ∃ threads, next = { lock with threads } ∧ next.roles = lock.roles

theorem sameRoles_of_wakeWriter? {lock next : SharedLock} {woken? : Option Nat}
    (h : lock.wakeWriter? woken? = some next) : lock.SameRoles next := by
  unfold wakeWriter? at h
  split at h
  · split at h
    · cases h
    · cases h
      exact ⟨lock.threads, rfl, rfl⟩
  · next i =>
      split at h
      · next hi =>
          cases h
          exact ⟨_, rfl, roles_place_same hi rfl⟩
      · cases h

theorem sameRoles_wakeReaders (lock : SharedLock) :
    lock.SameRoles lock.wakeReaders := by
  refine ⟨_, rfl, ?_⟩
  rw [roles, roles, wakeReaders, List.map_map]
  apply List.map_congr_left
  intro stance _
  show (if stance = .awaitingRead false then Stance.awaitingRead true
    else stance).role = stance.role
  split
  · next h => rw [h]; rfl
  · rfl

/-! ## The steps of a lock -/

/-- What an event can do to the roles of the threads and to what the lock
counts. -/
inductive Step (lock : SharedLock) : SharedLock → Prop where
  /-- Nobody changes its role. -/
  | stay {threads : List Stance}
      (hroles : threads.map Stance.role = lock.roles) :
      Step lock { lock with threads }
  | read {threads : List Stance} {i : Nat}
      (hi : lock.roles[i]? = some .idle) (hadmits : lock.admitsReader = true)
      (hroles : threads.map Stance.role = lock.roles.set i .reader) :
      Step lock { lock with threads, readers := lock.readers + 1 }
  | write {threads : List Stance} {i : Nat}
      (hi : lock.roles[i]? = some .idle) (hadmits : lock.admitsWriter = true)
      (hroles : threads.map Stance.role = lock.roles.set i .writer) :
      Step lock { lock with threads, writer := true }
  | call {threads : List Stance} {i : Nat}
      (hi : lock.roles[i]? = some .idle)
      (hroles : threads.map Stance.role = lock.roles.set i .claimant) :
      Step lock { lock with threads, waitingWriters := lock.waitingWriters + 1 }
  | claim {threads : List Stance} {i : Nat}
      (hi : lock.roles[i]? = some .claimant)
      (hadmits : lock.admitsWriter = true)
      (hroles : threads.map Stance.role = lock.roles.set i .writer) :
      Step lock { lock with
        threads, writer := true, waitingWriters := lock.waitingWriters - 1 }
  | leaveRead {threads : List Stance} {i : Nat}
      (hi : lock.roles[i]? = some .reader)
      (hroles : threads.map Stance.role = lock.roles.set i .idle) :
      Step lock { lock with threads, readers := lock.readers - 1 }
  | leaveWrite {threads : List Stance} {i : Nat}
      (hi : lock.roles[i]? = some .writer)
      (hroles : threads.map Stance.role = lock.roles.set i .idle) :
      Step lock { lock with threads, writer := false }

theorem step_place {lock : SharedLock} {i : Nat} {before after : Stance}
    (hi : lock.threads[i]? = some before) (hrole : after.role = before.role) :
    Step lock (lock.place i after) :=
  .stay (roles_place_same hi hrole)

theorem step_enterRead {lock : SharedLock} {i : Nat} {before otherwise : Stance}
    (hi : lock.threads[i]? = some before) (hbefore : before.role = .idle)
    (hrole : otherwise.role = .idle) :
    Step lock (lock.enterRead i otherwise) := by
  unfold enterRead
  split
  · next hadmits =>
      exact .read (hbefore ▸ roles_getElem? hi) hadmits (roles_place lock i _)
  · exact step_place hi (hrole.trans hbefore.symm)

theorem step_enterWrite {lock : SharedLock} {i : Nat}
    (hi : lock.threads[i]? = some .outside) :
    Step lock (lock.enterWrite i .outside) := by
  unfold enterWrite
  split
  · next hadmits =>
      exact .write (roles_getElem? hi) hadmits (roles_place lock i _)
  · exact step_place hi rfl

/-- A thread that calls to write is counted, and if it need not wait it is not
counted any more when the call is over. -/
theorem step_call {lock : SharedLock} {i : Nat}
    (hi : lock.threads[i]? = some .outside) :
    Step lock (enterWaiting
      { lock with waitingWriters := lock.waitingWriters + 1 } i) := by
  unfold enterWaiting
  split
  · next hadmits =>
      exact .write (roles_getElem? hi) hadmits (roles_place lock i _)
  · exact .call (roles_getElem? hi) (roles_place lock i _)

theorem step_enterWaiting {lock : SharedLock} {i : Nat}
    (hi : lock.threads[i]? = some (.awaitingWrite true)) :
    Step lock (lock.enterWaiting i) := by
  unfold enterWaiting
  split
  · next hadmits =>
      exact .claim (roles_getElem? hi) hadmits (roles_place lock i _)
  · exact step_place hi rfl

theorem step_leaveRead {lock next : SharedLock} {i : Nat} {woken? : Option Nat}
    (hi : lock.threads[i]? = some .reading)
    (h : lock.leaveRead? i woken? = some next) : Step lock next := by
  have hplace := roles_place lock i .outside
  simp only [leaveRead?] at h
  split at h
  · obtain ⟨threads, rfl, hroles⟩ := sameRoles_of_wakeWriter? h
    exact .leaveRead (roles_getElem? hi) (hroles.trans hplace)
  · split at h
    · cases h
    · cases h
      exact .leaveRead (roles_getElem? hi) hplace

theorem step_leaveWrite {lock next : SharedLock} {i : Nat} {woken? : Option Nat}
    (hi : lock.threads[i]? = some .writing)
    (h : lock.leaveWrite? i woken? = some next) : Step lock next := by
  have hplace := roles_place lock i .outside
  simp only [leaveWrite?] at h
  split at h
  · obtain ⟨threads, rfl, hroles⟩ := sameRoles_of_wakeWriter? h
    exact .leaveWrite (roles_getElem? hi) (hroles.trans hplace)
  · split at h
    · cases h
    · obtain ⟨threads, hthreads, hroles⟩ := sameRoles_wakeReaders
        { lock.place i .outside with writer := false }
      cases h
      rw [hthreads] at hroles ⊢
      exact .leaveWrite (roles_getElem? hi) (hroles.trans hplace)

/-- Whatever an event makes of a lock, it is one of the listed cases. -/
theorem step_of_step? {lock next : SharedLock} {event : LockEvent}
    (h : lock.step? event = some next) : Step lock next := by
  cases event with
  | read i =>
      simp only [step?] at h
      split at h
      · next hi => cases h; exact step_enterRead hi rfl rfl
      · cases h
  | tryRead i =>
      simp only [step?] at h
      split at h
      · next hi => cases h; exact step_enterRead hi rfl rfl
      · cases h
  | write i =>
      simp only [step?] at h
      split at h
      · next hi => cases h; exact step_call hi
      · cases h
  | tryWrite i =>
      simp only [step?] at h
      split at h
      · next hi => cases h; exact step_enterWrite hi
      · cases h
  | retest i =>
      simp only [step?] at h
      split at h
      · next hi => cases h; exact step_enterRead hi rfl rfl
      · next hi => cases h; exact step_enterWaiting hi
      · cases h
  | release i woken? =>
      simp only [step?] at h
      split at h
      · next hi => exact step_leaveRead hi h
      · next hi => exact step_leaveWrite hi h
      · cases h

/-! ## What every step keeps -/

/-- What a lock counts are its threads in each role, and nobody reads beside a
writer. -/
structure Tally (reading : Nat) (isWriting : Bool) (waiting : Nat)
    (roles : List Role) : Prop where
  readers : reading = roles.count .reader
  writer : isWriting.toNat = roles.count .writer
  claimants : waiting = roles.count .claimant
  alone : isWriting = true → reading = 0

/-- The numbers of the lock are those of its threads. -/
def Tallied (lock : SharedLock) : Prop :=
  Tally lock.readers lock.writer lock.waitingWriters lock.roles

theorem tallied_unused (threads : Nat) : (unused threads).Tallied := by
  have hroles : (unused threads).roles = .replicate threads .idle :=
    List.map_replicate
  have hcount : ∀ role, role ≠ .idle →
      (unused threads).roles.count role = 0 := by
    intro role hrole
    rw [hroles, List.count_replicate, if_neg]
    exact fun heq => hrole (beq_iff_eq.mp heq).symm
  constructor
  · exact (hcount .reader (by decide)).symm
  · exact (hcount .writer (by decide)).symm
  · exact (hcount .claimant (by decide)).symm
  · intro hwriter
    cases hwriter

/-- One thread leaves a role for another. -/
theorem count_set_add {roles : List Role} {i : Nat} {before : Role}
    (hi : roles[i]? = some before) (after role : Role) :
    (roles.set i after).count role + (if before = role then 1 else 0) =
      roles.count role + (if after = role then 1 else 0) := by
  obtain ⟨hlt, rfl⟩ := List.getElem?_eq_some_iff.mp hi
  have hpos : roles[i] = role → 0 < roles.count role := by
    rintro rfl
    exact List.count_pos_iff.mpr (List.getElem_mem hlt)
  rw [List.count_set hlt]
  simp only [beq_iff_eq]
  split
  · next h => have := hpos h; omega
  · omega

theorem admitsReader_iff {lock : SharedLock} :
    lock.admitsReader = true ↔
      lock.writer = false ∧ lock.waitingWriters = 0 := by
  simp [admitsReader]

theorem admitsWriter_iff {lock : SharedLock} :
    lock.admitsWriter = true ↔ lock.writer = false ∧ lock.readers = 0 := by
  simp [admitsWriter]

theorem tallied_of_step {lock next : SharedLock} (h : Step lock next)
    (htallied : lock.Tallied) : next.Tallied := by
  obtain ⟨hreaders, hwriter, hwaiting, halone⟩ := htallied
  -- What each role gains and loses when one thread changes its own.
  have hcount : ∀ {i : Nat} {before : Role}, lock.roles[i]? = some before →
      ∀ after,
        (lock.roles.set i after).count .reader +
            (if before = .reader then 1 else 0) =
          lock.roles.count .reader + (if after = .reader then 1 else 0) ∧
        (lock.roles.set i after).count .writer +
            (if before = .writer then 1 else 0) =
          lock.roles.count .writer + (if after = .writer then 1 else 0) ∧
        (lock.roles.set i after).count .claimant +
            (if before = .claimant then 1 else 0) =
          lock.roles.count .claimant + (if after = .claimant then 1 else 0) :=
    fun hi after => ⟨count_set_add hi after .reader,
      count_set_add hi after .writer, count_set_add hi after .claimant⟩
  cases h with
  | @stay threads hroles =>
      show Tally lock.readers lock.writer lock.waitingWriters
        (threads.map Stance.role)
      rw [hroles]
      exact ⟨hreaders, hwriter, hwaiting, halone⟩
  | @read threads i hi hadmits hroles =>
      show Tally (lock.readers + 1) lock.writer lock.waitingWriters
        (threads.map Stance.role)
      obtain ⟨hopen, hnone⟩ := admitsReader_iff.mp hadmits
      have h := hcount hi .reader
      simp only [reduceCtorEq, if_true, if_false] at h
      rw [hroles]
      refine ⟨by omega, by omega, by omega, ?_⟩
      intro hwriting
      rw [hopen] at hwriting
      cases hwriting
  | @write threads i hi hadmits hroles =>
      show Tally lock.readers true lock.waitingWriters
        (threads.map Stance.role)
      obtain ⟨hopen, hnone⟩ := admitsWriter_iff.mp hadmits
      have h := hcount hi .writer
      simp only [reduceCtorEq, if_true, if_false] at h
      rw [hopen, Bool.toNat_false] at hwriter
      rw [hroles]
      refine ⟨by omega, ?_, by omega, fun _ => hnone⟩
      rw [Bool.toNat_true]
      omega
  | @call threads i hi hroles =>
      show Tally lock.readers lock.writer (lock.waitingWriters + 1)
        (threads.map Stance.role)
      have h := hcount hi .claimant
      simp only [reduceCtorEq, if_true, if_false] at h
      rw [hroles]
      exact ⟨by omega, by omega, by omega, halone⟩
  | @claim threads i hi hadmits hroles =>
      show Tally lock.readers true (lock.waitingWriters - 1)
        (threads.map Stance.role)
      obtain ⟨hopen, hnone⟩ := admitsWriter_iff.mp hadmits
      have h := hcount hi .writer
      simp only [reduceCtorEq, if_true, if_false] at h
      rw [hopen, Bool.toNat_false] at hwriter
      rw [hroles]
      refine ⟨by omega, ?_, by omega, fun _ => hnone⟩
      rw [Bool.toNat_true]
      omega
  | @leaveRead threads i hi hroles =>
      show Tally (lock.readers - 1) lock.writer lock.waitingWriters
        (threads.map Stance.role)
      have h := hcount hi .idle
      simp only [reduceCtorEq, if_true, if_false] at h
      rw [hroles]
      refine ⟨by omega, by omega, by omega, ?_⟩
      intro hwriting
      rw [halone hwriting]
  | @leaveWrite threads i hi hroles =>
      show Tally lock.readers false lock.waitingWriters
        (threads.map Stance.role)
      have h := hcount hi .idle
      simp only [reduceCtorEq, if_true, if_false] at h
      have hone : lock.writer.toNat ≤ 1 := Bool.toNat_le _
      rw [hroles]
      refine ⟨by omega, ?_, by omega, ?_⟩
      · rw [Bool.toNat_false]
        omega
      · intro hwriting
        cases hwriting

theorem tallied_of_run? {lock last : SharedLock} {events : List LockEvent}
    (htallied : lock.Tallied) (h : lock.run? events = some last) :
    last.Tallied :=
  run_keeps Tallied
    (fun _ htallied hstep => tallied_of_step (step_of_step? hstep) htallied)
    htallied h

/-! ## What the numbers say -/

/-- The numbers of a lock and what it answers are true of its threads, and a
thread that writes is in alone. -/
structure Truthful (lock : SharedLock) : Prop where
  readers : lock.readers = lock.roles.count .reader
  writer : lock.writer = true ↔ lock.roles.count .writer = 1
  waiting : lock.waitingWriters = lock.roles.count .claimant
  exclusive : ∀ i : Nat, lock.roles[i]? = some .writer → ∀ j : Nat,
    lock.roles[j]? = some .reader ∨ lock.roles[j]? = some .writer → j = i
  /-- A reader that lets go finds itself counted. -/
  counted : ∀ i : Nat, lock.roles[i]? = some .reader → 0 < lock.readers
  /-- And so does a thread that waits to write, when it is let in. -/
  awaited : ∀ i : Nat, lock.roles[i]? = some .claimant →
    0 < lock.waitingWriters
  isLocked : lock.isLocked = true ↔
    ∃ i : Nat, lock.roles[i]? = some .reader ∨ lock.roles[i]? = some .writer
  isLockedExclusive : lock.isLockedExclusive = true ↔
    ∃ i : Nat, lock.roles[i]? = some .writer

theorem count_pos_iff {roles : List Role} {role : Role} :
    0 < roles.count role ↔ ∃ i : Nat, roles[i]? = some role := by
  rw [List.count_pos_iff, List.mem_iff_getElem?]

/-- A role that one thread has is the role of that thread only. -/
theorem eq_of_count_eq_one {roles : List Role} {role : Role} {i j : Nat}
    (hone : roles.count role = 1) (hi : roles[i]? = some role)
    (hj : roles[j]? = some role) : j = i := by
  by_contra hne
  obtain ⟨hlt, hget⟩ := List.getElem?_eq_some_iff.mp hi
  have hmem : role ∈ roles.eraseIdx i :=
    List.mem_eraseIdx_iff_getElem?.mpr ⟨j, hne, hj⟩
  have hperm := (List.getElem_cons_eraseIdx_perm hlt).count_eq role
  rw [hget, List.count_cons_self, hone] at hperm
  have hpos := List.count_pos_iff.mpr hmem
  omega

theorem Tallied.truthful {lock : SharedLock} (h : lock.Tallied) :
    lock.Truthful := by
  obtain ⟨hreaders, hwriter, hwaiting, halone⟩ := h
  have hwriting : lock.writer = true ↔ lock.roles.count .writer = 1 := by
    rw [← hwriter]
    cases lock.writer <;> decide
  have hone : lock.roles.count .writer ≤ 1 := hwriter ▸ Bool.toNat_le _
  have hexists : lock.writer = true ↔
      ∃ i : Nat, lock.roles[i]? = some .writer := by
    rw [hwriting, ← count_pos_iff]
    omega
  constructor
  case readers => exact hreaders
  case writer => exact hwriting
  case waiting => exact hwaiting
  case exclusive =>
      intro i hi j hj
      have hin := hexists.mpr ⟨i, hi⟩
      rcases hj with hj | hj
      · have hpos := count_pos_iff.mpr ⟨j, hj⟩
        rw [← hreaders, halone hin] at hpos
        exact absurd hpos (Nat.lt_irrefl 0)
      · exact eq_of_count_eq_one (hwriting.mp hin) hi hj
  case counted =>
      intro i hi
      rw [hreaders]
      exact count_pos_iff.mpr ⟨i, hi⟩
  case awaited =>
      intro i hi
      rw [hwaiting]
      exact count_pos_iff.mpr ⟨i, hi⟩
  case isLocked =>
      rw [isLocked, Bool.or_eq_true, decide_eq_true_eq, hexists, hreaders,
        gt_iff_lt, count_pos_iff, or_comm, exists_or]
  case isLockedExclusive => exact hexists

/-! ## While a thread waits to write -/

/-- A thread has come to a role. -/
def Gains (lock next : SharedLock) (i : Nat) (role : Role) : Prop :=
  next.roles[i]? = some role ∧ lock.roles[i]? ≠ some role

/-- Along the events nobody is let in to read before the thread named is let in
to write. -/
def ShutsOutReaders (lock : SharedLock) (claimant : Nat) :
    List LockEvent → Prop
  | [] => True
  | event :: events => ∀ next, lock.step? event = some next →
      (∀ j, ¬lock.Gains next j .reader) ∧
        (lock.Gains next claimant .writer ∨
          next.ShutsOutReaders claimant events)

/-- A role that a list did not have at a place before it changed is the new
one. -/
theorem eq_of_getElem?_set {roles later : List Role} {i j : Nat}
    {role gained : Role} (hlater : later = roles.set i role)
    (hj : later[j]? = some gained) (hbefore : roles[j]? ≠ some gained) :
    gained = role := by
  rw [hlater, List.getElem?_set] at hj
  split at hj
  · split at hj
    · exact (Option.some.inj hj).symm
    · cases hj
  · exact absurd hj hbefore

/-- A role that is not the one to change stays as it is. -/
theorem getElem?_set_of_ne {roles later : List Role} {i j : Nat}
    {before held role : Role} (hlater : later = roles.set i role)
    (hi : roles[i]? = some before) (hj : roles[j]? = some held)
    (hne : before ≠ held) : later[j]? = some held := by
  have hij : i ≠ j := by
    rintro rfl
    exact hne (Option.some.inj (hi.symm.trans hj))
  rw [hlater, List.getElem?_set_ne hij, hj]

theorem admitsReader_of_gains {lock next : SharedLock} {j : Nat}
    (h : Step lock next) (hgains : lock.Gains next j .reader) :
    lock.admitsReader = true := by
  cases h with
  | read hi hadmits hroles => exact hadmits
  | stay hroles => exact absurd (hroles ▸ hgains.1) hgains.2
  | write hi hadmits hroles => cases eq_of_getElem?_set hroles hgains.1 hgains.2
  | call hi hroles => cases eq_of_getElem?_set hroles hgains.1 hgains.2
  | claim hi hadmits hroles => cases eq_of_getElem?_set hroles hgains.1 hgains.2
  | leaveRead hi hroles => cases eq_of_getElem?_set hroles hgains.1 hgains.2
  | leaveWrite hi hroles => cases eq_of_getElem?_set hroles hgains.1 hgains.2

/-- A thread that waits to write goes on waiting or is let in. -/
theorem claimant_of_step {lock next : SharedLock} {i : Nat} (h : Step lock next)
    (hi : lock.roles[i]? = some .claimant) :
    next.roles[i]? = some .claimant ∨ lock.Gains next i .writer := by
  cases h with
  | @stay threads hroles =>
      left
      show (threads.map Stance.role)[i]? = some .claimant
      rw [hroles, hi]
  | read hj hadmits hroles =>
      exact .inl (getElem?_set_of_ne hroles hj hi (by decide))
  | write hj hadmits hroles =>
      exact .inl (getElem?_set_of_ne hroles hj hi (by decide))
  | call hj hroles =>
      exact .inl (getElem?_set_of_ne hroles hj hi (by decide))
  | leaveRead hj hroles =>
      exact .inl (getElem?_set_of_ne hroles hj hi (by decide))
  | leaveWrite hj hroles =>
      exact .inl (getElem?_set_of_ne hroles hj hi (by decide))
  | @claim threads j hj hadmits hroles =>
      by_cases hij : j = i
      · subst hij
        right
        constructor
        · show (threads.map Stance.role)[j]? = some .writer
          rw [hroles,
            List.getElem?_set_self (List.getElem?_eq_some_iff.mp hj).1]
        · rw [hi]
          decide
      · left
        show (threads.map Stance.role)[i]? = some .claimant
        rw [hroles, List.getElem?_set_ne hij, hi]

theorem shutsOutReaders {claimant : Nat} (events : List LockEvent) :
    ∀ {lock : SharedLock}, lock.Tallied →
      lock.roles[claimant]? = some .claimant →
        lock.ShutsOutReaders claimant events := by
  induction events with
  | nil => exact fun _ _ => trivial
  | cons event events ih =>
      intro lock htallied hclaimant next hnext
      have hstep := step_of_step? hnext
      constructor
      · intro j hgains
        have hwaiting := htallied.truthful.awaited claimant hclaimant
        have hadmits := admitsReader_of_gains hstep hgains
        rw [(admitsReader_iff.mp hadmits).2] at hwaiting
        exact Nat.lt_irrefl 0 hwaiting
      · rcases claimant_of_step hstep hclaimant with hstill | hgains
        · exact .inr (ih (tallied_of_step hstep htallied) hstill)
        · exact .inl hgains

/-- However the threads of a lock interleave, its numbers and its answers are
true of them and who writes is in alone; and from the moment a thread waits to
write, nobody is let in to read before that thread was let in, not even when
other writers are let in meanwhile. -/
theorem run_truthful {threads : Nat} {events : List LockEvent}
    {lock : SharedLock} (h : (unused threads).run? events = some lock) :
    lock.Truthful ∧
      ∀ before event after mid next claimant,
        events = before ++ event :: after →
        (unused threads).run? before = some mid →
        mid.step? event = some next →
        mid.Gains next claimant .claimant →
          next.ShutsOutReaders claimant after := by
  constructor
  · exact (tallied_of_run? (tallied_unused threads) h).truthful
  · intro before event after mid next claimant _ hbefore hstep hgains
    have hmid := tallied_of_run? (tallied_unused threads) hbefore
    exact shutsOutReaders after
      (tallied_of_step (step_of_step? hstep) hmid) hgains.1

/-- A writer waits for a reader, and so a second reader has to queue behind it.
When the first lets go, a writer that does not wait overtakes the one that was
woken, which is let in only then, and after it the second reader. -/
def overtaking : List LockEvent :=
  [.read 0, .write 1, .tryRead 2, .read 2, .release 0 (some 1), .tryWrite 3,
    .retest 1, .release 3 (some 1), .retest 1, .release 1 none, .retest 2]

theorem overtaking_truthful :
    let mid : SharedLock :=
      ⟨1, false, 0, [.reading, .outside, .outside, .outside]⟩
    let next : SharedLock :=
      ⟨1, false, 1, [.reading, .awaitingWrite false, .outside, .outside]⟩
    let last : SharedLock :=
      ⟨1, false, 0, [.outside, .outside, .reading, .outside]⟩
    (unused 4).run? overtaking = some last ∧ last.Truthful ∧
      (unused 4).run? (overtaking.take 1) = some mid ∧
      mid.step? (.write 1) = some next ∧ mid.Gains next 1 .claimant ∧
      next.ShutsOutReaders 1 (overtaking.drop 2) := by
  intro mid next last
  have hrun : (unused 4).run? overtaking = some last := by decide
  have hmid : (unused 4).run? (overtaking.take 1) = some mid := by decide
  have hnext : mid.step? (.write 1) = some next := by decide
  have hgains : mid.Gains next 1 .claimant := ⟨by decide, by decide⟩
  obtain ⟨htruthful, hshut⟩ := run_truthful hrun
  exact ⟨hrun, htruthful, hmid, hnext, hgains,
    hshut _ _ _ mid next 1 rfl hmid hnext hgains⟩

end SharedLock

end Concordance
