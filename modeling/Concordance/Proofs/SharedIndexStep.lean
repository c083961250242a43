import Concordance.Index.Shared
import Concordance.Proofs.LockRoles
import Concordance.Proofs.SortedMerge

/-!
# What one step does to a shared index

A change under way has two descriptions: what it has made of the index so far,
and what is left of it. Put together they are always the whole change: doing
what is left in one go gives the same index before and after each step
(`finish_of_step?`). It is the same with an inquiry on an index that stays as it
is, where what was told and what will be told are all the answers.

The lock says who may take steps. Of an event of one thread it moves that thread
and at most wakes others, and whom it lets in is alone with its kind
(`Turn`).
-/

namespace Concordance

/-! ## Changes -/

namespace Change

/-- Takes in where a term that the index has occurs, at some locations. -/
def joinLocations (index : Index) (term : Term)
    (entries : List (Location × SortedSet Nat)) : Index :=
  entries.foldl (fun index entry => joinLocation index term entry.1 entry.2)
    index

/-- Takes in postings and totals in one go. -/
def takeIn (index : Index) (entries : List (Term × Occurrences))
    (totals : List (Location × UInt64)) : Index where
  postings := entries.foldl (fun map (term, occurrences) =>
    map.update term fun old => old.elim occurrences
      (SortedMap.merge SortedSet.union · occurrences)) index.postings
  totals := totals.foldl (fun map (location, total) =>
    map.update location fun old => old.elim total (· + total)) index.totals

/-- What an index will be when the rest of a change is done. -/
def Rest.finish (index : Index) : Rest → Index
  | tokens terms location position => index.addAll terms location position
  | postings entries totals => takeIn index entries totals
  | locations term others entries totals =>
    takeIn (joinLocations index term others) entries totals

/-- What is left at first is all of the change. -/
theorem finish_start (index : Index) (change : Change) :
    change.start.finish index = change.apply index := by
  cases change with
  | add => rfl
  | addAll => rfl
  | merge => rfl

/-- Postings of a term that the index has are joined location by location. -/
theorem joinLocations_eq {term : Term}
    (entries : List (Location × SortedSet Nat)) : ∀ {index : Index},
    index.postings.contains term = true →
      joinLocations index term entries =
        { index with
          postings := index.postings.update term fun mine =>
            entries.foldl (fun map (location, positions) =>
              map.update location fun old =>
                old.elim positions (SortedSet.union · positions))
              (mine.getD .empty) } := by
  induction entries with
  | nil =>
      intro index hterm
      obtain ⟨mine, hmine⟩ := Option.isSome_iff_exists.mp hterm
      refine congrArg (Index.mk · index.totals) (Eq.symm ?_)
      apply SortedMap.update_eq_self
      rw [hmine]
      rfl
  | cons entry entries ih =>
      intro index hterm
      have hafter : (joinLocation index term entry.1 entry.2).postings.contains
          term = true :=
        (SortedMap.contains_update _ _ _ _).mpr (.inl rfl)
      refine (ih hafter).trans (congrArg (Index.mk · index.totals) ?_)
      exact SortedMap.update_update _ _ _ _

theorem takeIn_vacant {index : Index} {term : Term} {occurrences : Occurrences}
    (h : index.postings.contains term = false)
    (entries : List (Term × Occurrences)) (totals : List (Location × UInt64)) :
    takeIn { index with postings := index.postings.insert term occurrences }
        entries totals =
      takeIn index ((term, occurrences) :: entries) totals := by
  have hnone : index.postings.get? term = none :=
    Option.not_isSome_iff_eq_none.mp (Bool.eq_false_iff.mp h)
  have hinsert : index.postings.insert term occurrences =
      index.postings.update term fun old => old.elim occurrences
        (SortedMap.merge SortedSet.union · occurrences) :=
    SortedMap.update_congr (by rw [hnone]; rfl)
  exact congrArg (fun postings => takeIn { index with postings } entries totals)
    hinsert

theorem takeIn_occupied {index : Index} {term : Term}
    {occurrences : Occurrences} (h : index.postings.contains term = true)
    (entries : List (Term × Occurrences)) (totals : List (Location × UInt64)) :
    takeIn (joinLocations index term occurrences.entries) entries totals =
      takeIn index ((term, occurrences) :: entries) totals := by
  obtain ⟨mine, hmine⟩ := Option.isSome_iff_exists.mp h
  have hjoin : index.postings.update term (fun mine =>
      SortedMap.merge SortedSet.union (mine.getD .empty) occurrences) =
      index.postings.update term fun old => old.elim occurrences
        (SortedMap.merge SortedSet.union · occurrences) :=
    SortedMap.update_congr (by rw [hmine]; rfl)
  rw [joinLocations_eq _ h]
  exact congrArg (fun postings => takeIn { index with postings } entries totals)
    hjoin

/-- A step and then the rest are what was left before. -/
theorem finish_of_step? {index after : Index} {rest left : Rest}
    (h : rest.step? index = some (after, left)) :
    left.finish after = rest.finish index := by
  unfold Rest.step? at h
  split at h
  · cases h
  · cases h
    rfl
  · cases h
  · next location total totals =>
      cases h
      have hadd : index.totals.update location (fun mine =>
          mine.getD 0 + total) = index.totals.update location fun old =>
            old.elim total (· + total) := by
        apply SortedMap.update_congr
        cases index.totals.get? location with
        | none => exact UInt64.zero_add total
        | some mine => rfl
      exact congrArg (fun later => takeIn { index with totals := later } []
        totals) hadd
  · next term occurrences entries totals =>
      split at h
      · next hterm =>
          cases h
          exact takeIn_occupied hterm entries totals
      · next hterm =>
          cases h
          exact takeIn_vacant (Bool.eq_false_iff.mpr hterm) entries totals
  · cases h
    rfl
  · cases h
    rfl

/-- A change with no step left is done. -/
theorem finish_of_over {index : Index} {rest : Rest}
    (h : rest.step? index = none) : rest.finish index = index := by
  unfold Rest.step? at h
  split at h
  · rfl
  · cases h
  · rfl
  · cases h
  · split at h <;> cases h
  · cases h
  · cases h

end Change

/-! ## Inquiries -/

namespace Inquiry

theorem answers_ranking (index : Index) (rest : Answer → Inquiry)
    (found : List (Location × Nat)) : ∀ hits : List Hit,
    (ranking found hits rest).answers index =
      let answer := Answer.hits (Hit.ranked (hits.reverse ++
        found.map fun (location, count) => index.hit location count))
      answer :: (rest answer).answers index := by
  induction found with
  | nil =>
      intro hits
      rw [List.map_nil, List.append_nil]
      rfl
  | cons entry found ih =>
      intro hits
      refine (ih (index.hit entry.1 entry.2 :: hits)).trans ?_
      rw [List.reverse_cons, List.append_assoc]
      rfl

theorem answers_searching (index : Index) (mode : Mode)
    (rest : Answer → Inquiry) (terms : List Term) : ∀ found : Index.Matches,
    (searching mode terms found rest).answers index =
      let all := terms.foldl (fun found term =>
        (index.matching mode term).foldl
          (fun found entry => Index.addMatches found entry.2) found) found
      let answer := Answer.hits (Hit.ranked (all.entries.map
        fun (location, count) => index.hit location count))
      answer :: (rest answer).answers index := by
  induction terms with
  | nil => exact fun found => answers_ranking index rest found.entries []
  | cons term terms ih => exact fun found => ih _

theorem answers_describing (index : Index)
    (part : Index → String → Json.Document) (rest : Answer → Inquiry)
    (keys : List String) :
    ∀ members : List (String × Json.Document),
      (describing part keys members rest).answers index =
        let answer := Answer.text (Json.Document.object (members.reverse ++
          keys.map fun key => (key, part index key))).pretty
        answer :: (rest answer).answers index := by
  induction keys with
  | nil =>
      intro members
      rw [List.map_nil, List.append_nil]
      rfl
  | cons key keys ih =>
      intro members
      refine (ih ((key, part index key) :: members)).trans ?_
      rw [List.reverse_cons, List.append_assoc]
      rfl

/-- What is found under the keys of a map one by one is what its entries
are. -/
theorem map_keys_eq {β : Type} (map : SortedMap String β)
    (part : String → Json.Document) (document : β → Json.Document)
    (h : ∀ key value, map.get? key = some value → part key = document value) :
    map.keys.map (fun key => (key, part key)) =
      map.entries.map fun (key, value) => (key, document value) := by
  rw [SortedMap.keys, List.map_map]
  apply List.map_congr_left
  rintro ⟨key, value⟩ hmem
  have hpart := h key value (SortedMap.get?_eq_some_iff.mpr hmem)
  exact congrArg (Prod.mk key) hpart

/-- However many looks a question takes, on an index that stays as it is it has
its one answer. -/
theorem answers_ask (index : Index) (question : Question)
    (rest : Answer → Inquiry) :
    (question.ask rest).answers index =
      question.answer index ::
        (rest (question.answer index)).answers index := by
  cases question with
  | search mode terms =>
      refine (answers_searching index mode rest terms.toList .empty).trans ?_
      rw [Question.answer, Index.search, Index.countMatches, List.foldl_flatMap]
  | report =>
      refine (answers_describing index _ rest index.words []).trans ?_
      have hparts := map_keys_eq index.postings
        (fun term => (index.occurrences term).document) Occurrences.document
        fun term occurrences hterm => by
          rw [Index.occurrences, hterm]
          rfl
      rw [List.reverse_nil, List.nil_append, Index.words, hparts]
      rfl
  | totalsReport =>
      refine (answers_describing index _ rest index.totals.keys []).trans ?_
      have hparts := map_keys_eq index.totals
        (fun location => .number (index.total location).toNat)
        (fun total => .number total.toNat)
        fun location total hlocation => by
          rw [Index.total, hlocation]
          rfl
      rw [List.reverse_nil, List.nil_append, hparts]
      rfl
  | _ => rfl

end Inquiry

/-! ## The lock -/

/-- A thread that does not move stays as it is or is woken. -/
inductive Stance.Stays : Stance → Stance → Prop where
  | same {stance : Stance} : Stays stance stance
  | wokenToRead : Stays (.awaitingRead false) (.awaitingRead true)
  | wokenToWrite : Stays (.awaitingWrite false) (.awaitingWrite true)

namespace SharedLock

/-- No thread moves, though some may be woken. -/
structure Wakes (threads later : List Stance) : Prop where
  length : later.length = threads.length
  stays : ∀ (j : Nat) (stance : Stance), later[j]? = some stance →
    ∃ old, threads[j]? = some old ∧ old.Stays stance

/-- One thread moves. -/
structure Turn (threads later : List Stance) (i : Nat)
    (before after : Stance) : Prop where
  before : threads[i]? = some before
  after : later[i]? = some after
  length : later.length = threads.length
  others : ∀ (j : Nat) (stance : Stance), j ≠ i → later[j]? = some stance →
    ∃ old, threads[j]? = some old ∧ old.Stays stance

theorem turn_set {threads : List Stance} {i : Nat} {before : Stance}
    (hi : threads[i]? = some before) (after : Stance) :
    Turn threads (threads.set i after) i before after where
  before := hi
  after := List.getElem?_set_self (List.getElem?_eq_some_iff.mp hi).1
  length := List.length_set
  others := by
    intro j stance hne hj
    rw [List.getElem?_set_ne hne.symm] at hj
    exact ⟨stance, hj, .same⟩

/-- Who is in and does not move stays in. -/
theorem Turn.in_of_in {threads later : List Stance} {i j : Nat}
    {before after stance : Stance} (h : Turn threads later i before after)
    (hne : j ≠ i) (hj : threads[j]? = some stance)
    (hin : stance = .reading ∨ stance = .writing) :
    later[j]? = some stance := by
  have hlt : j < later.length := by
    rw [h.length]
    exact (List.getElem?_eq_some_iff.mp hj).1
  obtain ⟨old, hold, hstays⟩ :=
    h.others j _ hne (List.getElem?_eq_getElem hlt)
  rw [hj] at hold
  cases hold
  rw [List.getElem?_eq_getElem hlt]
  generalize later[j] = now at hstays
  rcases hin with rfl | rfl
  · cases hstays
    rfl
  · cases hstays
    rfl

/-- Then others are woken. -/
theorem Turn.wake {threads mid later : List Stance} {i : Nat} {before : Stance}
    (h : Turn threads mid i before .outside) (hwakes : Wakes mid later) :
    Turn threads later i before .outside where
  before := h.before
  after := by
    have hi : i < later.length := by
      rw [hwakes.length]
      exact (List.getElem?_eq_some_iff.mp h.after).1
    obtain ⟨old, hold, hstays⟩ :=
      hwakes.stays i _ (List.getElem?_eq_getElem hi)
    rw [h.after] at hold
    cases hold
    rw [List.getElem?_eq_getElem hi]
    generalize later[i] = stance at hstays
    cases hstays
    rfl
  length := hwakes.length.trans h.length
  others := by
    intro j stance hne hj
    obtain ⟨mid, hmid, hstays⟩ := hwakes.stays j stance hj
    obtain ⟨old, hold, hmid'⟩ := h.others j mid hne hmid
    refine ⟨old, hold, ?_⟩
    cases hmid' with
    | same => exact hstays
    | wokenToRead =>
        cases hstays
        exact .wokenToRead
    | wokenToWrite =>
        cases hstays
        exact .wokenToWrite

theorem wakes_of_wakeWriter? {lock next : SharedLock} {woken? : Option Nat}
    (h : lock.wakeWriter? woken? = some next) :
    Wakes lock.threads next.threads := by
  unfold wakeWriter? at h
  split at h
  · split at h
    · cases h
    · cases h
      exact ⟨rfl, fun j stance hj => ⟨stance, hj, .same⟩⟩
  · next i =>
      split at h
      · next hi =>
          cases h
          have hturn := turn_set hi (.awaitingWrite true)
          refine ⟨hturn.length, fun j stance hj => ?_⟩
          by_cases hji : j = i
          · subst hji
            have heq := hj.symm.trans hturn.after
            cases heq
            exact ⟨_, hi, .wokenToWrite⟩
          · exact hturn.others j stance hji hj
      · cases h

theorem wakes_wakeReaders (lock : SharedLock) :
    Wakes lock.threads lock.wakeReaders.threads where
  length := List.length_map _
  stays := by
    intro j stance hj
    simp only [wakeReaders, List.getElem?_map, Option.map_eq_some_iff] at hj
    obtain ⟨old, hold, rfl⟩ := hj
    refine ⟨old, hold, ?_⟩
    split
    · next heq =>
        rw [heq]
        exact .wokenToRead
    · exact .same

/-- A reader comes in or parks, whether it comes or was woken. -/
theorem turn_enterRead {lock : SharedLock} {i : Nat} {before : Stance}
    (hi : lock.threads[i]? = some before) :
    ∃ after, Turn lock.threads (lock.enterRead i (.awaitingRead false)).threads
        i before after ∧
      (after = .reading ∨ after = .awaitingRead false) := by
  unfold enterRead
  split
  · exact ⟨_, turn_set hi _, .inl rfl⟩
  · exact ⟨_, turn_set hi _, .inr rfl⟩

/-- So does a writer that is counted as waiting. -/
theorem turn_enterWaiting {lock : SharedLock} {i : Nat} {before : Stance}
    (hi : lock.threads[i]? = some before) :
    ∃ after, Turn lock.threads (lock.enterWaiting i).threads i before after ∧
      (after = .writing ∨ after = .awaitingWrite false) := by
  unfold enterWaiting
  split
  · exact ⟨_, turn_set hi _, .inl rfl⟩
  · exact ⟨_, turn_set hi _, .inr rfl⟩

theorem turn_of_read {lock next : SharedLock} {i : Nat}
    (h : lock.step? (.read i) = some next) :
    ∃ after, Turn lock.threads next.threads i .outside after ∧
      (after = .reading ∨ after = .awaitingRead false) := by
  simp only [step?] at h
  split at h
  · next hi =>
      cases h
      exact turn_enterRead hi
  · cases h

theorem turn_of_write {lock next : SharedLock} {i : Nat}
    (h : lock.step? (.write i) = some next) :
    ∃ after, Turn lock.threads next.threads i .outside after ∧
      (after = .writing ∨ after = .awaitingWrite false) := by
  simp only [step?] at h
  split at h
  · next hi =>
      cases h
      -- The call counts it first, which leaves the threads as they are.
      exact @turn_enterWaiting
        { lock with waitingWriters := lock.waitingWriters + 1 } i _ hi
  · cases h

theorem turn_of_retest {lock next : SharedLock} {i : Nat}
    (h : lock.step? (.retest i) = some next) :
    (∃ after, Turn lock.threads next.threads i (.awaitingRead true) after ∧
      (after = .reading ∨ after = .awaitingRead false)) ∨
    ∃ after, Turn lock.threads next.threads i (.awaitingWrite true) after ∧
      (after = .writing ∨ after = .awaitingWrite false) := by
  simp only [step?] at h
  split at h
  · next hi =>
      cases h
      exact .inl (turn_enterRead hi)
  · next hi =>
      cases h
      exact .inr (turn_enterWaiting hi)
  · cases h

theorem turn_of_release {lock next : SharedLock} {i : Nat}
    {woken? : Option Nat} (h : lock.step? (.release i woken?) = some next) :
    ∃ before, Turn lock.threads next.threads i before .outside ∧
      (before = .reading ∨ before = .writing) := by
  simp only [step?] at h
  split at h
  · next hi =>
      refine ⟨_, ?_, .inl rfl⟩
      have hturn := turn_set hi .outside
      simp only [leaveRead?] at h
      split at h
      · exact hturn.wake (wakes_of_wakeWriter? h)
      · split at h
        · cases h
        · cases h
          exact hturn
  · next hi =>
      refine ⟨_, ?_, .inr rfl⟩
      have hturn := turn_set hi .outside
      simp only [leaveWrite?] at h
      split at h
      · exact hturn.wake (wakes_of_wakeWriter? h)
      · split at h
        · cases h
        · cases h
          exact hturn.wake (wakes_wakeReaders
            { lock.place i .outside with writer := false })
  · cases h

/-- A thread that has asked for nothing yet does not count. -/
theorem Tallied.come {lock : SharedLock} (h : lock.Tallied) :
    Tallied { lock with threads := lock.threads ++ [.outside] } := by
  obtain ⟨hreaders, hwriter, hwaiting, halone⟩ := h
  have hroles : roles { lock with threads := lock.threads ++ [.outside] } =
      lock.roles ++ [.idle] := List.map_append
  have hcount : ∀ role : Role, role ≠ .idle →
      (lock.roles ++ [Role.idle]).count role = lock.roles.count role := by
    intro role hrole
    rw [List.count_append, List.count_singleton, if_neg, Nat.add_zero]
    exact fun heq => hrole (beq_iff_eq.mp heq).symm
  rw [Tallied, hroles]
  exact ⟨hreaders.trans (hcount .reader (by decide)).symm,
    hwriter.trans (hcount .writer (by decide)).symm,
    hwaiting.trans (hcount .claimant (by decide)).symm, halone⟩

/-- Who writes is in alone. -/
theorem Tallied.alone {lock : SharedLock} (h : lock.Tallied) {i j : Nat}
    (hi : lock.threads[i]? = some .writing)
    (hj : lock.threads[j]? = some .reading ∨
      lock.threads[j]? = some .writing) : j = i :=
  h.truthful.exclusive i (roles_getElem? hi) j
    (hj.imp roles_getElem? roles_getElem?)

end SharedLock

end Concordance
