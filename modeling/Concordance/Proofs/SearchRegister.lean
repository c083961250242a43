import Mathlib.Algebra.Order.Group.Multiset
import Mathlib.Data.Multiset.UnionInter
import Mathlib.Tactic.Abel
import Concordance.Proofs.LookupStep
import Concordance.Proofs.SortedMerge
import Concordance.Query.Room

/-!
# The register of searches

The cache does not remember who searched. The register does: it has every
search that came to an end, with its reader, and everybody who was told that
another has the claim.

Between the cache, the lookups and the register every step of a lookup keeps
that the keys under search are those of the claims that lookups hold, one
lookup for each key, and that none of them is answered. So nobody fills the
cache a second time, and nobody takes away the claim of another. And the
searches that went well under a claim are, one for one, the answers in the
cache and what lookups are about to put there.
-/

namespace Concordance

/-- What is answered stays so, with the same hits. -/
def Answers.StayIn (answers later : Answers) : Prop :=
  ∀ key hits, answers.get? key = some hits → later.get? key = some hits

/-- A search that came to an end, with its hits unless it failed. -/
structure SearchRecord where
  reader : Reader
  key : String
  claimed : Bool
  hits? : Option (List Hit)

/-- What was searched in a reading room. -/
structure Register where
  searches : List SearchRecord
  /-- Who was told that another has the claim, and for which key. -/
  busy : List (Reader × String)

namespace Register

def empty : Register := ⟨[], []⟩

def add (register : Register) (search : SearchRecord) : Register :=
  { register with searches := register.searches ++ [search] }

/-- Writes down what comes of the next step of a reader's lookup. -/
def note (desk : Desk) (reader : Reader) (lookup : Lookup)
    (register : Register) : Register :=
  match lookup.stage with
  | .fresh line =>
    match Query.ofLine? line with
    | none => register
    | some query =>
      match (desk.cache.claim query.key).2 with
      | .busy =>
          { register with busy := register.busy ++ [(reader, query.key)] }
      | _ => register
  | .ready query claimed =>
    if desk.probe.begin.2 then register
    else register.add ⟨reader, query.key, claimed, none⟩
  | .searching query claimed =>
    register.add ⟨reader, query.key, claimed,
      some (desk.probe.hits query lookup.mode)⟩
  | _ => register

/-- Writes down that the search of a reader's lookup failed, if it is in the
middle of one. -/
def noteFailure (reader : Reader) (lookup : Lookup) (register : Register) :
    Register :=
  match lookup.stage with
  | .searching query claimed => register.add ⟨reader, query.key, claimed, none⟩
  | _ => register

/-- The searches that went well under a claim: what was searched, and what was
found. -/
def finds (register : Register) : List (String × List Hit) :=
  register.searches.filterMap fun search =>
    if search.claimed then search.hits?.map fun hits => (search.key, hits)
    else none

theorem finds_add (register : Register) (search : SearchRecord) :
    (register.add search).finds = register.finds ++
      (if search.claimed then search.hits?.map fun hits => (search.key, hits)
        else none).toList := by
  rw [finds, add, List.filterMap_append, List.filterMap_cons,
    List.filterMap_nil]
  split
  · next h => rw [h]; rfl
  · next h => rw [h]; rfl

end Register

/-! ## What is kept of the cache -/

/-- What every step keeps between the cache, the lookups and the register. -/
structure Register.Kept (cache : QueryCache) (lookups : Multiset Lookup)
    (register : Register) : Prop where
  unanswered : ∀ key ∈ cache.searching, cache.answers.get? key = none
  claims : (cache.searching : Multiset String) = lookups.filterMap Lookup.claim?
  nodup : cache.searching.Nodup
  finds : (register.finds : Multiset (String × List Hit)) =
    ↑cache.answers.entries + lookups.filterMap Lookup.find?

namespace Register

theorem filterMap_cons {α β : Type} (f : α → Option β) (x : α)
    (xs : Multiset α) :
    (x ::ₘ xs).filterMap f = ↑(f x).toList + xs.filterMap f := by
  cases h : f x with
  | none =>
      rw [Multiset.filterMap_cons_none _ _ h]
      exact (zero_add _).symm
  | some y =>
      rw [Multiset.filterMap_cons_some _ _ _ h]
      rfl

/-- A step that leaves the cache alone. -/
theorem Kept.of_same {cache : QueryCache} {lookup rest : Lookup}
    {others : Multiset Lookup} {register later : Register}
    (hkept : Kept cache (lookup ::ₘ others) register)
    (hclaim : rest.claim? = lookup.claim?) (hnone : lookup.find? = none)
    (hfinds : later.finds = register.finds ++ rest.find?.toList) :
    Kept cache (rest ::ₘ others) later where
  unanswered := hkept.unanswered
  claims := by
    rw [hkept.claims, filterMap_cons, filterMap_cons, hclaim]
  nodup := hkept.nodup
  finds := by
    have hbefore := hkept.finds
    rw [filterMap_cons, hnone, Option.toList_none, Multiset.coe_nil,
      zero_add] at hbefore
    rw [hfinds, ← Multiset.coe_add, hbefore, filterMap_cons]
    abel

/-- Who holds a claim has the key to itself, and gives it up alone. -/
theorem Kept.erase {cache : QueryCache} {lookup : Lookup}
    {others : Multiset Lookup} {register : Register} {key : String}
    (hkept : Kept cache (lookup ::ₘ others) register)
    (hclaim : lookup.claim? = some key) :
    key ∈ cache.searching ∧
      (↑(cache.searching.erase key) : Multiset String) =
        others.filterMap Lookup.claim? := by
  have hclaims := hkept.claims
  rw [filterMap_cons, hclaim, Option.toList_some, Multiset.coe_singleton,
    Multiset.singleton_add] at hclaims
  constructor
  · rw [← Multiset.mem_coe, hclaims]
    exact Multiset.mem_cons_self ..
  · rw [← Multiset.coe_erase, hclaims, Multiset.erase_cons_head]

theorem kept_of_step {desk after : Desk} {lookup rest : Lookup}
    {others : Multiset Lookup} {register : Register} (reader : Reader)
    (h : Lookup.Step desk lookup after rest)
    (hkept : Kept desk.cache (lookup ::ₘ others) register) :
    Kept after.cache (rest ::ₘ others) (register.note desk reader lookup) := by
  have hnothing : register.finds =
      register.finds ++ (none : Option (String × List Hit)).toList :=
    (List.append_nil _).symm
  cases h with
  | blank hline =>
      simp only [note, hline]
      exact hkept.of_same rfl rfl hnothing
  | cached hline hhits =>
      simp only [note, hline, QueryCache.claim_of_answered hhits]
      exact hkept.of_same rfl rfl hnothing
  | @claim mode called line query hline hnone hfree =>
      simp only [note, hline, QueryCache.claim_of_free hnone hfree]
      refine ⟨?_, ?_, List.nodup_cons.mpr ⟨hfree, hkept.nodup⟩, ?_⟩
      · intro key hkey
        rcases List.mem_cons.mp hkey with rfl | hkey
        · exact hnone
        · exact hkept.unanswered key hkey
      · have hclaims := hkept.claims
        rw [filterMap_cons] at hclaims
        show (↑(query.key :: desk.cache.searching) : Multiset String) = _
        rw [← Multiset.cons_coe, hclaims, filterMap_cons]
        show query.key ::ₘ (0 + others.filterMap Lookup.claim?) =
          {query.key} + others.filterMap Lookup.claim?
        rw [zero_add, Multiset.singleton_add]
      · have hfinds := hkept.finds
        rw [filterMap_cons] at hfinds
        rw [hfinds, filterMap_cons]
        rfl
  | persist hline hnone hbusy =>
      simp only [note, hline, QueryCache.claim_of_busy hnone hbusy]
      exact hkept.of_same rfl rfl hnothing
  | leave hline hnone hbusy =>
      simp only [note, hline, QueryCache.claim_of_busy hnone hbusy]
      exact hkept.of_same rfl rfl hnothing
  | begin hbegin =>
      simp only [note, hbegin, if_true]
      exact hkept.of_same rfl rfl hnothing
  | @fail mode called claimed query probe hbegin =>
      simp only [note, hbegin, Bool.false_eq_true, if_false]
      refine hkept.of_same rfl rfl ?_
      rw [finds_add]
      cases claimed <;> rfl
  | @find mode called claimed query =>
      refine hkept.of_same rfl rfl ?_
      rw [note, finds_add]
      rfl
  | @fill mode called query hits =>
      have hclaim : Lookup.claim? ⟨mode, called, .found query true hits⟩ =
          some query.key := rfl
      obtain ⟨hkey, herase⟩ := hkept.erase hclaim
      have hnone := hkept.unanswered query.key hkey
      refine ⟨?_, ?_, hkept.nodup.erase _, ?_⟩
      · intro key hmem
        obtain ⟨hne, hmem⟩ := (hkept.nodup.mem_erase_iff).mp hmem
        show (desk.cache.answers.insert query.key hits).get? key = none
        rw [SortedMap.get?_insert, if_neg hne]
        exact hkept.unanswered key hmem
      · show (↑(desk.cache.searching.erase query.key) : Multiset String) = _
        rw [herase, filterMap_cons]
        exact (zero_add _).symm
      · have hfinds := hkept.finds
        rw [filterMap_cons] at hfinds
        show (register.finds : Multiset (String × List Hit)) =
          ↑(desk.cache.answers.insert query.key hits).entries + _
        rw [hfinds,
          Multiset.coe_eq_coe.mpr (SortedMap.entries_insert hits hnone),
          filterMap_cons, ← Multiset.cons_coe, ← Multiset.singleton_add]
        simp only [Lookup.find?, if_true, Option.toList_some,
          Option.toList_none, Multiset.coe_singleton, Multiset.coe_nil]
        abel
  | answer => exact hkept.of_same rfl rfl hnothing
  | @release mode called query =>
      have hclaim : Lookup.claim? ⟨mode, called, .crashed query true⟩ =
          some query.key := rfl
      obtain ⟨hkey, herase⟩ := hkept.erase hclaim
      refine ⟨?_, ?_, hkept.nodup.erase _, ?_⟩
      · intro key hmem
        exact hkept.unanswered key (List.mem_of_mem_erase hmem)
      · show (↑(desk.cache.searching.erase query.key) : Multiset String) = _
        rw [herase, filterMap_cons]
        exact (zero_add _).symm
      · have hfinds := hkept.finds
        rw [filterMap_cons] at hfinds
        rw [filterMap_cons]
        exact hfinds
  | giveUp => exact hkept.of_same rfl rfl hnothing

/-- The search that a lookup is in the middle of fails. -/
theorem kept_of_failure {cache : QueryCache} {mode : Mode}
    {called claimed : Bool} {query : Query} {others : Multiset Lookup}
    {register : Register} (reader : Reader)
    (hkept : register.Kept cache
      (⟨mode, called, .searching query claimed⟩ ::ₘ others)) :
    (register.add ⟨reader, query.key, claimed, none⟩).Kept cache
      (⟨mode, called, .crashed query claimed⟩ ::ₘ others) := by
  refine hkept.of_same rfl rfl ?_
  rw [finds_add]
  cases claimed <;> rfl

/-- One more lookup that has not begun. -/
theorem Kept.fresh {cache : QueryCache} {lookups : Multiset Lookup}
    {register : Register} (hkept : register.Kept cache lookups) (mode : Mode)
    (called : Bool) (line : String) :
    register.Kept cache (.ofLine mode called line ::ₘ lookups) where
  unanswered := hkept.unanswered
  claims := by
    rw [hkept.claims, Multiset.filterMap_cons_none _ _ rfl]
  nodup := hkept.nodup
  finds := by
    rw [hkept.finds, Multiset.filterMap_cons_none _ _ rfl]

/-- A task of the pool ends. -/
theorem Kept.ended {cache : QueryCache} {lookup : Lookup}
    {lookups : Multiset Lookup} {register : Register}
    (hkept : register.Kept cache (lookup ::ₘ lookups))
    (hclaim : lookup.claim? = none) (hfind : lookup.find? = none) :
    register.Kept cache lookups where
  unanswered := hkept.unanswered
  claims := by
    rw [hkept.claims, Multiset.filterMap_cons_none _ _ hclaim]
  nodup := hkept.nodup
  finds := by
    rw [hkept.finds, Multiset.filterMap_cons_none _ _ hfind]

theorem stayIn_of_step {desk after : Desk} {lookup rest : Lookup}
    {others : Multiset Lookup} {register : Register}
    (h : Lookup.Step desk lookup after rest)
    (hkept : Kept desk.cache (lookup ::ₘ others) register) :
    desk.cache.answers.StayIn after.cache.answers := by
  intro key hits hhits
  cases h with
  | @fill mode called query found =>
      have hclaim : Lookup.claim? ⟨mode, called, .found query true found⟩ =
          some query.key := rfl
      have hnone := hkept.unanswered query.key (hkept.erase hclaim).1
      have hne : key ≠ query.key := by
        intro heq
        rw [heq, hnone] at hhits
        cases hhits
      show (desk.cache.answers.insert query.key found).get? key = some hits
      rw [SortedMap.get?_insert, if_neg hne, hhits]
  | blank => exact hhits
  | cached => exact hhits
  | claim => exact hhits
  | persist => exact hhits
  | leave => exact hhits
  | begin => exact hhits
  | fail => exact hhits
  | find => exact hhits
  | answer => exact hhits
  | release => exact hhits
  | giveUp => exact hhits

/-! ## Searches under a claim -/

/-- The keys of what is about to be put into the cache are claimed. -/
theorem finds_le_claims (lookups : Multiset Lookup) :
    (lookups.filterMap Lookup.find?).map Prod.fst ≤
      lookups.filterMap Lookup.claim? := by
  induction lookups using Multiset.induction_on with
  | empty => exact le_refl _
  | cons lookup lookups ih =>
      rw [filterMap_cons, filterMap_cons, Multiset.map_add]
      apply add_le_add _ ih
      cases hfind : lookup.find? with
      | none => exact Multiset.zero_le _
      | some found => rw [Lookup.claim?_of_find? hfind]; exact le_refl _

theorem nodup_finds {cache : QueryCache} {lookups : Multiset Lookup}
    {register : Register} (hkept : register.Kept cache lookups) :
    (register.finds.map Prod.fst).Nodup := by
  have hle := finds_le_claims lookups
  rw [← hkept.claims] at hle
  rw [← Multiset.coe_nodup, ← Multiset.map_coe, hkept.finds, Multiset.map_add,
    Multiset.nodup_add]
  refine ⟨SortedMap.nodup_keys cache.answers,
    Multiset.nodup_of_le hle hkept.nodup, ?_⟩
  apply Multiset.disjoint_left.mpr
  intro key hanswered hfound
  have hnone := hkept.unanswered key (Multiset.mem_of_le hle hfound)
  have hcontains := SortedMap.mem_keys.mp
    (show key ∈ cache.answers.keys from hanswered)
  rw [SortedMap.contains, hnone] at hcontains
  cases hcontains

/-! ## Who searches without a claim -/

/-- The reader is a caller who was told that another has the claim. -/
def Told (register : Register) (reader : Reader) (key : String) : Prop :=
  (∃ k, reader = .caller k) ∧ (reader, key) ∈ register.busy

/-- Nobody else has searched without a claim. -/
def Licensed (register : Register) : Prop :=
  ∀ search ∈ register.searches, search.claimed = false →
    register.Told search.reader search.key

theorem licensed_add {register : Register} {search : SearchRecord}
    (hlicensed : register.Licensed)
    (h : search.claimed = false → register.Told search.reader search.key) :
    (register.add search).Licensed := by
  intro other hother
  rcases List.mem_append.mp hother with hmem | hlast
  · exact hlicensed other hmem
  · rw [List.mem_singleton.mp hlast]
    exact h

theorem Told.mono {register later : Register} {reader : Reader} {key : String}
    (h : register.Told reader key) (hbusy : register.busy ⊆ later.busy) :
    later.Told reader key :=
  ⟨h.1, hbusy h.2⟩

theorem busy_note (desk : Desk) (reader : Reader) (lookup : Lookup)
    (register : Register) :
    register.busy ⊆ (register.note desk reader lookup).busy := by
  unfold note
  split
  · split
    · exact List.Subset.refl _
    · split
      · exact List.subset_append_left ..
      · exact List.Subset.refl _
  · split
    · exact List.Subset.refl _
    · exact List.Subset.refl _
  · exact List.Subset.refl _
  · exact List.Subset.refl _

theorem licensed_of_step {desk after : Desk} {lookup rest : Lookup}
    {register : Register} {reader : Reader}
    (h : Lookup.Step desk lookup after rest) (hlicensed : register.Licensed)
    (htold : ∀ key, lookup.unclaimed? = some key → register.Told reader key) :
    (register.note desk reader lookup).Licensed := by
  cases h with
  | blank hline =>
      simp only [note, hline]
      exact hlicensed
  | cached hline hhits =>
      simp only [note, hline, QueryCache.claim_of_answered hhits]
      exact hlicensed
  | claim hline hnone hfree =>
      simp only [note, hline, QueryCache.claim_of_free hnone hfree]
      exact hlicensed
  | persist hline hnone hbusy =>
      simp only [note, hline, QueryCache.claim_of_busy hnone hbusy]
      exact fun search hsearch hunclaimed =>
        (hlicensed search hsearch hunclaimed).mono (List.subset_append_left ..)
  | leave hline hnone hbusy =>
      simp only [note, hline, QueryCache.claim_of_busy hnone hbusy]
      exact fun search hsearch hunclaimed =>
        (hlicensed search hsearch hunclaimed).mono (List.subset_append_left ..)
  | begin hbegin =>
      simp only [note, hbegin, if_true]
      exact hlicensed
  | @fail mode called claimed query probe hbegin =>
      simp only [note, hbegin, Bool.false_eq_true, if_false]
      apply licensed_add hlicensed
      rintro (rfl : claimed = false)
      exact htold query.key rfl
  | @find mode called claimed query =>
      apply licensed_add hlicensed
      rintro (rfl : claimed = false)
      exact htold query.key rfl
  | fill => exact hlicensed
  | answer => exact hlicensed
  | release => exact hlicensed
  | giveUp => exact hlicensed

/-- A lookup goes on without a claim only if it did before, or is now told that
another has it. -/
theorem unclaimed_of_step {desk after : Desk} {lookup rest : Lookup}
    (register : Register) (reader : Reader)
    (h : Lookup.Step desk lookup after rest) {key : String}
    (hkey : rest.unclaimed? = some key) :
    lookup.unclaimed? = some key ∨
      lookup.called = true ∧
        (reader, key) ∈ (register.note desk reader lookup).busy := by
  cases h with
  | persist hline hnone hbusy =>
      cases hkey
      refine .inr ⟨rfl, ?_⟩
      simp only [note, hline, QueryCache.claim_of_busy hnone hbusy]
      exact List.mem_append_right _ (List.mem_singleton_self _)
  | begin => exact .inl hkey
  | fail => exact .inl hkey
  | find => exact .inl hkey
  | blank => cases hkey
  | cached => cases hkey
  | claim => cases hkey
  | leave => cases hkey
  | fill => cases hkey
  | answer => cases hkey
  | release => cases hkey
  | giveUp => cases hkey

end Register

end Concordance
