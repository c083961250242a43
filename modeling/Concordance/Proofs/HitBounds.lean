import Mathlib.Algebra.Order.BigOperators.Group.List
import Concordance.Proofs.ExactHits
import Concordance.Proofs.HitOrder
import Concordance.Proofs.PartialHits
import Concordance.Proofs.RoundedShares

/-!
# No hit of an exact search is more than its document

A hit counts positions and its document counts tokens. A token is recorded at
one position, and recording another token of the same term there adds to the
document and not to the hit. So of one term there are at most as many positions
as tokens, whatever was recorded twice or merged with itself
(`Describes.positionCount_le`). The terms of a search are each sought once, and
a token is one of them at most; hence what they add up to is at most the total,
and the share at most one.

That the total is not zero is a matter of where hits come from: a location is
among the matches only if a term occurs there, and then a token was recorded
there. This holds of a partial search too. But there a term counts for every
beginning that it has, and the share may be more than one.
-/

namespace Concordance

/-- The terms recorded at a location, in order and with repetitions. -/
def tokensAt (records : List Record) (location : Location) : List Term :=
  (records.filter (·.location = location)).map Record.term

namespace Index

variable {index : Index} {records : List Record}

/-! ## Positions and tokens -/

theorem Describes.length_tokensAt (h : index.Describes records)
    (location : Location) :
    (tokensAt records location).length = (index.total location).toNat := by
  rw [h.total, List.countP_eq_length_filter, tokensAt, List.length_map]

/-- A term has no more positions at a location than tokens. -/
theorem Describes.positionCount_le (h : index.Describes records) (term : Term)
    (location : Location) :
    index.positionCount term location ≤
      (tokensAt records location).count term := by
  have htokens : (tokensAt records location).count term =
      (records.filter fun r =>
        r.term = term ∧ r.location = location).length := by
    rw [tokensAt, List.count, List.countP_map, List.countP_filter,
      List.countP_eq_length_filter]
    refine congrArg List.length (List.filter_congr fun r _ => ?_)
    simp [beq_eq_decide]
  rw [h.positionCount, htokens, ← List.length_map Record.position]
  exact List.toFinset_card_le _

/-- Terms that are sought once each have no more positions at a location than
there are tokens. -/
theorem Describes.sum_positionCount_le (h : index.Describes records)
    {sought : List Term} (hsought : sought.Nodup) (location : Location) :
    (sought.map (index.positionCount · location)).sum ≤
      (index.total location).toNat :=
  calc (sought.map (index.positionCount · location)).sum
      ≤ (sought.map (tokensAt records location).count).sum :=
        List.sum_le_sum fun term _ => h.positionCount_le term location
    _ = (tokensAt records location).countP (· ∈ sought) := sum_count hsought _
    _ ≤ (tokensAt records location).length := List.countP_le_length
    _ = (index.total location).toNat := h.length_tokensAt location

/-! ## Where there are tokens -/

/-- A location has tokens where it has a term, and nowhere else. -/
theorem Describes.total_pos_iff (h : index.Describes records)
    (location : Location) : 0 < (index.total location).toNat ↔
      ∃ term, index.containsAt term location = true := by
  rw [h.total, List.countP_pos_iff]
  simp only [decide_eq_true_eq, h.containsAt]
  constructor
  · rintro ⟨r, hr, hlocation⟩
    exact ⟨r.term, r, hr, rfl, hlocation⟩
  · rintro ⟨_, r, hr, -, hlocation⟩
    exact ⟨r, hr, hlocation⟩

theorem Describes.positionCount_pos (h : index.Describes records) {term : Term}
    {location : Location} (hat : index.containsAt term location = true) :
    0 < index.positionCount term location := by
  obtain ⟨r, hr, hterm, hlocation⟩ := (h.containsAt term location).mp hat
  rw [h.positionCount, Finset.card_pos]
  refine ⟨r.position, List.mem_toFinset.mpr (List.mem_map_of_mem ?_)⟩
  exact List.mem_filter.mpr ⟨hr, decide_eq_true ⟨hterm, hlocation⟩⟩

/-- What a term of a search matches are terms of the index. -/
theorem occurrences_of_mem_matching {mode : Mode} {term : Term}
    {entry : Term × Occurrences} (h : entry ∈ index.matching mode term) :
    index.occurrences entry.1 = entry.2 := by
  cases mode with
  | exactly =>
      obtain ⟨found, hget, rfl⟩ := List.mem_map.mp h
      rw [Option.mem_toList] at hget
      rw [occurrences, hget]
      rfl
  | partially => exact occurrences_of_mem_termsFrom h

/-- A hit is at a location with a term. -/
theorem containsAt_of_mem_search {mode : Mode} {sought : SortedSet Term}
    {hit : Hit} (h : hit ∈ index.search mode sought) :
    ∃ term, index.containsAt term hit.location = true := by
  have hcount := (mem_search.mp h).1
  rw [get?_countMatches] at hcount
  split at hcount
  · next hfound =>
      obtain ⟨_, -, entry, hentry, hcontains⟩ := hfound
      refine ⟨entry.1, ?_⟩
      rwa [containsAt, occurrences_of_mem_matching hentry]
  · cases hcount

/-! ## What an exact search finds -/

/-- The hits are at the locations of the terms sought, and none is more than its
document. -/
structure FindsWithin (index : Index) (sought : List Term) (hits : List Hit) :
    Prop where
  once : (hits.map Hit.location).Nodup
  found : ∀ location, location ∈ hits.map Hit.location ↔
    ∃ term ∈ sought, index.containsAt term location = true
  count : ∀ hit ∈ hits, hit.count =
    (sought.map (index.positionCount · hit.location)).sum
  within : ∀ hit ∈ hits,
    1 ≤ hit.count ∧ hit.count ≤ (index.total hit.location).toNat
  share : ∀ hit ∈ hits,
    hit.share = Rank.share hit.count (index.total hit.location).toNat ∧
      0 < hit.share ∧ hit.share ≤ Rank.one

theorem Describes.findsWithin (h : index.Describes records)
    (sought : SortedSet Term) :
    index.FindsWithin sought.toList (index.search .exactly sought) := by
  have hget := index.get?_countMatches_exactly sought.toList
  have hmatch : ∀ hit ∈ index.search .exactly sought,
      (∃ term ∈ sought.toList, index.containsAt term hit.location = true) ∧
      hit.count =
        (sought.toList.map (index.positionCount · hit.location)).sum := by
    intro hit hhit
    have hcount := (mem_search.mp hhit).1
    rw [hget] at hcount
    split at hcount
    · next hfound => exact ⟨hfound, (Option.some.inj hcount).symm⟩
    · cases hcount
  have hwithin : ∀ hit ∈ index.search .exactly sought,
      1 ≤ hit.count ∧ hit.count ≤ (index.total hit.location).toNat := by
    intro hit hhit
    obtain ⟨⟨term, hterm, hat⟩, hcount⟩ := hmatch hit hhit
    rw [hcount]
    refine ⟨List.sum_pos_iff_exists_pos_nat.mpr
      ⟨_, List.mem_map_of_mem hterm, h.positionCount_pos hat⟩, ?_⟩
    exact h.sum_positionCount_le (SortedMap.nodup_keys sought) hit.location
  constructor
  case once => exact index.nodup_search .exactly sought
  case found =>
      intro location
      constructor
      · intro hmem
        obtain ⟨hit, hhit, rfl⟩ := List.mem_map.mp hmem
        exact (hmatch hit hhit).1
      · intro hfound
        have hcount := (hget location).trans (if_pos hfound)
        exact List.mem_map.mpr
          ⟨index.hit location _, mem_search.mpr ⟨hcount, rfl⟩, rfl⟩
  case count => exact fun hit hhit => (hmatch hit hhit).2
  case within => exact hwithin
  case share =>
      intro hit hhit
      have hshare := (mem_search.mp hhit).2
      obtain ⟨hpos, hle⟩ := hwithin hit hhit
      rw [hshare]
      exact ⟨rfl, Rank.share_pos hpos (hpos.trans hle) (UInt64.toNat_lt _),
        Rank.share_le_one hle⟩

/-- Whatever was recorded, in whatever order and however often, an exact search
finds the locations of its terms, and each of its hits is a part of the document
that is not empty. And no search of any kind finds a location without tokens. -/
theorem search_ofEdits_within (edits : List Edit)
    (hfew : (Edit.allRecords [] edits).length < 2 ^ 64) :
    (∀ location, 0 < ((ofEdits edits).total location).toNat ↔
      ∃ term, (ofEdits edits).containsAt term location = true) ∧
    (∀ mode sought, ∀ hit ∈ (ofEdits edits).search mode sought,
      0 < ((ofEdits edits).total hit.location).toNat) ∧
    ∀ sought, (ofEdits edits).FindsWithin sought.toList
      ((ofEdits edits).search .exactly sought) := by
  have hdescribes : (ofEdits edits).Describes (Edit.allRecords [] edits) := by
    rw [ofEdits_eq]
    exact describes_recordAll fun l =>
      Nat.lt_of_le_of_lt List.countP_le_length hfew
  refine ⟨hdescribes.total_pos_iff, ?_, hdescribes.findsWithin⟩
  intro mode sought hit hhit
  exact (hdescribes.total_pos_iff _).mpr (containsAt_of_mem_search hhit)

/-- In a partial search one token may be two matches. -/
example : (ofEdits [.addAll ["cat"] "x" 1]).search .partially
    (SortedSet.ofList ["c", "ca"]) = [⟨2, 2 * Rank.one, "x"⟩] := by
  decide +kernel

/-- A document that is indexed twice over, once in an index on the side, and
another one that is merged with itself. -/
def indexedTwice : List Edit :=
  [.addAll ["cat", "dog"] "x" 1,
    .merge [.addAll ["cat", "dog"] "x" 1, .add "cat" "y" 1, .mergeSelf]]

theorem search_indexedTwice :
    (Edit.allRecords [] indexedTwice).length < 2 ^ 64 ∧
    ((ofEdits indexedTwice).total "x").toNat = 6 ∧
    ∀ hit ∈ (ofEdits indexedTwice).search .exactly (.ofList ["cat", "dog"]),
      1 ≤ hit.count ∧
        hit.count ≤ ((ofEdits indexedTwice).total hit.location).toNat := by
  have hfew : (Edit.allRecords [] indexedTwice).length < 2 ^ 64 := by decide
  exact ⟨hfew, by decide,
    ((search_ofEdits_within indexedTwice hfew).2.2 _).within⟩

end Index

end Concordance
