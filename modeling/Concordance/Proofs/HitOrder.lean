import Concordance.Index.Edit
import Concordance.Index.Search
import Concordance.Proofs.SortedMerge

/-!
# The ranking of hits leaves no choice

Hits are compared by four things one after the other, the first two falling and
the others rising. Each is compared in a total order of its own, and so the
whole is one. That two hits tie in it means that they tie in each, the last of
which is the location as it is written; so they are the same hit, and two lists
that are in rank order and hold the same hits are the same list.

A search takes its hits from a map by location, in whatever order the map gives
them, and sorts them. Nothing of that order is left in the outcome: there is one
hit for each location of the map, and one way to rank them.
-/

namespace Concordance

open Std (TransCmp LawfulEqCmp OrientedCmp ReflCmp)

namespace Hit

/-! ## Comparing hits -/

/-- The ranking is one comparison after the other. -/
theorem order_eq_lex : order =
    compareLex (fun a b => compareOn share b a)
      (compareLex (fun a b => compareOn count b a)
        (compareLex (compareOn fun hit => caseless hit.location)
          (compareOn location))) :=
  rfl

instance : TransCmp order := by
  rw [order_eq_lex]
  infer_instance

/-- Hits that tie are the same. -/
theorem eq_of_order {a b : Hit} (h : order a b = .eq) : a = b := by
  obtain ⟨hshare, h⟩ := Ordering.then_eq_eq.mp h
  obtain ⟨hcount, h⟩ := Ordering.then_eq_eq.mp h
  have hlocation := (Ordering.then_eq_eq.mp h).2
  obtain ⟨count, share, location⟩ := a
  rw [Nat.compare_eq_eq] at hshare hcount
  rw [Hit.mk.injEq]
  exact ⟨hcount.symm, hshare.symm, LawfulEqCmp.eq_of_compare hlocation⟩

instance : LawfulEqCmp order where
  compare_self := ReflCmp.compare_self
  eq_of_compare := eq_of_order

theorem order_eq_iff {a b : Hit} : order a b = .eq ↔ a = b :=
  Std.LawfulEqCmp.compare_eq_iff_eq

theorem isLE_total (a b : Hit) :
    (order a b).isLE = true ∨ (order b a).isLE = true := by
  have hswap : order b a = (order a b).swap := OrientedCmp.eq_swap
  rw [hswap]
  cases order a b <;> decide

/-! ## Ranked lists -/

/-- The hits stand in rank order. -/
def InOrder (hits : List Hit) : Prop :=
  hits.Pairwise fun a b => (order a b).isLE = true

theorem inOrder_insertRanked {hits : List Hit} (hit : Hit)
    (h : InOrder hits) : InOrder (insertRanked hit hits) := by
  induction hits with
  | nil => exact List.pairwise_singleton _ _
  | cons other rest ih =>
      obtain ⟨hother, hrest⟩ := List.pairwise_cons.mp h
      unfold insertRanked
      split
      · next hle =>
          refine List.pairwise_cons.mpr ⟨?_, h⟩
          intro later hlater
          rcases List.mem_cons.mp hlater with rfl | hlater
          · exact hle
          · exact TransCmp.isLE_trans hle (hother later hlater)
      · next hgt =>
          refine List.pairwise_cons.mpr ⟨?_, ih hrest⟩
          intro later hlater
          rcases List.mem_cons.mp ((perm_insertRanked hit rest).mem_iff.mp
            hlater) with rfl | hlater
          · exact (isLE_total other later).resolve_right hgt
          · exact hother later hlater

theorem inOrder_ranked (hits : List Hit) : InOrder (ranked hits) := by
  induction hits with
  | nil => exact List.Pairwise.nil
  | cons hit hits ih => exact inOrder_insertRanked hit ih

/-- There is one way to rank hits. -/
theorem InOrder.unique {hits others : List Hit} (hhits : InOrder hits)
    (hothers : InOrder others) (hperm : hits.Perm others) : hits = others :=
  hperm.eq_of_pairwise
    (fun _ _ _ _ hle hge => eq_of_order (OrientedCmp.isLE_antisymm hle hge))
    hhits hothers

/-- Hits in rank order at different locations are strictly so. -/
theorem InOrder.strict {hits : List Hit} (h : InOrder hits)
    (hnodup : (hits.map location).Nodup) :
    hits.Pairwise fun a b => order a b = .lt := by
  refine (h.and (List.pairwise_map.mp hnodup)).imp ?_
  rintro a b ⟨hle, hne⟩
  cases hab : order a b with
  | lt => rfl
  | eq => exact absurd (congrArg location (eq_of_order hab)) hne
  | gt =>
      rw [hab] at hle
      cases hle

end Hit

namespace Index

/-- The hits of matches in some order, before they are ranked. -/
def hitsOf (index : Index) (entries : List (Location × Nat)) : List Hit :=
  entries.map fun (location, count) => index.hit location count

/-- A hit is found for each location that has a match, once. -/
theorem map_location_hitsOf (index : Index)
    (entries : List (Location × Nat)) :
    (index.hitsOf entries).map Hit.location = entries.map Prod.fst :=
  List.map_map

theorem perm_search (index : Index) (mode : Mode) (terms : SortedSet Term) :
    (index.search mode terms).Perm
      (index.hitsOf (index.countMatches mode terms.toList).entries) :=
  Hit.perm_ranked _

/-- A search finds what has matches, and nothing else. -/
theorem mem_search {index : Index} {mode : Mode} {terms : SortedSet Term}
    {hit : Hit} : hit ∈ index.search mode terms ↔
      (index.countMatches mode terms.toList).get? hit.location =
        some hit.count ∧
      hit.share = Rank.share hit.count (index.total hit.location).toNat := by
  rw [(index.perm_search mode terms).mem_iff, SortedMap.get?_eq_some_iff,
    hitsOf, List.mem_map]
  constructor
  · rintro ⟨⟨location, count⟩, hmem, rfl⟩
    exact ⟨hmem, rfl⟩
  · rintro ⟨hmem, hshare⟩
    refine ⟨(hit.location, hit.count), hmem, ?_⟩
    show index.hit hit.location hit.count = hit
    rw [Index.hit, Hit.ofCounts, ← hshare]

theorem nodup_search (index : Index) (mode : Mode) (terms : SortedSet Term) :
    ((index.search mode terms).map Hit.location).Nodup := by
  rw [((index.perm_search mode terms).map Hit.location).nodup_iff,
    map_location_hitsOf]
  exact SortedMap.nodup_keys _

theorem strict_search (index : Index) (mode : Mode) (terms : SortedSet Term) :
    (index.search mode terms).Pairwise fun a b => Hit.order a b = .lt :=
  (Hit.inOrder_ranked _).strict (index.nodup_search mode terms)

/-- Whoever ranks the hits of the same matches, in whatever order they come,
gets what the search gives. -/
theorem search_unique {index : Index} {mode : Mode} {terms : SortedSet Term}
    {entries : List (Location × Nat)} {hits : List Hit}
    (hentries : entries.Perm (index.countMatches mode terms.toList).entries)
    (hhits : hits.Perm (index.hitsOf entries)) (hordered : Hit.InOrder hits) :
    hits = index.search mode terms :=
  hordered.unique (Hit.inOrder_ranked _)
    ((hhits.trans (hentries.map _)).trans (index.perm_search mode terms).symm)

end Index

namespace Hit

/-- Comparing hits is comparing them in a total order. -/
structure Total (order : Hit → Hit → Ordering) : Prop where
  swap : ∀ a b, order a b = (order b a).swap
  trans : ∀ a b c, (order a b).isLE = true → (order b c).isLE = true →
    (order a c).isLE = true
  comparable : ∀ a b, (order a b).isLE = true ∨ (order b a).isLE = true
  /-- Hits tie if all there is to them is the same. -/
  eq_iff : ∀ a b, order a b = .eq ↔
    a.count = b.count ∧ a.share = b.share ∧ a.location = b.location

/-- Hits are ranked in a total order. So the hits of a search stand strictly one
behind the other, at different locations, and they do so in the one way in which
the hits for its matches can, in whatever order the matches are gone through and
however their hits are sorted. -/
theorem order_total_search_unique : Total order ∧
    ∀ (index : Index) (mode : Mode) (terms : SortedSet Term),
      ((index.search mode terms).Pairwise fun a b => order a b = .lt) ∧
      ((index.search mode terms).map location).Nodup ∧
      ∀ (entries : List (Location × Nat)) (hits : List Hit),
        entries.Perm (index.countMatches mode terms.toList).entries →
        hits.Perm (entries.map fun (location, count) =>
          ofCounts count (index.total location).toNat location) →
        (hits.Pairwise fun a b => (order a b).isLE = true) →
          hits = index.search mode terms := by
  constructor
  · constructor
    case swap => exact fun a b => OrientedCmp.eq_swap
    case trans => exact fun a b c => TransCmp.isLE_trans
    case comparable => exact isLE_total
    case eq_iff =>
        intro a b
        rw [order_eq_iff, ← Hit.mk.injEq]
  · intro index mode terms
    refine ⟨index.strict_search mode terms, index.nodup_search mode terms, ?_⟩
    intro entries hits hentries hhits hordered
    exact Index.search_unique hentries hhits hordered

/-- As many tokens each, at three locations. The first two are the same without
regard to case, though not of the same length. -/
def tiedIndex : Index :=
  .ofEdits (["İ", "i\u0307", "J"].map fun location =>
    .addAll ["cat"] location 1)

theorem search_tiedIndex :
    [("İ", 1), ("J", 1), ("i\u0307", 1)].Perm
      (tiedIndex.countMatches .exactly ["cat"]).entries ∧
    caseless "İ" = caseless "i\u0307" ∧
    [⟨1, Rank.one, "i\u0307"⟩, ⟨1, Rank.one, "İ"⟩, ⟨1, Rank.one, "J"⟩] =
      tiedIndex.search .exactly (SortedSet.ofList ["cat"]) := by
  have hentries : [("İ", 1), ("J", 1), ("i\u0307", 1)].Perm
      (tiedIndex.countMatches .exactly ["cat"]).entries := by decide +kernel
  have hunique := (order_total_search_unique.2 tiedIndex .exactly
    (SortedSet.ofList ["cat"])).2.2
  exact ⟨hentries, by decide +kernel,
    hunique _ _ hentries (by decide +kernel) (by decide +kernel)⟩

end Hit

end Concordance
