import Concordance.Index.Edit
import Concordance.Proofs.ByteOrder
import Concordance.Proofs.HitOrder
import Concordance.Proofs.MatchCounts

/-!
# What a partial search finds

A partial search does not look at all the terms of an index. For each beginning
it skips those that are below it, and then reads on until the first that does
not begin so. That this misses nothing is a fact of the byte order alone. A text
is not below its own beginning, and whatever stands between a beginning and a
text that begins so begins so too (`beginsWith_of_between`). So the terms with
one beginning stand in one run, right where the reading starts, and reading the
run is the same as looking at all terms (`map_fst_termsFrom`).

What is left is to add up: `get?_countMatches_partially`.
-/

namespace Concordance

open Std (TransCmp OrientedCmp LawfulEqCmp)

/-- The bytes of a term begin with those of another. -/
def BeginsWith (term beginning : Term) : Prop :=
  Text.Utf8.encode beginning.toList <+: Text.Utf8.encode term.toList

instance (term beginning : Term) : Decidable (BeginsWith term beginning) :=
  inferInstanceAs (Decidable (_ <+: _))

/-- Which is to say that its characters do. -/
theorem beginsWith_iff {term beginning : Term} :
    BeginsWith term beginning ↔ beginning.toList <+: term.toList :=
  Text.Utf8.encode_prefix_iff

/-! ## Where terms with one beginning stand -/

theorem compare_ne_lt_of_prefix {bytes longer : List UInt8}
    (h : bytes <+: longer) : compare longer bytes ≠ .lt := by
  obtain ⟨rest, rfl⟩ := h
  have hnil := Text.Utf8.compare_append_left bytes rest []
  rw [List.append_nil] at hnil
  rw [hnil]
  cases rest <;> simp

theorem prefix_of_between {bytes between longer : List UInt8}
    (hfrom : compare between bytes ≠ .lt)
    (hto : compare between longer = .lt) (h : bytes <+: longer) :
    bytes <+: between := by
  induction bytes generalizing between longer with
  | nil => exact List.nil_prefix
  | cons byte bytes ih =>
      obtain ⟨rest, rfl⟩ := h
      cases between with
      | nil => exact absurd rfl hfrom
      | cons other between =>
          rw [List.cons_append, List.compare_cons_cons] at hto
          rw [List.compare_cons_cons] at hfrom
          -- Where the first bytes differ, it stands outside on one side.
          cases hbyte : compare other byte with
          | lt => exact absurd (by rw [hbyte]; rfl) hfrom
          | gt => rw [hbyte] at hto; cases hto
          | eq =>
              rw [hbyte, Ordering.then] at hfrom hto
              rw [LawfulEqCmp.eq_of_compare hbyte, List.prefix_cons_inj]
              exact ih hfrom hto (List.prefix_append bytes rest)

theorem compare_ne_lt_of_beginsWith {term beginning : Term}
    (h : BeginsWith term beginning) : compare term beginning ≠ .lt := by
  rw [Text.Utf8.compare_encode]
  exact compare_ne_lt_of_prefix h

theorem beginsWith_of_between {beginning between term : Term}
    (hfrom : compare between beginning ≠ .lt)
    (hto : compare between term = .lt) (h : BeginsWith term beginning) :
    BeginsWith between beginning := by
  rw [Text.Utf8.compare_encode] at hfrom hto
  exact prefix_of_between hfrom hto h

/-! ## Reading a run -/

section

variable {α : Type} {below sought : α → Bool} {xs : List α}

/-- What comes before all the rest is found by reading up to its end. -/
theorem takeWhile_eq_filter
    (h : xs.Pairwise fun x y => sought y = true → sought x = true) :
    xs.takeWhile sought = xs.filter sought := by
  induction xs with
  | nil => rfl
  | cons x xs ih =>
      obtain ⟨hx, hxs⟩ := List.pairwise_cons.mp h
      by_cases hsought : sought x = true
      · rw [List.takeWhile_cons_of_pos hsought,
          List.filter_cons_of_pos hsought, ih hxs]
      · have hnone : xs.filter sought = [] :=
          List.filter_eq_nil_iff.mpr fun y hy hyes => hsought (hx y hy hyes)
        rw [List.takeWhile_cons_of_neg hsought,
          List.filter_cons_of_neg hsought, hnone]

/-- What is sought is found by skipping what is below and reading up to its end,
if all that is below comes first, none of it is sought, and of the rest the
sought comes first. -/
theorem takeWhile_dropWhile_eq_filter
    (hbelow : xs.Pairwise fun x y => below y = true → below x = true)
    (hsought : ∀ x ∈ xs, sought x = true → ¬below x = true)
    (hrun : xs.Pairwise fun x y =>
      ¬below x = true → sought y = true → sought x = true) :
    (xs.dropWhile below).takeWhile sought = xs.filter sought := by
  induction xs with
  | nil => rfl
  | cons x xs ih =>
      obtain ⟨hx, hrest⟩ := List.forall_mem_cons.mp hsought
      by_cases hxbelow : below x = true
      · have hnot : ¬sought x = true := fun hyes => hx hyes hxbelow
        rw [List.dropWhile_cons_of_pos hxbelow, List.filter_cons_of_neg hnot]
        exact ih (List.pairwise_cons.mp hbelow).2 hrest
          (List.pairwise_cons.mp hrun).2
      · have habove : ∀ y ∈ x :: xs, ¬below y = true :=
          List.forall_mem_cons.mpr ⟨hxbelow, fun y hy hyes =>
            hxbelow ((List.pairwise_cons.mp hbelow).1 y hy hyes)⟩
        rw [List.dropWhile_cons_of_neg hxbelow]
        apply takeWhile_eq_filter
        exact hrun.imp_of_mem fun hmem _ himp => himp (habove _ hmem)

end

namespace Index

theorem termsFrom_eq (index : Index) (beginning : Term) :
    index.termsFrom beginning = index.postings.entries.filter fun entry =>
      BeginsWith entry.1 beginning := by
  have hsought : (fun entry : Term × Occurrences =>
      beginning.toList.isPrefixOf entry.1.toList) =
      fun entry => decide (BeginsWith entry.1 beginning) := by
    funext entry
    rw [Bool.eq_iff_iff, List.isPrefixOf_iff_prefix, decide_eq_true_eq,
      beginsWith_iff]
  rw [termsFrom, SortedMap.entriesFrom, hsought]
  apply takeWhile_dropWhile_eq_filter
  · refine index.postings.sorted.imp fun hlt => ?_
    simp only [beq_iff_eq]
    exact fun hbelow => TransCmp.lt_trans hlt hbelow
  · intro entry _
    simp only [beq_iff_eq, decide_eq_true_eq]
    exact compare_ne_lt_of_beginsWith
  · refine index.postings.sorted.imp fun hlt => ?_
    simp only [beq_iff_eq, decide_eq_true_eq]
    exact fun hfrom hbegins => beginsWith_of_between hfrom hlt hbegins

/-- The terms that are read for a beginning are those, among all there are, that
begin so. -/
theorem map_fst_termsFrom (index : Index) (beginning : Term) :
    (index.termsFrom beginning).map Prod.fst =
      index.words.filter fun word => BeginsWith word beginning := by
  rw [termsFrom_eq, words, SortedMap.keys, List.filter_map]
  rfl

/-! ## Adding up -/

theorem occurrences_of_mem_termsFrom {index : Index} {beginning : Term}
    {entry : Term × Occurrences} (h : entry ∈ index.termsFrom beginning) :
    index.occurrences entry.1 = entry.2 := by
  rw [termsFrom_eq] at h
  have hget : index.postings.get? entry.1 = some entry.2 :=
    SortedMap.get?_eq_some_iff.mpr (List.mem_of_mem_filter h)
  rw [occurrences, hget]
  rfl

/-- A location is among the matches of a partial search if a term occurs there
that begins with one of those sought. Each of these adds the positions of all
terms that begin with it, whichever others they begin with. -/
theorem get?_countMatches_partially (index : Index) (beginnings : List Term)
    (location : Location) :
    (index.countMatches .partially beginnings).get? location =
      if ∃ beginning ∈ beginnings, ∃ word ∈ index.words,
          BeginsWith word beginning ∧ index.containsAt word location = true then
        some (beginnings.map fun beginning =>
          ((index.words.filter fun word => BeginsWith word beginning).map
            (index.positionCount · location)).sum).sum
      else none := by
  have hat : ∀ beginning, (∃ entry ∈ index.matching .partially beginning,
      entry.2.contains location = true) ↔
        ∃ word ∈ index.words, BeginsWith word beginning ∧
          index.containsAt word location = true := by
    intro beginning
    have hwords : ∀ word, word ∈ (index.termsFrom beginning).map Prod.fst ↔
        word ∈ index.words ∧ BeginsWith word beginning := by
      intro word
      rw [map_fst_termsFrom, List.mem_filter, decide_eq_true_eq]
    constructor
    · rintro ⟨entry, hentry, hcontains⟩
      obtain ⟨hword, hbegins⟩ := (hwords entry.1).mp
        (List.mem_map_of_mem hentry)
      refine ⟨entry.1, hword, hbegins, ?_⟩
      rw [containsAt, occurrences_of_mem_termsFrom hentry]
      exact hcontains
    · rintro ⟨word, hword, hbegins, hcontains⟩
      obtain ⟨entry, hentry, rfl⟩ := List.mem_map.mp
        ((hwords word).mpr ⟨hword, hbegins⟩)
      rw [containsAt, occurrences_of_mem_termsFrom hentry] at hcontains
      exact ⟨entry, hentry, hcontains⟩
  have hcount : ∀ beginning, (index.matching .partially beginning).map
      (·.2.countAt location) =
      (index.words.filter fun word => BeginsWith word beginning).map
        (index.positionCount · location) := by
    intro beginning
    rw [← map_fst_termsFrom, List.map_map]
    apply List.map_congr_left
    intro entry hentry
    rw [Function.comp_apply, positionCount, positionSet,
      occurrences_of_mem_termsFrom hentry]
    rfl
  rw [get?_countMatches]
  simp only [hat, hcount]

/-- The hits are those that looking at every term of the index gives. -/
structure FindsBeginnings (index : Index) (beginnings : List Term)
    (hits : List Hit) : Prop where
  ordered : hits.Pairwise fun a b => Hit.order a b = .lt
  once : (hits.map Hit.location).Nodup
  found : ∀ location, location ∈ hits.map Hit.location ↔
    ∃ beginning ∈ beginnings, ∃ word ∈ index.words,
      BeginsWith word beginning ∧ index.containsAt word location = true
  /-- A term counts for each beginning that it has. -/
  count : ∀ hit ∈ hits, hit.count =
    (beginnings.map fun beginning =>
      ((index.words.filter fun word => BeginsWith word beginning).map
        (index.positionCount · hit.location)).sum).sum
  share : ∀ hit ∈ hits,
    hit.share = Rank.share hit.count (index.total hit.location).toNat

/-- Whatever an index holds, a partial search reads for each beginning the terms
that have it, all of them and no others, and finds what looking at every term
finds. -/
theorem search_partially (index : Index) (beginnings : SortedSet Term) :
    (∀ beginning, (index.termsFrom beginning).map Prod.fst =
      index.words.filter fun word => BeginsWith word beginning) ∧
    index.FindsBeginnings beginnings.toList
      (index.search .partially beginnings) := by
  have hget := index.get?_countMatches_partially beginnings.toList
  refine ⟨index.map_fst_termsFrom, ?_⟩
  constructor
  case ordered => exact index.strict_search .partially beginnings
  case once => exact index.nodup_search .partially beginnings
  case found =>
      intro location
      rw [List.mem_map]
      constructor
      · rintro ⟨hit, hhit, rfl⟩
        have hcount := (mem_search.mp hhit).1
        rw [hget] at hcount
        split at hcount
        · next hfound => exact hfound
        · cases hcount
      · intro hfound
        have hcount := (hget location).trans (if_pos hfound)
        exact ⟨index.hit location _, mem_search.mpr ⟨hcount, rfl⟩, rfl⟩
  case count =>
      intro hit hhit
      have hcount := (mem_search.mp hhit).1
      rw [hget] at hcount
      split at hcount
      · exact (Option.some.inj hcount).symm
      · cases hcount
  case share => exact fun hit hhit => (mem_search.mp hhit).2

/-- Two words have the letter of two bytes, and one of them is itself sought. -/
example : (ofEdits [.addAll ["cat", "ça", "çad", "dog"] "x" 1]).search
    .partially (SortedSet.ofList ["ç", "ça"]) = [⟨4, Rank.one, "x"⟩] := by
  decide +kernel

end Index

end Concordance
