import Mathlib.Data.List.Basic
import Concordance.Index.Report
import Concordance.Proofs.ByteOrder
import Concordance.Proofs.DocumentText
import Concordance.Proofs.IndexRecords

/-!
# What is written of an index tells the index

Two indexes are written alike only if they have the same tokens at the same
positions, and their totals only if all locations have the same ones. Three steps
lead from the text back to what was recorded. A text is that of one document
(`Json.pretty_injective`). From the document the maps can be read, since each map
was written entry by entry. And a map of the index has no entry but for what was
recorded (`Index.Full`): a term without a location, or a location without a
position, would be written, although no look-up tells of it.

What is in a map is in rising order, so it is written in this order. Keys are
written and compared as texts; their bytes are in the same order
(`Text.Utf8.compare_encode`).
-/

namespace Concordance

universe u v

open Json (Document)

/-! ## Documents in rising order -/

/-- Numbers of a list, and keys of an object by their bytes, are in strictly
rising order, here and in all documents inside this one. -/
inductive Json.Document.Rising : Document → Prop
  | number (n : Nat) : Rising (.number n)
  | list {numbers : List Nat} (hnumbers : numbers.Pairwise (· < ·)) :
      Rising (.list (numbers.map .number))
  | object {members : List (String × Document)}
      (hkeys : members.Pairwise fun a b =>
        compare (Text.Utf8.encode a.1.toList) (Text.Utf8.encode b.1.toList) = .lt)
      (hvalues : ∀ member ∈ members, Rising member.2) :
      Rising (.object members)

/-- A text that is written of one document and of no other, and all is in rising
order there. -/
def Json.ReadsRising (text : String) : Prop :=
  ∃ document : Document, document.Rising ∧
    ∀ other : Document, other.pretty = text ↔ other = document

theorem Json.Document.Rising.readsRising {document : Document} (h : document.Rising) :
    Json.ReadsRising document.pretty :=
  ⟨document, h, fun _ => Json.pretty_injective.eq_iff⟩

/-- A map whose values rise is written as a document that rises. -/
theorem rising_entries {α : Type u} (map : SortedMap String α) {value : α → Document}
    (hvalue : ∀ x, (value x).Rising) :
    (Document.object (map.entries.map fun entry => (entry.1, value entry.2))).Rising := by
  apply Document.Rising.object
  · refine List.pairwise_map.mpr (map.sorted.imp fun hlt => ?_)
    rwa [← Text.Utf8.compare_encode]
  · intro member hmember
    obtain ⟨entry, -, rfl⟩ := List.mem_map.mp hmember
    exact hvalue entry.2

theorem SortedMap.entries_inj {α : Type u} {β : Type v} [Ord α]
    {map other : SortedMap α β} (h : map.entries = other.entries) : map = other := by
  obtain ⟨entries, _⟩ := map
  obtain ⟨others, _⟩ := other
  obtain rfl : entries = others := h
  rfl

/-- A map is told by what is written of it, if its values are. -/
theorem entries_injective {α : Type u} {value : α → Document}
    (hvalue : Function.Injective value) :
    Function.Injective fun map : SortedMap String α =>
      Document.object (map.entries.map fun entry => (entry.1, value entry.2)) := by
  intro map other h
  have hentry : Function.Injective fun entry : String × α => (entry.1, value entry.2) := by
    intro entry entry' heq
    obtain ⟨hkey, hmember⟩ := Prod.mk.inj heq
    exact Prod.ext hkey (hvalue hmember)
  exact SortedMap.entries_inj
    (List.map_injective_iff.mpr hentry (Document.object.inj h))

theorem SortedSet.toList_injective {α : Type u} [Ord α] :
    Function.Injective (toList : SortedSet α → List α) := by
  intro set other h
  have hfst : Function.Injective (Prod.fst : α × Unit → α) := by
    intro x y heq
    exact Prod.ext heq rfl
  exact SortedMap.entries_inj (List.map_injective_iff.mpr hfst h)

/-! ## Positions, occurrences, totals -/

def positionsDocument (positions : SortedSet Nat) : Document :=
  .list (positions.toList.map .number)

theorem rising_positionsDocument (positions : SortedSet Nat) :
    (positionsDocument positions).Rising :=
  .list (positions.pairwise_keys.imp Nat.compare_eq_lt.mp)

theorem positionsDocument_injective : Function.Injective positionsDocument := by
  intro positions others h
  have hnumber : Function.Injective Document.number := fun _ _ => Document.number.inj
  exact SortedSet.toList_injective
    (List.map_injective_iff.mpr hnumber (Document.list.inj h))

theorem Occurrences.document_injective : Function.Injective Occurrences.document :=
  entries_injective positionsDocument_injective

namespace Index

theorem rising_document (index : Index) : index.document.Rising :=
  rising_entries index.postings fun occurrences =>
    rising_entries occurrences rising_positionsDocument

theorem rising_totalsDocument (index : Index) : index.totalsDocument.Rising :=
  rising_entries index.totals fun total => .number total.toNat

theorem report_eq_iff_postings {index other : Index} :
    index.report = other.report ↔ index.postings = other.postings :=
  Json.pretty_injective.eq_iff.trans
    (entries_injective Occurrences.document_injective).eq_iff

theorem totalsReport_eq_iff {index other : Index} :
    index.totalsReport = other.totalsReport ↔ index.totals = other.totals := by
  have htotal : Function.Injective fun total : UInt64 => Document.number total.toNat :=
    fun _ _ h => UInt64.toNat_inj.mp (Document.number.inj h)
  exact Json.pretty_injective.eq_iff.trans (entries_injective htotal).eq_iff

end Index

/-! ## Look-ups tell the postings -/

/-- Where no empty map is kept, it makes no difference whether an empty map or none
is found. -/
theorem SortedMap.eq_of_getD_eq {α : Type u} {β : Type v} [Ord α]
    {found other : Option (SortedMap α β)}
    (hfound : ∀ map, found = some map → map.isEmpty = false)
    (hother : ∀ map, other = some map → map.isEmpty = false)
    (h : found.getD .empty = other.getD .empty) : found = other := by
  cases found with
  | none =>
      cases other with
      | none => rfl
      | some map =>
          have hmap := hother map rfl
          rw [← show SortedMap.empty = map from h] at hmap
          cases hmap
  | some map =>
      cases other with
      | none =>
          have hmap := hfound map rfl
          rw [show map = SortedMap.empty from h] at hmap
          cases hmap
      | some others => exact congrArg some h

namespace Index

variable {index other : Index}

theorem Full.positions_ne_empty (h : index.Full) {t : Term} {l : Location}
    {positions : SortedSet Nat} (hfound : (index.occurrences t).get? l = some positions) :
    SortedMap.isEmpty positions = false := by
  unfold occurrences at hfound
  cases hterm : index.postings.get? t with
  | none =>
      rw [hterm] at hfound
      cases hfound
  | some occurrences =>
      rw [hterm] at hfound
      exact (h t occurrences hterm).2 l positions hfound

/-- Two indexes that keep nothing empty have the same postings where they have the
same tokens. -/
theorem Full.postings_eq_iff (h : index.Full) (hother : other.Full) :
    index.postings = other.postings ↔
      ∀ t l p, index.containsPosition t l p = other.containsPosition t l p := by
  constructor
  · intro heq t l p
    unfold containsPosition positionSet occurrences
    rw [heq]
  · intro hcontains
    have hpositions : ∀ t l, index.positionSet t l = other.positionSet t l :=
      fun t l => SortedMap.ext_contains (hcontains t l)
    have hoccurrences : ∀ t, index.occurrences t = other.occurrences t :=
      fun t => SortedMap.ext_get? fun l =>
        SortedMap.eq_of_getD_eq (fun _ => h.positions_ne_empty)
          (fun _ => hother.positions_ne_empty) (hpositions t l)
    exact SortedMap.ext_get? fun t =>
      SortedMap.eq_of_getD_eq (fun occurrences hfound => (h t occurrences hfound).1)
        (fun occurrences hfound => (hother t occurrences hfound).1) (hoccurrences t)

theorem full_ofEdits (edits : List Edit) : (ofEdits edits).Full := by
  have hempty : Index.empty.Full := fun t occurrences h => by cases h
  rw [ofEdits_eq]
  exact full_recordAll _ hempty

/-- What is written of two indexes that were put together by edits is the same just
if they have the same tokens at the same positions, and what is written of their
totals is the same just if each location is counted alike in both. Each text can be
read in one way only, and what is read there is in rising order. -/
theorem reports_ofEdits (edits others : List Edit) :
    ((ofEdits edits).report = (ofEdits others).report ↔
      ∀ t l p, (ofEdits edits).containsPosition t l p =
        (ofEdits others).containsPosition t l p) ∧
    ((ofEdits edits).totalsReport = (ofEdits others).totalsReport ↔
      ∀ l, (ofEdits edits).totals.get? l = (ofEdits others).totals.get? l) ∧
    Json.ReadsRising (ofEdits edits).report ∧
    Json.ReadsRising (ofEdits edits).totalsReport := by
  refine ⟨?_, ?_, (rising_document _).readsRising, (rising_totalsDocument _).readsRising⟩
  · rw [report_eq_iff_postings]
    exact (full_ofEdits edits).postings_eq_iff (full_ofEdits others)
  · rw [totalsReport_eq_iff]
    exact ⟨fun heq l => by rw [heq], SortedMap.ext_get?⟩

/-- A quotation mark is a term like any other, and a line feed a location. -/
example : (ofEdits [.add "\"" "\n" 3]).report =
    "\x7b\n  \"\\\"\": \x7b\n    \"\\n\": [\n      3\n    ]\n  \x7d\n\x7d" := by
  decide

end Index

end Concordance
