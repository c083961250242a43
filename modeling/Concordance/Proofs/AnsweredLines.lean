import Mathlib.Data.List.Basic
import Concordance.Proofs.QueryKey
import Concordance.Query.Inline

/-!
# What a file of queries adds to the answers

Answers that are extended by some lines have, beside what they had before, the
hits of each query that one of the lines is and that had no answer yet. As two
queries never share a key this settles what the answers are:
`Extends.unique`. Going through the lines one after the other is one way to
extend the answers. Which lines there are is a matter of the line feeds alone:
the lines that are not empty are the longest parts of a file without one.
-/

namespace Concordance

/-! ## Lines of a file -/

namespace Text

/-- A part of a byte sequence that has no line feed in it and goes on until the
next on both sides, or to the end. -/
def IsSegment (bytes segment : List UInt8) : Prop :=
  ∃ before after, bytes = before ++ segment ++ after ∧ 0x0A ∉ segment ∧
    (before = [] ∨ ∃ front, before = front ++ [0x0A]) ∧
    (after = [] ∨ ∃ rest, after = 0x0A :: rest)

theorem byteLines_append {line : List UInt8} (h : 0x0A ∉ line)
    (rest : List UInt8) :
    byteLines (line ++ 0x0A :: rest) = line :: byteLines rest := by
  induction line with
  | nil => rfl
  | cons b line ih =>
      have hb : (b == 0x0A) = false := beq_eq_false_iff_ne.mpr fun heq =>
        h (heq ▸ List.mem_cons_self ..)
      have hline := ih fun hmem => h (List.mem_cons_of_mem _ hmem)
      obtain ⟨c, tail, htail⟩ : ∃ c tail, line ++ 0x0A :: rest = c :: tail := by
        cases line with
        | nil => exact ⟨_, _, rfl⟩
        | cons c line => exact ⟨_, _, rfl⟩
      rw [List.cons_append, htail, byteLines, hb, if_neg Bool.false_ne_true]
      rw [← htail, hline]

theorem byteLines_of_no_feed {line : List UInt8} (h : 0x0A ∉ line)
    (hne : line ≠ []) : byteLines line = [line] := by
  induction line with
  | nil => exact absurd rfl hne
  | cons b line ih =>
      have hb : (b == 0x0A) = false := beq_eq_false_iff_ne.mpr fun heq =>
        h (heq ▸ List.mem_cons_self ..)
      cases line with
      | nil => rw [byteLines, hb, if_neg Bool.false_ne_true]
      | cons c line =>
          rw [byteLines, hb, if_neg Bool.false_ne_true,
            ih (fun hmem => h (List.mem_cons_of_mem _ hmem)) (by simp)]

theorem line_ext {line other rest behind : List UInt8} (hline : 0x0A ∉ line)
    (hother : 0x0A ∉ other)
    (h : line ++ 0x0A :: rest = other ++ 0x0A :: behind) : line = other := by
  rcases List.append_eq_append_iff.mp h with
    ⟨more, rfl, hrest⟩ | ⟨more, rfl, hrest⟩
  all_goals
    rcases List.cons_eq_append_iff.mp hrest with ⟨rfl, -⟩ | ⟨tail, rfl, -⟩
    · simp
    · simp at hline hother

theorem isSegment_append_iff {line rest segment : List UInt8}
    (hline : 0x0A ∉ line) :
    IsSegment (line ++ 0x0A :: rest) segment ↔
      segment = line ∨ IsSegment rest segment := by
  constructor
  · rintro ⟨before, after, heq, hsegment, hbefore, hafter⟩
    rcases hbefore with rfl | ⟨front, rfl⟩
    · left
      rcases hafter with rfl | ⟨behind, rfl⟩
      · rw [List.nil_append, List.append_nil] at heq
        exact absurd (heq ▸ by simp) hsegment
      · rw [List.nil_append] at heq
        exact (line_ext hline hsegment heq).symm
    · right
      rw [List.append_assoc, List.append_assoc, List.singleton_append] at heq
      rcases List.append_eq_append_iff.mp heq with
        ⟨more, -, hrest⟩ | ⟨more, rfl, hrest⟩
      · rcases List.cons_eq_append_iff.mp hrest with
          ⟨rfl, hsame⟩ | ⟨tail, rfl, rfl⟩
        · rw [List.cons.injEq] at hsame
          exact ⟨[], after, hsame.2.symm, hsegment, .inl rfl, hafter⟩
        · refine ⟨tail ++ [0x0A], after, by simp, hsegment, ?_, hafter⟩
          exact .inr ⟨tail, rfl⟩
      · rcases List.cons_eq_append_iff.mp hrest with
          ⟨rfl, hsame⟩ | ⟨tail, rfl, -⟩
        · rw [List.cons.injEq] at hsame
          exact ⟨[], after, hsame.2, hsegment, .inl rfl, hafter⟩
        · simp at hline
  · rintro (rfl | ⟨before, after, rfl, hsegment, hbefore, hafter⟩)
    · exact ⟨[], 0x0A :: rest, by simp, hline, .inl rfl, .inr ⟨rest, rfl⟩⟩
    · refine ⟨line ++ 0x0A :: before, after, by simp, hsegment, .inr ?_, hafter⟩
      rcases hbefore with rfl | ⟨front, rfl⟩
      · exact ⟨line, rfl⟩
      · exact ⟨line ++ 0x0A :: front, by simp⟩

theorem isSegment_of_no_feed {bytes segment : List UInt8} (h : 0x0A ∉ bytes) :
    IsSegment bytes segment ↔ segment = bytes := by
  constructor
  · rintro ⟨before, after, rfl, hsegment, hbefore, hafter⟩
    rcases hbefore with rfl | ⟨front, rfl⟩
    · rcases hafter with rfl | ⟨rest, rfl⟩
      · simp
      · simp at h
    · simp at h
  · rintro rfl
    exact ⟨[], [], by simp, h, .inl rfl, .inl rfl⟩

/-- The lines of a byte sequence that are not empty are its longest parts
without a line feed. -/
theorem mem_byteLines {bytes segment : List UInt8} (hne : segment ≠ []) :
    segment ∈ byteLines bytes ↔ IsSegment bytes segment := by
  induction hlength : bytes.length using Nat.strong_induction_on
    generalizing bytes with
  | _ length ih =>
      by_cases hfeed : 0x0A ∈ bytes
      · obtain ⟨line, rest, rfl, hline⟩ := List.eq_append_cons_of_mem hfeed
        have hrest := ih rest.length
          (by rw [← hlength, List.length_append, List.length_cons]; omega) rfl
        rw [byteLines_append hline, List.mem_cons, hrest,
          isSegment_append_iff hline]
      · rw [isSegment_of_no_feed hfeed]
        by_cases hbytes : bytes = []
        · subst hbytes
          exact iff_of_false List.not_mem_nil hne
        · rw [byteLines_of_no_feed hfeed hbytes, List.mem_singleton]

end Text

/-! ## Lines and their queries -/

/-- One of the lines is the query. -/
def Asked (lines : List String) (query : Query) : Prop :=
  ∃ line ∈ lines, Query.ofLine? line = some query

theorem asked_cons {line : String} {lines : List String} {query : Query} :
    Asked (line :: lines) query ↔
      Query.ofLine? line = some query ∨ Asked lines query := by
  simp only [Asked, List.exists_mem_cons_iff]

theorem asked_singleton {line : String} {query : Query} :
    Asked [line] query ↔ Query.ofLine? line = some query := by
  rw [asked_cons]
  simp [Asked]

theorem Asked.eq_of_key {lines others : List String} {query found : Query}
    (hquery : Asked lines query) (hfound : Asked others found)
    (hkey : found.key = query.key) : found = query := by
  obtain ⟨line, -, hline⟩ := hquery
  obtain ⟨other, -, hother⟩ := hfound
  exact Query.eq_of_key hline hother hkey

/-- A query has a term, so it is no line of nothing. -/
theorem asked_textLines {lines : List (List UInt8)} {query : Query} :
    Asked (textLines lines) query ↔
      ∃ line ∈ lines, line ≠ [] ∧ ∃ text, Text.Utf8.decode? line = some text ∧
        Query.ofLine? (.ofList text) = some query := by
  constructor
  · rintro ⟨text, htext, hquery⟩
    obtain ⟨line, hline, hdecode⟩ := List.mem_filterMap.mp htext
    obtain ⟨chars, hchars, rfl⟩ := Option.map_eq_some_iff.mp hdecode
    refine ⟨line, hline, ?_, chars, hchars, hquery⟩
    rintro rfl
    cases hchars
    rw [Query.ofLine?_of_blank rfl] at hquery
    cases hquery
  · rintro ⟨line, hline, -, text, hdecode, hquery⟩
    refine ⟨_, List.mem_filterMap.mpr ⟨line, hline, ?_⟩, hquery⟩
    rw [hdecode]
    rfl

/-- The queries of a file are those of its segments that are text. -/
theorem asked_byteLines {content : List UInt8} {query : Query} :
    Asked (textLines (Text.byteLines content)) query ↔
      ∃ segment text, Text.IsSegment content segment ∧
        Text.Utf8.decode? segment = some text ∧
        Query.ofLine? (.ofList text) = some query := by
  rw [asked_textLines]
  constructor
  · rintro ⟨line, hline, hne, text, hdecode, hquery⟩
    exact ⟨line, text, (Text.mem_byteLines hne).mp hline, hdecode, hquery⟩
  · rintro ⟨segment, text, hsegment, hdecode, hquery⟩
    have hne : segment ≠ [] := by
      rintro rfl
      cases hdecode
      rw [Query.ofLine?_of_blank rfl] at hquery
      cases hquery
    exact ⟨segment, (Text.mem_byteLines hne).mpr hsegment, hne, text, hdecode,
      hquery⟩

/-! ## Extended answers -/

namespace Answers

/-- The key had no answer and is that of a query which one of the lines is, and
the hits are those of its search. -/
def Adds (index : Index) (mode : Mode) (lines : List String)
    (before : Answers) (key : String) (hits : List Hit) : Prop :=
  before.get? key = none ∧ ∃ query, Asked lines query ∧ query.key = key ∧
    hits = index.search mode query.terms

/-- The answers have what there was and what the lines add, and nothing else. -/
def Extend (index : Index) (mode : Mode) (lines : List String)
    (before after : Answers) : Prop :=
  ∀ key hits, after.get? key = some hits ↔
    before.get? key = some hits ∨ Adds index mode lines before key hits

variable {index : Index} {mode : Mode} {lines : List String}
  {before mid after other : Answers}

/-- There is only one way to be extended by lines. -/
theorem Extend.unique (h : Extend index mode lines before after)
    (hother : Extend index mode lines before other) : after = other := by
  apply SortedMap.ext_get?
  intro key
  apply Option.ext
  intro hits
  exact (h key hits).trans (hother key hits).symm

theorem Extend.congr {others : List String}
    (h : Extend index mode lines before after)
    (hasked : ∀ query, Asked lines query ↔ Asked others query) :
    Extend index mode others before after := by
  intro key hits
  simpa only [Adds, hasked] using h key hits

theorem extend_nil : Extend index mode [] before before := by
  intro key hits
  refine ⟨.inl, ?_⟩
  rintro (hbefore | ⟨-, query, ⟨line, hline, -⟩, -⟩)
  · exact hbefore
  · cases hline

/-- A line that is no query adds nothing. -/
theorem extend_of_blank {line : String} (hline : Query.ofLine? line = none) :
    Extend index mode [line] before before := by
  refine extend_nil.congr fun query => ?_
  rw [asked_singleton, hline]
  simp [Asked]

/-- A line that is an answered query adds nothing. -/
theorem extend_of_contains {line : String} {query : Query}
    (hline : Query.ofLine? line = some query)
    (hcontains : before.contains query.key = true) :
    Extend index mode [line] before before := by
  intro key hits
  refine ⟨.inl, ?_⟩
  rintro (hbefore | ⟨hnone, found, hfound, rfl, -⟩)
  · exact hbefore
  · rw [asked_singleton, hline, Option.some.injEq] at hfound
    rw [← hfound] at hnone
    rw [SortedMap.contains, hnone] at hcontains
    cases hcontains

/-- A line that is any other query adds its hits. -/
theorem extend_insert {line : String} {query : Query}
    (hline : Query.ofLine? line = some query)
    (hcontains : ¬before.contains query.key = true) :
    Extend index mode [line] before
      (before.insert query.key (index.search mode query.terms)) := by
  have hnone : before.get? query.key = none := by
    rwa [SortedMap.contains, Bool.not_eq_true, Option.isSome_eq_false_iff,
      Option.isNone_iff_eq_none] at hcontains
  intro key hits
  rw [SortedMap.get?_insert]
  constructor
  · intro h
    split at h
    · next hkey =>
        subst hkey
        exact .inr ⟨hnone, query, asked_singleton.mpr hline, rfl,
          (Option.some.inj h).symm⟩
    · exact .inl h
  · rintro (hbefore | ⟨-, found, hfound, rfl, rfl⟩)
    · rw [if_neg, hbefore]
      rintro rfl
      rw [hnone] at hbefore
      cases hbefore
    · rw [asked_singleton, hline, Option.some.injEq] at hfound
      rw [hfound, if_pos rfl]

/-- Answers that are extended by a line and then by others are extended by all
of them. -/
theorem Extend.cons {line : String} (h : Extend index mode [line] before mid)
    (hrest : Extend index mode lines mid after) :
    Extend index mode (line :: lines) before after := by
  intro key hits
  rw [hrest key hits, h key hits]
  constructor
  · rintro ((hbefore | ⟨hnone, query, hasked, hkey⟩) |
      ⟨hmid, query, hasked, hkey⟩)
    · exact .inl hbefore
    · have hline := asked_singleton.mp hasked
      exact .inr ⟨hnone, query, asked_cons.mpr (.inl hline), hkey⟩
    · refine .inr ⟨?_, query, asked_cons.mpr (.inr hasked), hkey⟩
      cases hbefore : before.get? key with
      | none => rfl
      | some found =>
          rw [(h key found).mpr (.inl hbefore)] at hmid
          cases hmid
  · rintro (hbefore | ⟨hnone, query, hasked, rfl, rfl⟩)
    · exact .inl (.inl hbefore)
    · cases hmid : mid.get? query.key with
      | none =>
          refine .inr ⟨hmid, query, ?_, rfl, rfl⟩
          refine (asked_cons.mp hasked).resolve_left fun hline => ?_
          have hfilled := (h query.key (index.search mode query.terms)).mpr
            (.inr ⟨hnone, query, asked_singleton.mpr hline, rfl, rfl⟩)
          rw [hmid] at hfilled
          cases hfilled
      | some found =>
          refine .inl (.inr ⟨hnone, query, ?_, rfl, rfl⟩)
          rcases (h query.key found).mp hmid with
            hbefore | ⟨-, same, hsame, hkey, -⟩
          · rw [hnone] at hbefore
            cases hbefore
          · rw [hasked.eq_of_key hsame hkey] at hsame
            exact hsame

end Answers

/-! ## One line after the other -/

namespace InlineQueries

open Answers (Extend)

/-- As long as searches do not fail a line extends the answers. -/
theorem submit_extend {queries : InlineQueries}
    (hfailures : queries.probe.failures = 0) (mode : Mode) (line : String) :
    ∃ next, queries.submit mode line = (next, true) ∧
      next.probe.failures = 0 ∧ next.probe.index = queries.probe.index ∧
      Extend queries.probe.index mode [line] queries.answers next.answers := by
  unfold submit
  cases hline : Query.ofLine? line with
  | none =>
      exact ⟨queries, rfl, hfailures, rfl, Answers.extend_of_blank hline⟩
  | some query =>
      dsimp only
      split
      · next hcontains =>
          refine ⟨queries, rfl, hfailures, rfl, ?_⟩
          exact Answers.extend_of_contains hline hcontains
      · next hcontains =>
          have hbegin : queries.probe.begin =
              ({ queries.probe with
                  searches := queries.probe.searches + 1, failures := 0 },
                true) := by
            rw [Probe.begin, hfailures]
            rfl
          rw [hbegin]
          exact ⟨_, rfl, rfl, rfl, Answers.extend_insert hline hcontains⟩

theorem submitAll_extend (mode : Mode) (lines : List String) :
    ∀ {queries : InlineQueries}, queries.probe.failures = 0 →
      (queries.submitAll mode lines).2 = true ∧
      Extend queries.probe.index mode lines queries.answers
        (queries.submitAll mode lines).1.answers := by
  induction lines with
  | nil => exact fun _ => ⟨rfl, Answers.extend_nil⟩
  | cons line lines ih =>
      intro queries hfailures
      obtain ⟨next, hsubmit, hnext, hindex, hextend⟩ :=
        submit_extend hfailures mode line
      obtain ⟨hgood, hrest⟩ := ih hnext
      rw [hindex] at hrest
      rw [submitAll, hsubmit]
      exact ⟨hgood, hextend.cons hrest⟩

/-- A file of queries extends the answers by the lines that could be read. -/
theorem takeFile_extend {queries : InlineQueries}
    (hfailures : queries.probe.failures = 0) (mode : Mode) (tree : Tree)
    (path : String) :
    (queries.takeFile mode tree path).1.2 = true ∧
      (queries.takeFile mode tree path).2 = (tree.queryFile path).error? ∧
      Extend queries.probe.index mode (tree.queryFile path).lines
        queries.answers (queries.takeFile mode tree path).1.1.answers := by
  obtain ⟨hgood, hextend⟩ :=
    submitAll_extend mode (tree.queryFile path).lines hfailures
  refine ⟨hgood, ?_, hextend⟩
  rw [takeFile]
  dsimp only
  rw [hgood, if_pos rfl]

end InlineQueries

end Concordance
