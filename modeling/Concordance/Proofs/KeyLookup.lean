import Concordance.Proofs.ExactHits
import Concordance.Proofs.HitOrder
import Concordance.Proofs.QueryKey
import Concordance.Proofs.RoomInvariants
import Concordance.Proofs.SettledLetters
import Concordance.Query.Inline

/-!
# Keys that are looked up as lines

The keys of all answered queries can be listed, but answers are looked up by
lines. A key that is looked up is read as a line: it is cut into its terms again,
of which cleaning leaves all but the order of accents, and each term is stemmed
as if it were a word. So a key leads to the query of its terms stemmed once more
(`Query.ofLine?_key`), and this is what is found under it, however the answers
came about (`Answers.ofLine_listed`).

A key finds its own hits for certain if stemming its terms once more makes no
difference, and only then. Not all stems are their own stems: what is left of
"horse" is "hors", and of that "hor".
-/

namespace Concordance

/-- A term that is read as a word and stemmed once more. -/
def restem (term : Term) : Term :=
  .ofList (Stem.stem (Text.canonicalOrder term.toList))

namespace Query

/-- The terms of a query, each stemmed once more. -/
def restemmed (query : Query) : Query :=
  ⟨SortedSet.ofList (query.terms.toList.map restem)⟩

/-- Queries that lines are. -/
def IsOfLine (query : Query) : Prop := ∃ line, ofLine? line = some query

variable {query : Query}

/-- Terms with a blank between them, each one word still, are stemmed again. -/
theorem terms_key (h : query.IsOfLine) :
    Concordance.terms query.key = query.terms.toList.map restem := by
  obtain ⟨line, hline⟩ := h
  have hone : ∀ term ∈ query.terms.toList,
      (Text.words (Text.clean term.toList)).map Stem.stem =
        [Stem.stem (Text.canonicalOrder term.toList)] := by
    intro term hterm
    rw [Text.words_clean_of_settled (isWord_of_mem_terms hline hterm)
      (settled_of_mem_terms ((mem_terms_iff hline).mp hterm)),
      List.map_singleton]
  have hwords : Text.words query.key.toList =
      query.terms.toList.map String.toList :=
    words_intercalate fun term => isWord_of_mem_terms hline
  rw [Concordance.terms, stems, Text.words_clean, hwords]
  generalize query.terms.toList = terms at hone
  induction terms with
  | nil => rfl
  | cons term terms ih =>
      rw [List.map_cons, List.flatMap_cons, List.map_append, List.map_append,
        hone term List.mem_cons_self,
        ih fun other hmem => hone other (List.mem_cons_of_mem _ hmem)]
      rfl

/-- A key, read as a line, is the query of its terms stemmed once more. -/
theorem ofLine?_key (h : query.IsOfLine) :
    ofLine? query.key = some query.restemmed := by
  have hterms := terms_key h
  obtain ⟨line, hline⟩ := h
  have hne : Concordance.terms query.key ≠ [] := by
    rw [hterms, ne_eq, List.map_eq_nil_iff]
    exact terms_ne_nil hline
  rw [ofLine?_of_ne_nil hne, termSet, hterms]
  rfl

theorem restemmed_eq (h : ∀ term ∈ query.terms.toList, restem term = term) :
    query.restemmed = query := by
  have hsame : query.terms.toList.map restem = query.terms.toList :=
    (List.map_congr_left h).trans (List.map_id _)
  have hterms : SortedSet.ofList (query.terms.toList.map restem) =
      query.terms := by
    apply SortedSet.ext_mem
    intro term
    rw [SortedSet.mem_toList_ofList, hsame]
  exact congrArg Query.mk hterms

end Query

/-! ## Answers of lines -/

namespace Answers

/-- Only queries that lines are have been answered. -/
def OfLines (answers : Answers) : Prop :=
  ∀ key ∈ answers.queries, ∃ query : Query, query.IsOfLine ∧ query.key = key

/-- What comes of looking up the key of an answered query. -/
structure Rereads (answers : Answers) (query : Query) : Prop where
  asked : query.IsOfLine
  reread : Query.ofLine? query.key = some query.restemmed
  found : answers.ofLine query.key =
    (answers.get? query.restemmed.key).getD []
  /-- Read as a line, a key is itself just when its terms are the same, stemmed
  once more. -/
  steady : query.restemmed.key = query.key ↔ query.restemmed = query
  own : query.restemmed.key = query.key →
    answers.get? query.key = some (answers.ofLine query.key)
  ownStems : (∀ term ∈ query.terms.toList, restem term = term) →
    answers.get? query.key = some (answers.ofLine query.key)

variable {answers : Answers} {query : Query}

theorem mem_queries {key : String} :
    key ∈ answers.queries ↔ (answers.get? key).isSome = true :=
  SortedMap.mem_keys

theorem ofLines_empty : OfLines .empty := nofun

theorem OfLines.insert (h : answers.OfLines) (hquery : query.IsOfLine)
    (hits : List Hit) : OfLines (answers.insert query.key hits) := by
  intro key hkey
  rw [mem_queries, SortedMap.get?_insert] at hkey
  split at hkey
  · next heq => exact ⟨query, hquery, heq.symm⟩
  · exact h key (mem_queries.mpr hkey)

theorem rereads (hquery : query.IsOfLine)
    (hlisted : query.key ∈ answers.queries) : answers.Rereads query := by
  have hreread := Query.ofLine?_key hquery
  have hfound : answers.ofLine query.key =
      (answers.get? query.restemmed.key).getD [] := by
    rw [ofLine, hreread]
  have hown : query.restemmed.key = query.key →
      answers.get? query.key = some (answers.ofLine query.key) := by
    intro hkey
    obtain ⟨hits, hhits⟩ := Option.isSome_iff_exists.mp (mem_queries.mp hlisted)
    rw [hfound, hkey, hhits, Option.getD_some]
  refine ⟨hquery, hreread, hfound, ⟨?_, congrArg Query.key⟩, hown, ?_⟩
  · intro hkey
    obtain ⟨line, hline⟩ := hquery
    exact Query.eq_of_key hline hreread hkey
  · intro hstems
    exact hown (congrArg Query.key (Query.restemmed_eq hstems))

end Answers

/-! ## Answers one after the other -/

/-- What lines make of queries that are answered one after the other, whatever
the index does meanwhile. -/
inductive InlineQueries.Reached : InlineQueries → Prop where
  | start (probe : Probe) : Reached ⟨probe, .empty⟩
  | submit {queries : InlineQueries} (h : Reached queries) (mode : Mode)
      (line : String) : Reached (queries.submit mode line).1
  | probe {queries : InlineQueries} (h : Reached queries) (probe : Probe) :
      Reached { queries with probe }

theorem InlineQueries.Reached.ofLines {queries : InlineQueries}
    (h : queries.Reached) : queries.answers.OfLines := by
  induction h with
  | start => exact Answers.ofLines_empty
  | submit h mode line ih =>
      unfold InlineQueries.submit
      split
      · exact ih
      · next query hline =>
          split
          · exact ih
          · split
            · exact ih
            · exact ih.insert ⟨line, hline⟩ _
  | probe h probe ih => exact ih

/-! ## Answers of many at once -/

/-- A lookup that has forgotten its line has a query that a line is. -/
def Lookup.HasLine (lookup : Lookup) : Prop :=
  match lookup.stage with
  | .ready query _ | .searching query _ | .found query _ _
  | .crashed query _ => query.IsOfLine
  | .fresh _ | .answered _ | .failed => True

theorem Lookup.keeps_hasLine :
    Keeps (fun desk => desk.cache.answers.OfLines) HasLine := by
  intro desk after lookup rest hstep hdesk hlookup
  cases hstep with
  | blank | cached | leave | answer | release | giveUp =>
      exact ⟨hdesk, trivial⟩
  | claim hline | persist hline => exact ⟨hdesk, _, hline⟩
  | begin | fail | find => exact ⟨hdesk, hlookup⟩
  | fill => exact ⟨Answers.OfLines.insert hdesk hlookup _, trivial⟩

theorem ReadingEvent.keeps_hasLine (event : ReadingEvent) :
    event.Keeps (fun desk => desk.cache.answers.OfLines) Lookup.HasLine := by
  cases event with
  | submit | call | pool | own => trivial
  | fail => exact fun hlookup => hlookup
  | probe => exact fun hdesk => hdesk

theorem ReadingRoom.ofLines_of_run? {workers : Nat} {index : Index}
    {events : List ReadingEvent} {room : ReadingRoom}
    (h : (start workers index).run? events = some room) :
    room.cache.answers.OfLines :=
  (holds_of_run? Lookup.keeps_hasLine h
    (fun event _ => event.keeps_hasLine)
    (holds_start workers Answers.ofLines_empty)).desk

/-! ## Listed keys -/

/-- Searched for a term that is somewhere, an index has a hit. -/
theorem Index.search_ne_nil {index : Index} {terms : SortedSet Term}
    {term : Term} {location : Location} (hterm : term ∈ terms.toList)
    (h : index.containsAt term location = true) :
    index.search .exactly terms ≠ [] := by
  have hcount := index.get?_countMatches_exactly terms.toList location
  rw [if_pos ⟨term, hterm, h⟩] at hcount
  have hhit : index.hit location _ ∈ index.search .exactly terms :=
    mem_search.mpr ⟨hcount, rfl⟩
  exact List.ne_nil_of_mem hhit

namespace Answers

/-- What lines make of answers, one after the other or many at once. -/
inductive Reached : Answers → Prop where
  | inline {queries : InlineQueries} (h : queries.Reached) :
      Reached queries.answers
  | room {workers : Nat} {index : Index} {events : List ReadingEvent}
      {room : ReadingRoom}
      (h : (ReadingRoom.start workers index).run? events = some room) :
      Reached room.cache.answers

theorem Reached.ofLines {answers : Answers} (h : answers.Reached) :
    answers.OfLines := by
  cases h with
  | inline h => exact h.ofLines
  | room h => exact ReadingRoom.ofLines_of_run? h

/-- Of a query that is another one when its terms are stemmed once more, the key
can be listed with hits and lead to none. -/
theorem exists_lost {query : Query} (hquery : query.IsOfLine)
    (h : query.restemmed ≠ query) :
    ∃ answers : Answers, answers.Reached ∧ query.key ∈ answers.queries ∧
      answers.get? query.key ≠ some (answers.ofLine query.key) := by
  obtain ⟨line, hline⟩ := hquery
  obtain ⟨term, hterm⟩ := List.exists_mem_of_ne_nil _ (Query.terms_ne_nil hline)
  let index := Index.empty.record ⟨term, "", 1⟩
  let queries := ((InlineQueries.ofIndex index).submit .exactly line).1
  have hanswers : queries.answers = SortedMap.insert .empty query.key
      (index.search .exactly query.terms) := by
    show ((InlineQueries.ofIndex index).submit .exactly line).1.answers = _
    rw [InlineQueries.submit, hline]
    rfl
  have hhits : queries.answers.get? query.key =
      some (index.search .exactly query.terms) := by
    rw [hanswers, SortedMap.get?_insert, if_pos rfl]
  have hlisted : query.key ∈ queries.answers.queries := by
    rw [mem_queries, hhits]
    rfl
  refine ⟨queries.answers, .inline (.submit (.start _) _ _), hlisted, ?_⟩
  obtain ⟨-, -, hfound, hsteady, -, -⟩ := rereads ⟨line, hline⟩ hlisted
  have hother : query.restemmed.key ≠ query.key :=
    fun hkey => h (hsteady.mp hkey)
  rw [hfound, hhits, hanswers, SortedMap.get?_insert, if_neg hother]
  intro hnone
  have hcontains : index.containsAt term "" = true :=
    (Index.containsAt_record ..).mpr (.inl ⟨rfl, rfl⟩)
  exact Index.search_ne_nil hterm hcontains (Option.some.inj hnone)

/-- A listed key that is looked up leads to its terms stemmed once more. It finds
its own hits in all answers that lines can make if these are the same terms, and
only then. -/
theorem ofLine_listed {answers : Answers} (h : answers.Reached) {key : String}
    (hkey : key ∈ answers.queries) :
    ∃ query, query.key = key ∧ answers.Rereads query ∧
      (query.restemmed = query ↔
        ∀ others : Answers, others.Reached → key ∈ others.queries →
          others.get? key = some (others.ofLine key)) := by
  obtain ⟨query, hquery, rfl⟩ := h.ofLines key hkey
  refine ⟨query, rfl, rereads hquery hkey, ?_⟩
  constructor
  · intro hsame others hothers hlisted
    exact (rereads hquery hlisted).own (congrArg Query.key hsame)
  · intro hall
    by_contra hother
    obtain ⟨others, hothers, hlisted, hlost⟩ := exists_lost hquery hother
    exact hlost (hall others hothers hlisted)

/-- Where the animals are. -/
def farm : Index := Index.empty.addAll (terms "horse cat") "a.txt" 1

/-- A worker answers one line, and a caller another. -/
def farmLines : List ReadingEvent :=
  [.submit .exactly "Cats", .pool (.enqueue none), .pool (.move 0),
    .call .exactly "horse", .own 0, .pool (.move 0), .own 0, .own 0, .own 0,
    .pool (.move 0), .pool (.move 0), .pool (.move 0)]

/-- The stem of "cats" is its own stem. -/
theorem ofLine_cat :
    (∃ queries : InlineQueries, queries.Reached ∧
      queries.answers.queries = ["cat"] ∧
      queries.answers.get? "cat" = some (queries.answers.ofLine "cat")) ∧
    ∃ room, (ReadingRoom.start 1 farm).run? farmLines = some room ∧
      room.cache.answers.queries = ["cat", "hors"] ∧
      room.cache.answers.get? "cat" = some (room.cache.answers.ofLine "cat") := by
  have hown : ∀ {answers : Answers} {query : Query}, query.key = "cat" →
      answers.Rereads query →
      answers.get? "cat" = some (answers.ofLine "cat") := by
    intro answers query hkey hrereads
    have hcat : (Query.ofLine? "cat").map Query.key = some "cat" := rfl
    have hreread := hrereads.reread
    rw [hkey] at hreread
    rw [hreread, ← hkey] at hcat
    rw [← hkey]
    exact hrereads.own (Option.some.inj hcat)
  constructor
  · have hreached := (InlineQueries.Reached.start (.ofIndex farm)).submit
      .exactly "Cats"
    have hlisted : "cat" ∈ (((InlineQueries.ofIndex farm).submit .exactly
        "Cats").1).answers.queries := by decide +kernel
    obtain ⟨query, hkey, hrereads, -⟩ :=
      ofLine_listed (.inline hreached) hlisted
    exact ⟨_, hreached, rfl, hown hkey hrereads⟩
  · have hrun : ∃ room, (ReadingRoom.start 1 farm).run? farmLines =
        some room ∧ room.cache.answers.queries = ["cat", "hors"] :=
      ⟨_, rfl, rfl⟩
    obtain ⟨room, hrun, hqueries⟩ := hrun
    have hlisted : "cat" ∈ room.cache.answers.queries := by
      rw [hqueries]
      exact List.mem_cons_self
    obtain ⟨query, hkey, hrereads, -⟩ := ofLine_listed (.room hrun) hlisted
    exact ⟨room, hrun, hqueries, hown hkey hrereads⟩

/-- The stem of "horse" is not: its key is listed and has hits, but leads to
none. -/
theorem ofLine_hors :
    (∃ queries : InlineQueries, queries.Reached ∧
      queries.answers.queries = ["hors"] ∧
      queries.answers.get? "hors" = some [⟨1, Rank.share 1 2, "a.txt"⟩] ∧
      queries.answers.ofLine "hors" = []) ∧
    ∃ room, (ReadingRoom.start 1 farm).run? farmLines = some room ∧
      room.cache.answers.queries = ["cat", "hors"] ∧
      room.cache.answers.get? "hors" = some [⟨1, Rank.share 1 2, "a.txt"⟩] ∧
      room.cache.answers.ofLine "hors" = [] := by
  constructor
  · exact ⟨_, (InlineQueries.Reached.start (.ofIndex farm)).submit
      .exactly "horse", rfl, rfl, rfl⟩
  · exact ⟨_, rfl, rfl, rfl, rfl⟩

end Answers

end Concordance
