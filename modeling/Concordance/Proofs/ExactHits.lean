import Concordance.Index.Search
import Concordance.Proofs.LineTerms
import Concordance.Proofs.MatchCounts
import Concordance.Proofs.PooledBuild

/-!
# What an exact search of indexed files finds

The matches that a search counts are positions, of which an index keeps a set,
while the total of a file counts tokens. The two are the same number of things
only because the tokens of a file are recorded at positions of their own. That
is where files with different paths come in: the records at a path are then one
run of terms at rising positions (`filter_fileRecords`).

With that, what a search adds up for a file is the number of its tokens among
the terms sought, since each term is sought once and a token is one term. A file
without such a token is in no way among the matches.
-/

namespace Concordance

/-! ## Terms matched exactly -/

/-- A location is among the matches of an exact search if one of the terms
occurs there, with as many matches as they all have positions. -/
theorem Index.get?_countMatches_exactly (index : Index) (terms : List Term)
    (location : Location) :
    (index.countMatches .exactly terms).get? location =
      if ∃ term ∈ terms, index.containsAt term location = true then
        some (terms.map (index.positionCount · location)).sum
      else none := by
  have hat : ∀ term, (∃ entry ∈ index.matching .exactly term,
      entry.2.contains location = true) ↔
        index.containsAt term location = true := by
    intro term
    rw [matching, containsAt, occurrences]
    cases index.postings.get? term with
    | none => simp [SortedMap.contains]
    | some occurrences => simp
  have hcount : ∀ term, ((index.matching .exactly term).map
      (·.2.countAt location)).sum = index.positionCount term location := by
    intro term
    rw [matching, positionCount, positionSet, occurrences]
    cases index.postings.get? term with
    | none => rfl
    | some occurrences => exact Nat.add_zero _
  rw [get?_countMatches]
  simp only [hat, hcount]

/-! ## Tokens at positions -/

/-- The number of tokens of a text that are among the terms. -/
def matchesIn (sought : List Term) (text : String) : Nat :=
  (terms text).countP (· ∈ sought)

/-- Terms that are sought once each match the tokens that are among them. -/
theorem sum_count {sought : List Term} (h : sought.Nodup) (tokens : List Term) :
    (sought.map tokens.count).sum = tokens.countP (· ∈ sought) := by
  induction sought with
  | nil => simp
  | cons term sought ih =>
      obtain ⟨hterm, hnodup⟩ := List.nodup_cons.mp h
      rw [List.map_cons, List.sum_cons, ih hnodup]
      clear ih
      induction tokens with
      | nil => rfl
      | cons token tokens ih =>
          rw [List.count_cons, List.countP_cons, List.countP_cons, ← ih]
          by_cases heq : token = term
          · subst heq
            simp only [hterm, beq_self_eq_true, if_true, decide_false,
              Bool.false_eq_true, if_false, List.mem_cons_self, decide_true]
            omega
          · simp only [heq, beq_iff_eq, if_false, List.mem_cons, false_or]
            omega

theorem map_position_recordRun (location : Location) (tokens : List Term) :
    ∀ start : Nat, (recordRun location tokens start).map Record.position =
      List.range' start tokens.length := by
  induction tokens with
  | nil => exact fun start => rfl
  | cons token tokens ih =>
      exact fun start => congrArg (start :: ·) (ih (start + 1))

theorem map_term_recordRun (location : Location) (tokens : List Term) :
    ∀ start : Nat, (recordRun location tokens start).map Record.term = tokens := by
  induction tokens with
  | nil => exact fun start => rfl
  | cons token tokens ih =>
      exact fun start => congrArg (token :: ·) (ih (start + 1))

/-- The tokens of texts at paths. -/
def fileRecords (text : String → String) (paths : List String) : List Record :=
  paths.flatMap fun path => recordRun path (terms (text path)) 1

section

variable {text : String → String} {paths : List String}

/-- At a path there are the tokens of its file and no others. -/
theorem filter_fileRecords (hnodup : paths.Nodup) (path : String) :
    (fileRecords text paths).filter (·.location = path) =
      if path ∈ paths then recordRun path (terms (text path)) 1 else [] := by
  have hall : ∀ other tokens, (recordRun other tokens 1).filter
      (·.location = path) = if other = path then recordRun other tokens 1
        else [] := by
    intro other tokens
    have hlocation := location_recordRun other tokens 1
    split
    · next heq =>
        apply List.filter_eq_self.mpr
        intro r hr
        rw [hlocation r hr, heq]
        exact decide_eq_true rfl
    · next hne =>
        apply List.filter_eq_nil_iff.mpr
        intro r hr
        rw [hlocation r hr, decide_eq_true_eq]
        exact hne
  unfold fileRecords
  induction paths with
  | nil => rfl
  | cons other paths ih =>
      obtain ⟨hother, hnodup⟩ := List.nodup_cons.mp hnodup
      rw [List.flatMap_cons, List.filter_append, hall, ih hnodup]
      by_cases heq : other = path
      · subst heq
        rw [if_pos rfl, if_neg hother, if_pos (List.mem_cons_self ..),
          List.append_nil]
      · rw [if_neg heq, List.nil_append]
        simp only [List.mem_cons, Ne.symm heq, false_or]

/-- As many records of a term as there are tokens of it have positions of their
own. -/
theorem card_positions (path : String) (tokens : List Term) (term : Term) :
    (((recordRun path tokens 1).filter (·.term = term)).map
      Record.position).toFinset.card = tokens.count term := by
  have hnodup : (((recordRun path tokens 1).filter (·.term = term)).map
      Record.position).Nodup := by
    apply List.Nodup.sublist (List.filter_sublist.map Record.position)
    rw [map_position_recordRun]
    exact List.nodup_range'
  rw [List.toFinset_card_of_nodup hnodup, List.length_map,
    ← List.countP_eq_length_filter]
  have hterms := congrArg (List.count term) (map_term_recordRun path tokens 1)
  rw [← hterms, List.count, List.countP_map]
  exact List.countP_congr fun r _ => by simp

end

/-! ## Files -/

/-- The file at a path can be read to its end and is well-formed text. No file
has more bytes than a signed number of 64 bits can tell. -/
def Tree.Holds (tree : Tree) (path text : String) : Prop :=
  ∃ content, tree.read? path = .ok content ∧ content.length < 2 ^ 63 ∧
    Text.Utf8.decode? content = some text.toList

section

variable {tree : Tree} {path : String} {text : String → String}
  {paths : List String}

theorem Tree.records_of_holds {text : String} (h : tree.Holds path text) :
    tree.records path = recordRun path (terms text) 1 := by
  obtain ⟨content, hread, -, hdecode⟩ := h
  rw [Tree.records, Tree.terms?_of_read? hread, hdecode]
  rfl

theorem Tree.length_terms_of_holds {text : String} (h : tree.Holds path text) :
    (terms text).length < 2 ^ 64 := by
  obtain ⟨content, -, hlength, hdecode⟩ := h
  have hle := length_stems_le hdecode
  rw [terms, List.length_map]
  omega

theorem Tree.flatMap_records
    (hfiles : ∀ path ∈ paths, tree.Holds path (text path)) :
    paths.flatMap tree.records = fileRecords text paths := by
  induction paths with
  | nil => rfl
  | cons path paths ih =>
      obtain ⟨hpath, hrest⟩ := List.forall_mem_cons.mp hfiles
      rw [List.flatMap_cons, records_of_holds hpath, ih hrest]
      rfl

/-- The total of an indexed file is the number of its tokens. -/
theorem countP_fileRecords (hnodup : paths.Nodup) (path : String) :
    (fileRecords text paths).countP (·.location = path) =
      if path ∈ paths then (terms (text path)).length else 0 := by
  rw [List.countP_eq_length_filter, filter_fileRecords hnodup]
  split
  · rw [← List.length_map Record.term, map_term_recordRun]
  · rfl

namespace Index

/-- What the index of files tells of a path and a term. -/
structure OfFiles (index : Index) (text : String → String)
    (paths : List String) : Prop where
  containsAt : ∀ term path, index.containsAt term path = true ↔
    path ∈ paths ∧ term ∈ terms (text path)
  positionCount : ∀ term, ∀ path ∈ paths,
    index.positionCount term path = (terms (text path)).count term
  total : ∀ path ∈ paths, (index.total path).toNat = (terms (text path)).length

theorem ofFiles (hnodup : paths.Nodup)
    (hfiles : ∀ path ∈ paths, tree.Holds path (text path)) :
    (Index.empty.addFiles tree paths).1.OfFiles text paths := by
  have hfew : ∀ path, (fileRecords text paths).countP (·.location = path) <
      2 ^ 64 := by
    intro path
    rw [countP_fileRecords hnodup]
    split
    · next hpath => exact Tree.length_terms_of_holds (hfiles path hpath)
    · decide
  have hdescribes := describes_recordAll hfew
  have hat : ∀ path, (fileRecords text paths).filter (·.location = path) =
      if path ∈ paths then recordRun path (terms (text path)) 1 else [] :=
    filter_fileRecords hnodup
  rw [addFiles_eq, Tree.flatMap_records hfiles]
  constructor
  case containsAt =>
      intro term path
      rw [hdescribes.containsAt]
      have hfilter : (∃ r ∈ fileRecords text paths,
          r.term = term ∧ r.location = path) ↔
          term ∈ ((fileRecords text paths).filter (·.location = path)).map
            Record.term := by
        simp only [List.mem_map, List.mem_filter, decide_eq_true_eq]
        constructor
        · rintro ⟨r, hr, hterm, hlocation⟩
          exact ⟨r, ⟨hr, hlocation⟩, hterm⟩
        · rintro ⟨r, ⟨hr, hlocation⟩, hterm⟩
          exact ⟨r, hr, hterm, hlocation⟩
      rw [hfilter, hat]
      split
      · next hpath => simp only [hpath, true_and, map_term_recordRun]
      · next hpath => simp only [hpath, false_and, List.map_nil,
          List.not_mem_nil]
  case positionCount =>
      intro term path hpath
      have hboth : ((fileRecords text paths).filter fun r =>
          r.term = term ∧ r.location = path) =
          ((fileRecords text paths).filter (·.location = path)).filter
            (·.term = term) := by
        rw [List.filter_filter]
        simp only [Bool.decide_and]
      rw [hdescribes.positionCount, hboth, hat, if_pos hpath]
      exact card_positions path _ term
  case total =>
      intro path hpath
      rw [hdescribes.total, countP_fileRecords hnodup, if_pos hpath]

theorem mem_countMatches {index : Index} {sought : List Term}
    (h : index.OfFiles text paths) (hsought : sought.Nodup) (path : String)
    (count : Nat) :
    (path, count) ∈ (index.countMatches .exactly sought).entries ↔
      path ∈ paths ∧ 0 < matchesIn sought (text path) ∧
        matchesIn sought (text path) = count := by
  have hany : (∃ term ∈ sought, index.containsAt term path = true) ↔
      path ∈ paths ∧ 0 < matchesIn sought (text path) := by
    simp only [h.containsAt, matchesIn, List.countP_pos_iff,
      decide_eq_true_eq]
    constructor
    · rintro ⟨term, hterm, hpath, htoken⟩
      exact ⟨hpath, term, htoken, hterm⟩
    · rintro ⟨hpath, term, htoken, hterm⟩
      exact ⟨term, hterm, hpath, htoken⟩
  rw [← SortedMap.get?_eq_some_iff, get?_countMatches_exactly]
  simp only [hany]
  split
  · next hfound =>
      have hsum : sought.map (index.positionCount · path) =
          sought.map (terms (text path)).count :=
        List.map_congr_left fun term _ => h.positionCount term path hfound.1
      rw [hsum, sum_count hsought, Option.some.injEq, ← and_assoc,
        and_iff_right hfound, matchesIn]
  · next hnone =>
      apply iff_of_false (fun heq => by cases heq)
      exact fun ⟨hpath, hpos, _⟩ => hnone ⟨hpath, hpos⟩

/-- An exact search finds each file that has a token among the terms, once. -/
theorem OfFiles.search_perm {index : Index} (h : index.OfFiles text paths)
    (hnodup : paths.Nodup) (sought : SortedSet Term) :
    (index.search .exactly sought).Perm
      ((paths.filter fun path => 0 < matchesIn sought.toList (text path)).map
        fun path => .ofCounts (matchesIn sought.toList (text path))
          (terms (text path)).length path) := by
  have hsought : sought.toList.Nodup := SortedMap.nodup_keys sought
  have hentries : (index.countMatches .exactly sought.toList).entries.Perm
      ((paths.filter fun path => 0 < matchesIn sought.toList (text path)).map
        fun path => (path, matchesIn sought.toList (text path))) := by
    apply (List.perm_ext_iff_of_nodup ?_ ?_).mpr
    · rintro ⟨path, count⟩
      rw [mem_countMatches h hsought, List.mem_map]
      simp only [List.mem_filter, decide_eq_true_eq, Prod.mk.injEq]
      constructor
      · rintro ⟨hpath, hpos, hcount⟩
        exact ⟨path, ⟨hpath, hpos⟩, rfl, hcount⟩
      · rintro ⟨other, ⟨hpath, hpos⟩, rfl, hcount⟩
        exact ⟨hpath, hpos, hcount⟩
    · exact List.Nodup.of_map _ (SortedMap.nodup_keys _)
    · exact (hnodup.filter _).map fun path other heq => (Prod.mk.inj heq).1
  refine (Hit.perm_ranked _).trans ((hentries.map _).trans ?_)
  rw [List.map_map]
  refine List.Perm.of_eq (List.map_congr_left fun path hpath => ?_)
  have hmem := List.mem_of_mem_filter hpath
  rw [Function.comp_apply]
  dsimp only
  rw [hit, h.total path hmem]

/-- Whatever files are indexed, an exact search for a query has one hit for
each file with a token whose stem is a term of the query, and no other. It
counts those tokens, and is ranked by their share of all tokens of the file. -/
theorem search_addFiles {line : String} {query : Query}
    (hnodup : paths.Nodup)
    (hfiles : ∀ path ∈ paths, tree.Holds path (text path))
    (hquery : Query.ofLine? line = some query) :
    (∀ term, term ∈ query.terms.toList ↔ term ∈ terms line) ∧
    ((Index.empty.addFiles tree paths).1.search .exactly query.terms).Perm
      ((paths.filter fun path =>
          ∃ token ∈ terms (text path), token ∈ query.terms.toList).map
        fun path =>
          let count := matchesIn query.terms.toList (text path)
          ⟨count, Rank.share count (terms (text path)).length, path⟩) := by
  constructor
  · exact fun term => Query.mem_terms_iff hquery
  · have hperm := (ofFiles hnodup hfiles).search_perm hnodup query.terms
    have hfound : (paths.filter fun path =>
        ∃ token ∈ terms (text path), token ∈ query.terms.toList) =
        paths.filter fun path =>
          0 < matchesIn query.terms.toList (text path) := by
      apply List.filter_congr
      intro path _
      simp only [matchesIn, List.countP_pos_iff, decide_eq_true_eq]
    rw [hfound]
    exact hperm

/-- A file about pets, one about nobody, and one without a word. -/
def petText (path : String) : String :=
  if path = "a" then "Cats, cat\ndogs" else if path = "b" then "no-one" else "42"

def petFiles : Tree :=
  .dir (["a", "b", "c"].map fun path =>
    (path, .file (Text.Utf8.encode (petText path).toList)))

theorem search_petFiles : ["a", "b", "c"].Nodup ∧
    (∀ path ∈ ["a", "b", "c"], petFiles.Holds path (petText path)) ∧
    ∃ query, Query.ofLine? "CAT" = some query ∧
      ((Index.empty.addFiles petFiles ["a", "b", "c"]).1.search .exactly
        query.terms).Perm [⟨2, Rank.share 2 3, "a"⟩] := by
  have hnodup : ["a", "b", "c"].Nodup := by decide
  have hread : ∀ path ∈ ["a", "b", "c"],
      petFiles.read? path = .ok (Text.Utf8.encode (petText path).toList) ∧
        (Text.Utf8.encode (petText path).toList).length < 2 ^ 63 ∧
        Text.Utf8.decode? (Text.Utf8.encode (petText path).toList) =
          some (petText path).toList := by decide +kernel
  have hfiles : ∀ path ∈ ["a", "b", "c"],
      petFiles.Holds path (petText path) :=
    fun path hpath => ⟨_, hread path hpath⟩
  have hquery : Query.ofLine? "CAT" = some _ := rfl
  refine ⟨hnodup, hfiles, _, hquery, ?_⟩
  refine (search_addFiles hnodup hfiles hquery).2.trans (List.Perm.of_eq ?_)
  decide +kernel

end Index

end

end Concordance
