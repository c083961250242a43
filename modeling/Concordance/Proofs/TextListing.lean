import Mathlib.Data.List.Nodup
import Concordance.Files.TextFiles
import Concordance.Proofs.ByteOrder
import Concordance.Proofs.SortedMerge

/-!
# The texts below a directory, in order

The walk through a directory tree goes by names: the texts in a directory are
those in its entries, entry by entry in the order of their names, each with the
name in front. Read as lists of names, the places that it finds are exactly those
that lead to a file with the name of a text (`mem_textsIn`), and they are in
rising order, compared name by name (`pairwise_textsIn`): two places differ first
at the names of two entries of one directory, and there the walk takes the smaller
name first.

This is not the order of the paths as they are written. Between names stands a
slash, which is larger than some characters that a name can have: `a-b.txt` comes
behind all that is in the directory `a`, though its hyphen is smaller.
-/

namespace Concordance

/-! ## Names of texts -/

/-- A name made of something, a dot and one of the extensions of texts. -/
def HasTextForm (name : String) : Prop :=
  ∃ stem ending : List Char, stem ≠ [] ∧ name.toList = stem ++ '.' :: ending ∧
    (ending.map asciiLower = "txt".toList ∨ ending.map asciiLower = "text".toList)

theorem dot_not_mem_of_lower {ending : List Char}
    (h : ending.map asciiLower = "txt".toList ∨
      ending.map asciiLower = "text".toList) : '.' ∉ ending := by
  intro hmem
  have hdot : '.' ∈ ending.map asciiLower := List.mem_map_of_mem hmem
  rcases h with h | h
  · rw [h] at hdot
    simp at hdot
  · rw [h] at hdot
    simp at hdot

/-- The extension is what stands behind the last dot, if something stands in front. -/
theorem extension?_append {stem ending : List Char} (hstem : stem ≠ [])
    (hending : ending ≠ []) (hdot : '.' ∉ ending) :
    extension? (stem ++ '.' :: ending) = some ending := by
  have hkept : ∀ c ∈ ending.reverse, decide (c ≠ '.') = true := by
    intro c hc
    rw [decide_eq_true_eq]
    rintro rfl
    exact hdot (List.mem_reverse.mp hc)
  have hreverse : (stem ++ '.' :: ending).reverse =
      ending.reverse ++ '.' :: stem.reverse := by simp
  obtain ⟨c, rest, hrest⟩ := List.exists_cons_of_ne_nil
    (List.reverse_ne_nil_iff.mpr hstem)
  have hdots : stem ++ '.' :: ending ≠ ['.', '.'] := by
    intro heq
    obtain ⟨d, hd⟩ := List.exists_mem_of_ne_nil ending hending
    have hmem : d ∈ stem ++ '.' :: ending := by simp [hd]
    rw [heq] at hmem
    obtain rfl : d = '.' := by simpa using hmem
    exact hdot hd
  unfold extension?
  simp only [hreverse]
  rw [List.dropWhile_append_of_pos hkept, List.takeWhile_append_of_pos hkept]
  simp [hrest, hdots]

theorem exists_of_extension? {name ending : List Char}
    (h : extension? name = some ending) :
    ∃ stem, stem ≠ [] ∧ name = stem ++ '.' :: ending := by
  unfold extension? at h
  simp only [] at h
  split at h
  · next d e rest hdrop =>
      split at h
      · cases h
      · cases h
        have hsplit := List.takeWhile_append_dropWhile
          (p := (· ≠ '.')) (l := name.reverse)
        have hhead := List.head?_dropWhile_not (· ≠ '.') name.reverse
        rw [hdrop] at hsplit hhead
        obtain rfl : d = '.' := by simpa using hhead
        have hname := congrArg List.reverse hsplit
        rw [List.reverse_reverse] at hname
        exact ⟨(e :: rest).reverse, by simp, by simpa using hname.symm⟩
  · cases h

theorem isTextName_iff {name : String} :
    isTextName name = true ↔ HasTextForm name := by
  unfold isTextName
  constructor
  · intro h
    split at h
    · cases h
    · next ending hextension =>
        obtain ⟨stem, hstem, hname⟩ := exists_of_extension? hextension
        refine ⟨stem, ending, hstem, hname, ?_⟩
        simpa using h
  · rintro ⟨stem, ending, hstem, hname, hlower⟩
    have hending : ending ≠ [] := by
      rintro rfl
      simp at hlower
    rw [hname, extension?_append hstem hending (dot_not_mem_of_lower hlower)]
    simpa using hlower

instance (name : String) : Decidable (HasTextForm name) :=
  decidable_of_iff _ isTextName_iff

namespace Tree

/-! ## What the walk finds -/

theorem get?_textsBelow (entries : List (String × Tree)) (name : String) :
    (textsBelow entries).get? name = (child? name entries).map (textsIn name) := by
  induction entries with
  | nil => rfl
  | cons entry rest ih =>
      obtain ⟨key, tree⟩ := entry
      rw [textsBelow, SortedMap.get?_insert, child?]
      by_cases hname : name = key
      · subst hname
        rw [if_pos rfl, if_pos rfl]
        rfl
      · rw [if_neg hname, if_neg (Ne.symm hname), ih]

/-- Of a place that leads to an entry the walk finds what is below it, and of the
place where it stands what that is. -/
theorem mem_textsIn {name : String} {tree : Tree} {names : List String} :
    names ∈ textsIn name tree ↔
      (∃ content access, tree.at? names = some (.file content access)) ∧
        HasTextForm (names.getLastD name) := by
  induction names generalizing name tree with
  | nil =>
      cases tree with
      | file content access =>
          rw [textsIn, List.getLastD_nil, ← isTextName_iff]
          by_cases htext : isTextName name = true
          · simp [htext, at?]
          · simp [htext]
      | dir entries => simp [textsIn, at?]
  | cons inner names ih =>
      cases tree with
      | file content access =>
          rw [textsIn]
          by_cases htext : isTextName name = true
          · simp [htext, at?]
          · simp [htext, at?]
      | dir entries =>
          have hmem : inner :: names ∈ textsIn name (dir entries) ↔
              ∃ places, (textsBelow entries).get? inner = some places ∧
                names ∈ places := by
            simp [textsIn, SortedMap.get?_eq_some_iff]
          rw [hmem, get?_textsBelow, at?, List.getLastD_cons]
          cases child? inner entries with
          | none => simp
          | some tree => simpa using ih

theorem mem_textsIn_dir {name : String} {entries : List (String × Tree)}
    {names : List String} : names ∈ textsIn name (dir entries) ↔
      (∃ content access, (dir entries).at? names = some (.file content access)) ∧
        ∃ last ∈ names.getLast?, HasTextForm last := by
  rw [mem_textsIn]
  cases names with
  | nil => simp [at?]
  | cons inner names => simp [List.getLast?_cons]

/-! ## The order of the walk -/

/-- The bytes of a name, which are what names are compared by. -/
def nameBytes (name : String) : List UInt8 := Text.Utf8.encode name.toList

theorem compare_map_nameBytes (names others : List String) :
    compare (names.map nameBytes) (others.map nameBytes) = compare names others := by
  induction names generalizing others with
  | nil => cases others <;> rfl
  | cons name names ih =>
      cases others with
      | nil => rfl
      | cons other others =>
          rw [List.map_cons, List.map_cons, List.compare_cons_cons,
            List.compare_cons_cons, ih, Text.Utf8.compare_encode]
          rfl

/-- One place comes before another. -/
def Before (names others : List String) : Prop := compare names others = .lt

theorem before_cons {name : String} {names others : List String}
    (h : Before names others) : Before (name :: names) (name :: others) := by
  have hself : compare name name = .eq := Std.ReflCmp.compare_self
  rw [Before, List.compare_cons_cons, hself]
  exact h

theorem before_of_lt {name other : String} (h : compare name other = .lt)
    (names others : List String) : Before (name :: names) (other :: others) := by
  rw [Before, List.compare_cons_cons, h]
  rfl

mutual

theorem pairwise_textsIn (name : String) (tree : Tree) :
    (textsIn name tree).Pairwise Before := by
  match tree with
  | file .. =>
      rw [textsIn]
      split
      · exact List.pairwise_singleton _ _
      · exact List.Pairwise.nil
  | dir entries =>
      rw [textsIn, List.pairwise_flatMap]
      constructor
      · intro entry hentry
        rw [List.pairwise_map]
        exact (pairwise_textsBelow entries entry hentry).imp before_cons
      · apply (textsBelow entries).sorted.imp
        intro entry next hlt names hnames others hothers
        obtain ⟨names, -, rfl⟩ := List.mem_map.mp hnames
        obtain ⟨others, -, rfl⟩ := List.mem_map.mp hothers
        exact before_of_lt hlt names others

theorem pairwise_textsBelow (entries : List (String × Tree)) :
    ∀ entry ∈ (textsBelow entries).entries, entry.2.Pairwise Before := by
  match entries with
  | [] =>
      intro entry hentry
      cases hentry
  | (name, tree) :: rest =>
      rintro ⟨key, places⟩ hentry
      rw [textsBelow, ← SortedMap.get?_eq_some_iff, SortedMap.get?_insert] at hentry
      split at hentry
      · cases hentry
        exact pairwise_textsIn name tree
      · exact pairwise_textsBelow rest _ (SortedMap.get?_eq_some_iff.mp hentry)

end

/-! ## Paths -/

/-- A name as an entry of a directory can have it. -/
def IsEntryName (name : String) : Prop := name ≠ "" ∧ '/' ∉ name.toList

instance (name : String) : Decidable (IsEntryName name) :=
  inferInstanceAs (Decidable (_ ∧ _))

mutual

/-- All entries in a tree have names that entries can have. -/
def Named : Tree → Prop
  | file .. => True
  | dir entries => AllNamed entries

def AllNamed : List (String × Tree) → Prop
  | [] => True
  | (name, tree) :: rest => IsEntryName name ∧ tree.Named ∧ AllNamed rest

end

theorem AllNamed.child {name : String} {inner : Tree}
    {entries : List (String × Tree)} (h : AllNamed entries)
    (hchild : child? name entries = some inner) :
    IsEntryName name ∧ inner.Named := by
  induction entries with
  | nil => cases hchild
  | cons entry rest ih =>
      obtain ⟨key, tree⟩ := entry
      obtain ⟨hname, htree, hrest⟩ := h
      rw [child?] at hchild
      split at hchild
      · next heq =>
          cases hchild
          exact ⟨heq ▸ hname, htree⟩
      · exact ih hrest hchild

theorem Named.at? {tree inner : Tree} {names : List String} (h : tree.Named)
    (hat : tree.at? names = some inner) :
    (∀ name ∈ names, IsEntryName name) ∧ inner.Named := by
  induction names generalizing tree with
  | nil =>
      cases hat
      exact ⟨nofun, h⟩
  | cons name names ih =>
      cases tree with
      | file content access => cases hat
      | dir entries =>
          obtain ⟨child, hchild, hat⟩ := Option.bind_eq_some_iff.mp hat
          obtain ⟨hname, hnamed⟩ := AllNamed.child h hchild
          obtain ⟨hnames, hinner⟩ := ih hnamed hat
          exact ⟨List.forall_mem_cons.mpr ⟨hname, hnames⟩, hinner⟩

theorem Named.find? {tree inner : Tree} {path : String} (h : tree.Named)
    (hfind : tree.find? path = .ok inner) : inner.Named := by
  unfold Tree.find? at hfind
  split at hfind
  · cases hfind
  · split at hfind
    · cases hfind
    · next place _ =>
        cases hfind
        cases hat : tree.at? place with
        | none => exact trivial
        | some inner => exact (h.at? hat).2

/-- A path that goes on by names, with a slash in front of each. -/
def joined (path : String) (names : List String) : String :=
  (if path.endsWith "/" then path else path ++ "/") ++ "/".intercalate names

theorem endsWith_slash {path : String} :
    path.endsWith "/" = true ↔ ['/'] <:+ path.toList := by
  rw [String.endsWith_eq_endsWith_toSlice, String.Slice.endsWith_string_iff]
  simp

theorem endsWith_append {name : String} (h : IsEntryName name) (path : String) :
    (path ++ name).endsWith "/" = false := by
  obtain ⟨hne, hslash⟩ := h
  rw [← Bool.not_eq_true, endsWith_slash, String.toList_append]
  rintro ⟨front, hfront⟩
  have hname : name.toList ≠ [] := by simp [hne]
  have hlast := congrArg List.getLast? hfront
  rw [List.getLast?_concat, List.getLast?_append_of_ne_nil _ hname] at hlast
  exact hslash (List.mem_of_getLast? hlast.symm)

theorem extend_eq_joined {path : String} {names : List String} (hne : names ≠ [])
    (h : ∀ name ∈ names, IsEntryName name) : extend path names = joined path names := by
  induction names generalizing path with
  | nil => exact absurd rfl hne
  | cons name rest ih =>
      obtain ⟨hname, hrest⟩ := List.forall_mem_cons.mp h
      have hstep : extend path (name :: rest) =
          extend ((if path.endsWith "/" then path else path ++ "/") ++ name) rest := by
        rw [extend, List.foldl_cons]
        split <;> rfl
      rw [hstep]
      cases rest with
      | nil =>
          rw [joined, String.intercalate_singleton]
          rfl
      | cons next rest =>
          rw [ih (List.cons_ne_nil _ _) hrest, joined, joined,
            endsWith_append hname, String.intercalate_cons_cons]
          simp [String.append_assoc]

theorem joined_inj {path : String} {names others : List String}
    (hnames : ∀ name ∈ names, IsEntryName name) (hne : names ≠ [])
    (hothers : ∀ name ∈ others, IsEntryName name) (hother : others ≠ [])
    (h : joined path names = joined path others) : names = others := by
  have hsplit : ∀ {names : List String}, (∀ name ∈ names, IsEntryName name) →
      names ≠ [] → ("/".intercalate names).toList.splitOn '/' =
        names.map String.toList := by
    intro names hnames hne
    rw [String.toList_intercalate]
    apply List.splitOn_intercalate
    · intro letters hletters
      obtain ⟨name, hname, rfl⟩ := List.mem_map.mp hletters
      exact (hnames name hname).2
    · rwa [ne_eq, List.map_eq_nil_iff]
  have hlists := congrArg String.toList h
  rw [joined, joined, String.toList_append, String.toList_append] at hlists
  have hrest := congrArg (List.splitOn '/') (List.append_cancel_left hlists)
  rw [hsplit hnames hne, hsplit hothers hother] at hrest
  exact List.map_injective_iff.mpr (fun _ _ => String.toList_inj.mp) hrest

/-! ## The listing -/

/-- For a directory the texts below it are listed: all files with the name of a
text, at any depth, and nothing else; each once, by the path of the directory and
the names that lead on from there; and in the order of these names, compared one
after the other by their bytes. -/
theorem textFiles?_dir {tree : Tree} {path : String} {entries : List (String × Tree)}
    (hnamed : tree.Named) (hdir : tree.find? path = .ok (dir entries)) :
    ∃ places : List (List String),
      tree.textFiles? path = .ok (places.map (joined path)) ∧
      (∀ names, names ∈ places ↔
        (∃ content access, (dir entries).at? names = some (.file content access)) ∧
          ∃ name ∈ names.getLast?, HasTextForm name) ∧
      (places.Pairwise fun names others =>
        compare (names.map nameBytes) (others.map nameBytes) = .lt) ∧
      (places.map (joined path)).Nodup := by
  have hplaces : ∀ names ∈ textsIn "" (dir entries),
      names ≠ [] ∧ ∀ name ∈ names, IsEntryName name := by
    intro names hnames
    obtain ⟨⟨content, access, hat⟩, -⟩ := mem_textsIn_dir.mp hnames
    refine ⟨?_, ((hnamed.find? hdir).at? hat).1⟩
    rintro rfl
    cases hat
  have hordered := pairwise_textsIn "" (dir entries)
  refine ⟨textsIn "" (dir entries), ?_, fun _ => mem_textsIn_dir,
    hordered.imp ?_, ?_⟩
  · rw [textFiles?, hdir]
    refine congrArg Except.ok (List.map_congr_left fun names hnames => ?_)
    obtain ⟨hne, hentries⟩ := hplaces names hnames
    exact extend_eq_joined hne hentries
  · intro names others hbefore
    rw [compare_map_nameBytes]
    exact hbefore
  · have hnodup : (textsIn "" (dir entries)).Nodup := by
      refine hordered.imp ?_
      rintro names others hbefore rfl
      have hself : compare names names = .eq := Std.ReflCmp.compare_self
      rw [Before, hself] at hbefore
      cases hbefore
    refine hnodup.map_on ?_
    intro names hnames others hothers heq
    obtain ⟨hne, hentries⟩ := hplaces names hnames
    obtain ⟨hother, hrest⟩ := hplaces others hothers
    exact joined_inj hentries hne hrest hother heq

/-- A directory `a` beside files whose names begin with that letter, a file with
nothing but an extension, and a directory with the name of a text. -/
def noteEntries : List (String × Tree) := [
  ("a.txt", .file []),
  ("a-b.txt", .file []),
  (".txt", .file []),
  ("c.md", .file []),
  ("b.text", .dir [("x.y.TEXT", .file [])]),
  ("a", .dir [("z.Txt", .file [])])]

def noteTree : Tree := .dir [("notes", .dir noteEntries)]

/-- The texts among them are listed, the directory is not. -/
theorem textFiles?_noteTree :
    noteTree.Named ∧ noteTree.find? "./notes" = .ok (dir noteEntries) ∧
    ∃ places : List (List String),
      noteTree.textFiles? "./notes" = .ok (places.map (joined "./notes")) ∧
      (∀ names ∈ [["a", "z.Txt"], ["a-b.txt"], ["a.txt"], ["b.text", "x.y.TEXT"]],
        names ∈ places) ∧
      ∀ names ∈ [["b.text"], [".txt"], ["c.md"], ["z.Txt"]], names ∉ places := by
  have hnamed : noteTree.Named := by
    simp [noteTree, noteEntries, Named, AllNamed, IsEntryName]
  have hfind : noteTree.find? "./notes" = .ok (dir noteEntries) := by
    have hrefused : refused? "./notes" = none := by decide +kernel
    have hwalk : noteTree.walk? [] (parts "./notes") = .ok ["notes"] := by
      decide +kernel
    rw [find?, hrefused]
    dsimp only
    rw [hwalk]
    rfl
  obtain ⟨places, hlisted, hmem, -⟩ := textFiles?_dir hnamed hfind
  have hsame : ∀ names, names ∈ places ↔ names ∈ textsIn "" (dir noteEntries) :=
    fun names => (hmem names).trans mem_textsIn_dir.symm
  refine ⟨hnamed, hfind, places, hlisted, ?_, ?_⟩
  · simp only [hsame]
    decide +kernel
  · simp only [hsame]
    decide +kernel

example : textsIn "" (dir noteEntries) =
    [["a", "z.Txt"], ["a-b.txt"], ["a.txt"], ["b.text", "x.y.TEXT"]] := by
  decide +kernel

end Tree

end Concordance
