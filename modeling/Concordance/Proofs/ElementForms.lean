import Concordance.Markup.Strip
import Concordance.Proofs.MatchedParts

/-!
# How comments, elements and tags are found

Each kind of markup is found by its form. Here it is said of the forms that a
careful author writes that they are found as a whole, whatever follows, and of
what begins otherwise that it is not found. All forms begin with an opening
bracket, so only what follows one has to be looked at; and since a name is made
of letters, no form reads on behind a bracket that it did not expect
(`prefix_of_append_cons`).
-/

namespace Concordance.Markup

open Text

/-- What has `mark` behind it, and does not hold it, is told before the mark. -/
theorem prefix_of_append_cons {mark : Char} {part front back : List Char}
    (h : part <+: front ++ mark :: back) (hmark : mark ∉ part) :
    part <+: front := by
  rcases List.prefix_or_prefix_of_prefix h (List.prefix_append front _) with
    hpart | ⟨more, rfl⟩
  · exact hpart
  · rw [List.prefix_append_right_inj, List.prefix_cons_iff] at h
    rcases h with rfl | ⟨tail, rfl, -⟩
    · rw [List.append_nil]
    · exact absurd (by simp) hmark

/-! ## Names -/

/-- A name in some letter case. -/
def Spells (name spelling : List Char) : Prop :=
  spelling.map foldCase = name.map foldCase

instance (name spelling : List Char) : Decidable (Spells name spelling) :=
  inferInstanceAs (Decidable (_ = _))

/-- What markup is told by, beside names. -/
def marks : List Char := ['<', '>', '/', '!']

/-- A name of letters. -/
def IsName (name : List Char) : Prop := ∀ c ∈ name, c.isAlpha = true

instance (name : List Char) : Decidable (IsName name) :=
  inferInstanceAs (Decidable (∀ c ∈ name, _))

/-- A text that begins with a name in some letter case. -/
def BeginsWithName (name text : List Char) : Prop :=
  ∃ spelling, Spells name spelling ∧ spelling <+: text

variable {name spelling attributes content blanks text rest : List Char}
  {c : Char}

theorem foldCase_not_mem_marks (h : c.isAlpha = true) :
    foldCase c ∉ marks := by
  have hascii : ∀ code < 0x80, (Char.ofNat code).isAlpha = true →
      foldCase (Char.ofNat code) ∉ marks := by decide +kernel
  have hcode : c.toNat < 0x80 := by
    rcases (Bool.or_eq_true c.isUpper c.isLower).mp h with hupper | hlower
    · have hrange : 'A'.val ≤ c.val ∧ c.val ≤ 'Z'.val :=
        of_decide_eq_true hupper
      exact (UInt32.le_iff_toNat_le.mp hrange.2).trans_lt (by decide)
    · have hlast : c.val ≤ 'z'.val :=
        of_decide_eq_true ((Bool.and_eq_true _ _).mp hlower).2
      exact (UInt32.le_iff_toNat_le.mp hlast).trans_lt (by decide)
  have hc := hascii c.toNat hcode
  rw [Char.ofNat_toNat] at hc
  exact hc h

/-- No mark is a letter in another case. -/
theorem Spells.not_mem (h : Spells name spelling) (hname : IsName name) :
    ∀ mark ∈ marks, mark ∉ spelling := by
  have hmarks : ∀ mark ∈ marks, foldCase mark = mark := by decide +kernel
  intro mark hmark hmem
  have hfold : foldCase mark ∈ name.map foldCase :=
    h ▸ List.mem_map_of_mem hmem
  obtain ⟨n, hn, heq⟩ := List.mem_map.mp hfold
  apply foldCase_not_mem_marks (hname n hn)
  rw [heq, hmarks mark hmark]
  exact hmark

theorem takes_named (h : Spells name spelling) (rest : List Char) :
    Takes (named name) spelling rest := by
  unfold Spells at h
  induction name generalizing spelling with
  | nil =>
      rw [List.map_nil, List.map_eq_nil_iff] at h
      rw [h]
      rfl
  | cons n name ih =>
      obtain ⟨c, tail, rfl, hc, htail⟩ := List.map_eq_cons_iff.mp h
      have hrest := ih htail
      unfold Takes at hrest ⊢
      rw [List.cons_append, named, sameLetter, hc, beq_self_eq_true,
        if_pos rfl, hrest]
      rfl

theorem named_eq_none (h : ¬BeginsWithName name text) :
    named name text = none := by
  induction name generalizing text with
  | nil => exact absurd ⟨[], rfl, List.nil_prefix⟩ h
  | cons n name ih =>
      cases text with
      | nil => rfl
      | cons c text =>
          rw [named]
          split
          · next hsame =>
              rw [ih, Option.map_none]
              rintro ⟨spelling, hspells, hprefix⟩
              refine h ⟨c :: spelling, ?_, ?_⟩
              · rw [Spells, List.map_cons, List.map_cons, hspells,
                  eq_of_beq hsame]
              · exact List.cons_prefix_cons.mpr ⟨rfl, hprefix⟩
          · rfl

instance (name text : List Char) : Decidable (BeginsWithName name text) :=
  decidable_of_iff ((named name text).isSome = true) <| by
    constructor
    · intro h
      by_contra hnot
      rw [named_eq_none hnot] at h
      cases h
    · rintro ⟨spelling, hspells, rest, rfl⟩
      rw [takes_named hspells rest]
      rfl

/-- A name is told before the next mark. -/
theorem BeginsWithName.of_append_cons {mark : Char} {front back : List Char}
    (h : BeginsWithName name (front ++ mark :: back)) (hname : IsName name)
    (hmark : mark ∈ marks) : BeginsWithName name front := by
  obtain ⟨spelling, hspells, hprefix⟩ := h
  exact ⟨spelling, hspells, prefix_of_append_cons hprefix
    (hspells.not_mem hname mark hmark)⟩

/-- Behind a name stands another one only if one is the begin of the other. -/
theorem BeginsWithName.comparable {other : List Char}
    (h : BeginsWithName name (spelling ++ rest))
    (hspells : Spells other spelling) :
    name.map foldCase <+: other.map foldCase ∨
      other.map foldCase <+: name.map foldCase := by
  obtain ⟨found, hfound, hprefix⟩ := h
  rw [← hfound, ← hspells]
  exact (List.prefix_or_prefix_of_prefix hprefix
    (List.prefix_append spelling rest)).imp (·.map _) (·.map _)

/-! ## Opening and closing tags -/

/-- What may stand behind the name of an opening tag. -/
structure IsAttributes (attributes : List Char) : Prop where
  blank : ∀ c ∈ attributes.head?, isBlank c = true
  no_opening : '<' ∉ attributes
  no_closing : '>' ∉ attributes

instance (attributes : List Char) : Decidable (IsAttributes attributes) :=
  decidable_of_iff (attributes.head?.all isBlank = true ∧
      '<' ∉ attributes ∧ '>' ∉ attributes) <| by
    rw [Option.all_eq_true]
    exact ⟨fun ⟨blank, no_opening, no_closing⟩ =>
      ⟨fun c hc => blank c hc, no_opening, no_closing⟩,
      fun h => ⟨fun c hc => h.blank c hc, h.no_opening, h.no_closing⟩⟩

def openingSource (spelling attributes : List Char) : List Char :=
  '<' :: (spelling ++ (attributes ++ ['>']))

def closingSource (spelling blanks : List Char) : List Char :=
  '<' :: '/' :: (spelling ++ (blanks ++ ['>']))

theorem literally_of_ne {mark : Char} (h : c ≠ mark)
    (pattern text : List Char) :
    literally (mark :: pattern) (c :: text) = none :=
  literally_eq_none fun hprefix =>
    h (List.cons_prefix_cons.mp hprefix).1.symm

theorem takes_openingRest (h : IsAttributes attributes) (rest : List Char) :
    Takes openingRest (attributes ++ ['>']) rest := by
  cases attributes with
  | nil => rfl
  | cons c attributes =>
      have hblank := h.blank c rfl
      have hend : c ≠ '>' := by
        rintro rfl
        cases hblank
      have hleaves : Leaves (literally ['>']) attributes (['>'] ++ rest) :=
        leaves_of_not_mem (fun d text hd => literally_of_ne hd [] text)
          fun hmem => h.no_closing (List.mem_cons_of_mem _ hmem)
      have hbehind := (takes_literally ['>'] rest).throughFirst hleaves
      unfold Takes at hbehind ⊢
      rw [List.cons_append, List.cons_append, openingRest.eq_2 _ _ hend,
        hblank, if_pos rfl, hbehind]
      rfl

theorem takes_openingTag (h : Spells name spelling)
    (hattributes : IsAttributes attributes) (rest : List Char) :
    Takes (openingTag name) (openingSource spelling attributes) rest :=
  (takes_literally ['<'] _).followedBy
    ((takes_named h _).followedBy (takes_openingRest hattributes rest))

theorem openingTag_of_ne (h : c ≠ '<') (text : List Char) :
    openingTag name (c :: text) = none :=
  followedBy_eq_none (literally_of_ne h [] text)

theorem openingTag_of_other (h : ¬BeginsWithName name text) :
    openingTag name ('<' :: text) = none :=
  (takes_literally ['<'] text).followedBy_eq_none
    (followedBy_eq_none (named_eq_none h))

/-- A closing tag is no opening tag, even if it has no name. -/
theorem openingTag_of_slash (hname : IsName name) (text : List Char) :
    openingTag name ('<' :: '/' :: text) = none := by
  cases name with
  | nil => rfl
  | cons n name =>
      apply openingTag_of_other
      rintro ⟨spelling, hspells, hprefix⟩
      have hslash := hspells.not_mem hname '/' (by decide)
      have hnil : spelling ≠ [] := by
        rintro rfl
        cases hspells
      obtain ⟨c, tail, rfl⟩ := List.exists_cons_of_ne_nil hnil
      rw [(List.cons_prefix_cons.mp hprefix).1] at hslash
      exact hslash (List.mem_cons_self ..)

theorem takes_closingRest (h : ∀ c ∈ blanks, isBlank c = true)
    (rest : List Char) : Takes closingRest (blanks ++ ['>']) rest := by
  induction blanks with
  | nil => rfl
  | cons c blanks ih =>
      have hblank := h c (List.mem_cons_self ..)
      have hend : c ≠ '>' := by
        rintro rfl
        cases hblank
      have hbehind := ih fun d hd => h d (List.mem_cons_of_mem _ hd)
      unfold Takes at hbehind ⊢
      rw [List.cons_append, List.cons_append, closingRest, if_neg hend, hblank,
        if_pos rfl, hbehind]
      rfl

theorem takes_closingTag (h : Spells name spelling)
    (hblanks : ∀ c ∈ blanks, isBlank c = true) (rest : List Char) :
    Takes (closingTag name) (closingSource spelling blanks) rest :=
  (takes_literally ['<', '/'] _).followedBy
    ((takes_named h _).followedBy (takes_closingRest hblanks rest))

theorem closingTag_of_ne (h : c ≠ '<') (text : List Char) :
    closingTag name (c :: text) = none :=
  followedBy_eq_none (literally_of_ne h ['/'] text)

theorem closingTag_of_other
    (h : ∀ behind, text = '/' :: behind → ¬BeginsWithName name behind) :
    closingTag name ('<' :: text) = none := by
  by_cases hslash : ['<', '/'] <+: '<' :: text
  · obtain ⟨behind, hbehind⟩ := hslash
    obtain rfl : '/' :: behind = text := (List.cons.inj hbehind).2
    exact (takes_literally ['<', '/'] behind).followedBy_eq_none
      (followedBy_eq_none (named_eq_none (h behind rfl)))
  · exact followedBy_eq_none (literally_eq_none hslash)

section

variable {matcher : Matcher}
  (h : ∀ c text, c ≠ '<' → matcher (c :: text) = none)
  (hname : IsName name) (hspells : Spells name spelling)
include h hname hspells

theorem leaves_openingSource (hattributes : IsAttributes attributes)
    (hmatch : matcher ('<' :: (spelling ++ (attributes ++ '>' :: rest))) =
      none) : Leaves matcher (openingSource spelling attributes) rest := by
  apply leaves_cons_of_not_mem h
  · simp [hspells.not_mem hname '<' (by decide), hattributes.no_opening]
  · simpa using hmatch

theorem leaves_closingSource (hblanks : ∀ c ∈ blanks, isBlank c = true)
    (hmatch : ∀ text, matcher ('<' :: '/' :: text) = none) :
    Leaves matcher (closingSource spelling blanks) rest := by
  have hbracket : '<' ∉ blanks := fun hmem => by cases hblanks _ hmem
  apply leaves_cons_of_not_mem h
  · simp [hspells.not_mem hname '<' (by decide), hbracket]
  · exact hmatch _

end

/-! ## Elements -/

/-- An element is found up to the first closing tag of its name. -/
theorem takes_element {closing : List Char} (h : Spells name spelling)
    (hattributes : IsAttributes attributes) (hclosing : Spells name closing)
    (hblanks : ∀ c ∈ blanks, isBlank c = true)
    (hcontent : Leaves (closingTag name) content
      (closingSource closing blanks ++ rest)) :
    Takes (element name) (openingSource spelling attributes ++
      (content ++ closingSource closing blanks)) rest :=
  (takes_openingTag h hattributes _).followedBy
    ((takes_closingTag hclosing hblanks rest).throughFirst hcontent)

theorem element_of_ne (h : c ≠ '<') (text : List Char) :
    element name (c :: text) = none :=
  followedBy_eq_none (openingTag_of_ne h text)

theorem element_eq_none (h : openingTag name text = none) :
    element name text = none :=
  followedBy_eq_none h

end Concordance.Markup
