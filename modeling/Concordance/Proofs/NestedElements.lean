import Concordance.Proofs.ElementForms

/-!
# Of nested elements the first closing tag counts

An element is taken out up to the first closing tag of its name, wherever that
tag belongs. Read along the tags of a text, this is a machine with two states:
what is hidden goes, and an opening tag hides what follows until the next closing
tag of any element shows it again (`remains`).

So elements that stand side by side go with all they hold. But if one holds
another, the closing tag of the inner one ends the outer one, and what the outer
one holds behind the inner one remains, with its closing tag. There is no such
tag in the text outside of all elements: elements of one name are taken out whole
if none is in another, and only then (`stripElement_forest`).
-/

namespace Concordance.Markup

open Text

structure OpeningTag (name : List Char) where
  spelling : List Char
  attributes : List Char
  spells : Spells name spelling
  attributed : IsAttributes attributes

structure ClosingTag (name : List Char) where
  spelling : List Char
  blanks : List Char
  spells : Spells name spelling
  spaced : ∀ c ∈ blanks, isBlank c = true

/-- Elements of one name that are properly nested, with text around them. -/
inductive Forest (name : List Char) where
  | nil
  | text (shown : List Char) (no_tag : '<' ∉ shown) (rest : Forest name)
  | element (opening : OpeningTag name) (inside : Forest name)
    (closing : ClosingTag name) (rest : Forest name)

/-- A text without tags, or one tag. -/
inductive Item (name : List Char) where
  | text (shown : List Char) (no_tag : '<' ∉ shown)
  | opening (tag : OpeningTag name)
  | closing (tag : ClosingTag name)

variable {name : List Char}

def OpeningTag.source (tag : OpeningTag name) : List Char :=
  openingSource tag.spelling tag.attributes

def ClosingTag.source (tag : ClosingTag name) : List Char :=
  closingSource tag.spelling tag.blanks

namespace Item

def source : Item name → List Char
  | text shown _ => shown
  | opening tag => tag.source
  | closing tag => tag.source

def isClosing : Item name → Bool
  | closing _ => true
  | _ => false

end Item

namespace Forest

def source : Forest name → List Char
  | nil => []
  | text shown _ rest => shown ++ rest.source
  | element opening inside closing rest =>
    opening.source ++ (inside.source ++ (closing.source ++ rest.source))

/-- The text outside of all elements. -/
def outside : Forest name → List Char
  | nil => []
  | text shown _ rest => shown ++ rest.outside
  | element _ _ _ rest => rest.outside

def hasElement : Forest name → Bool
  | nil => false
  | text _ _ rest => rest.hasElement
  | element .. => true

/-- No element is in another. -/
def IsFlat : Forest name → Prop
  | nil => True
  | text _ _ rest => rest.IsFlat
  | element _ inside _ rest => inside.hasElement = false ∧ rest.IsFlat

def items : Forest name → List (Item name)
  | nil => []
  | text shown no_tag rest => .text shown no_tag :: rest.items
  | element opening inside closing rest =>
    .opening opening :: (inside.items ++ .closing closing :: rest.items)

theorem source_eq (forest : Forest name) :
    forest.source = forest.items.flatMap Item.source := by
  induction forest with
  | nil => rfl
  | text shown no_tag rest ih =>
      rw [source, items, List.flatMap_cons, ih]
      rfl
  | element opening inside closing rest ihi ihr =>
      rw [source, items, List.flatMap_cons, List.flatMap_append,
        List.flatMap_cons, ihi, ihr]
      rfl

end Forest

/-- What is left when elements are taken out, beginning inside of one or not. -/
def remains : (hidden : Bool) → List (Item name) → List Char
  | _, [] => []
  | false, .text shown _ :: rest => shown ++ remains false rest
  | false, .opening _ :: rest => remains true rest
  | false, .closing tag :: rest => tag.source ++ remains false rest
  | true, .text .. :: rest => remains true rest
  | true, .opening _ :: rest => remains true rest
  | true, .closing _ :: rest => remains false rest

/-! ## What is taken out -/

/-- Every opening tag is closed some time. -/
def Closed : List (Item name) → Prop
  | [] => True
  | .opening _ :: rest => (∃ item ∈ rest, item.isClosing = true) ∧ Closed rest
  | _ :: rest => Closed rest

variable {items others before after : List (Item name)} {item : Item name}

theorem Closed.append (h : Closed items) (hothers : Closed others) :
    Closed (items ++ others) := by
  induction items with
  | nil => exact hothers
  | cons item items ih =>
      cases item with
      | text | closing => exact ih h
      | opening =>
          obtain ⟨⟨item, hmem, hclosing⟩, h⟩ := h
          exact ⟨⟨item, List.mem_append_left _ hmem, hclosing⟩, ih h⟩

theorem Closed.of_append (h : Closed (items ++ others)) : Closed others := by
  induction items with
  | nil => exact h
  | cons item items ih =>
      cases item with
      | text | closing => exact ih h
      | opening => exact ih h.2

theorem Forest.closed_items (forest : Forest name) : Closed forest.items := by
  induction forest with
  | nil => exact trivial
  | text _ _ _ ih => exact ih
  | element opening inside closing rest ihi ihr =>
      have hclosing : Closed (.closing closing :: rest.items) := ihr
      refine ⟨⟨.closing closing, ?_, rfl⟩, ihi.append hclosing⟩
      exact List.mem_append_right _ (List.mem_cons_self ..)

theorem exists_first_closing
    (h : ∃ item ∈ items, item.isClosing = true) :
    ∃ before tag after, items = before ++ .closing tag :: after ∧
      ∀ item ∈ before, item.isClosing = false := by
  induction items with
  | nil =>
      obtain ⟨item, hmem, -⟩ := h
      cases hmem
  | cons item items ih =>
      cases hitem : item.isClosing with
      | true =>
          cases item with
          | closing tag => exact ⟨[], tag, items, rfl, nofun⟩
          | text | opening => cases hitem
      | false =>
          obtain ⟨other, hmem, hother⟩ := h
          rcases List.mem_cons.mp hmem with rfl | hmem
          · rw [hitem] at hother
            cases hother
          · obtain ⟨before, tag, after, rfl, hbefore⟩ := ih ⟨other, hmem, hother⟩
            refine ⟨item :: before, tag, after, rfl, ?_⟩
            intro earlier hearlier
            rcases List.mem_cons.mp hearlier with rfl | hearlier
            · exact hitem
            · exact hbefore earlier hearlier

theorem remains_hidden (h : ∀ item ∈ before, item.isClosing = false)
    (tag : ClosingTag name) (after : List (Item name)) :
    remains true (before ++ .closing tag :: after) = remains false after := by
  induction before with
  | nil => rfl
  | cons item before ih =>
      have hrest := ih fun other hmem => h other (List.mem_cons_of_mem _ hmem)
      cases item with
      | text | opening => exact hrest
      | closing => cases h _ (List.mem_cons_self ..)

theorem leaves_element_of_text {shown : List Char} (no_tag : '<' ∉ shown)
    (rest : List Char) : Leaves (element name) shown rest :=
  leaves_of_not_mem (fun _ text hc => element_of_ne hc text) no_tag

section

variable (hname : IsName name)
include hname

/-- No closing tag begins in a text or in an opening tag. -/
theorem leaves_closingTag (h : item.isClosing = false) (rest : List Char) :
    Leaves (closingTag name) item.source rest := by
  have hbracket : ∀ c text, c ≠ '<' → closingTag name (c :: text) = none :=
    fun c text hc => closingTag_of_ne hc text
  cases item with
  | text shown no_tag => exact leaves_of_not_mem hbracket no_tag
  | closing => cases h
  | opening tag =>
      apply leaves_openingSource hbracket hname tag.spells tag.attributed
      apply closingTag_of_other
      intro behind hslash
      -- A name begins with no slash, and attributes begin with a blank.
      have hspelling := tag.spells.not_mem hname '/' (by decide)
      have hblank := tag.attributed.blank
      exfalso
      cases hs : tag.spelling with
      | cons c spelling =>
          rw [hs, List.cons_append, List.cons_eq_cons] at hslash
          rw [hs, hslash.1] at hspelling
          exact hspelling (List.mem_cons_self ..)
      | nil =>
          rw [hs, List.nil_append] at hslash
          cases ha : tag.attributes with
          | nil =>
              rw [ha] at hslash
              cases hslash
          | cons c attributes =>
              rw [ha, List.cons_append, List.cons_eq_cons] at hslash
              rw [ha, hslash.1] at hblank
              cases hblank '/' rfl

theorem leaves_element_of_closing (tag : ClosingTag name) (rest : List Char) :
    Leaves (element name) tag.source rest :=
  leaves_closingSource (fun _ text hc => element_of_ne hc text) hname tag.spells
    tag.spaced fun text => element_eq_none (openingTag_of_slash hname text)

/-- An element that begins goes on to the first closing tag. -/
theorem takes_element_of_closing (opening : OpeningTag name)
    (hbefore : ∀ item ∈ before, item.isClosing = false)
    (closing : ClosingTag name) (rest : List Char) :
    Takes (element name) (opening.source ++
      (before.flatMap Item.source ++ closing.source)) rest :=
  takes_element opening.spells opening.attributed closing.spells closing.spaced
    (leaves_flatMap fun item hmem _ =>
      leaves_closingTag hname (hbefore item hmem) _)

theorem stripElement_items (h : Closed items) :
    stripElement name (items.flatMap Item.source) = remains false items := by
  induction hlength : items.length using Nat.strong_induction_on
    generalizing items with
  | _ length ih =>
      cases items with
      | nil => rfl
      | cons item items =>
          rw [List.length_cons] at hlength
          rw [List.flatMap_cons]
          cases item with
          | text shown no_tag =>
              have hrest : Closed items := h
              rw [remains, ← ih items.length (by omega) hrest rfl]
              exact removeMatches_of_leaves (leaves_element_of_text no_tag _)
          | closing tag =>
              have hrest : Closed items := h
              rw [remains, ← ih items.length (by omega) hrest rfl]
              exact removeMatches_of_leaves (leaves_element_of_closing hname tag _)
          | opening opening =>
              obtain ⟨hclosed, hrest⟩ := h
              obtain ⟨before, closing, after, rfl, hbefore⟩ :=
                exists_first_closing hclosed
              have hbehind : Closed (.closing closing :: after) :=
                hrest.of_append
              have hafter : Closed after := hbehind
              rw [List.length_append, List.length_cons] at hlength
              rw [remains, remains_hidden hbefore,
                ← ih after.length (by omega) hafter rfl, List.flatMap_append,
                List.flatMap_cons]
              have htakes := takes_element_of_closing hname opening hbefore
                closing (after.flatMap Item.source)
              have hne := List.append_ne_nil_of_left_ne_nil
                (List.cons_ne_nil _ _ : opening.source ≠ [])
                (before.flatMap Item.source ++ closing.source)
              have hgone := removeMatches_of_takes htakes hne
              rw [List.append_assoc, List.append_assoc] at hgone
              exact hgone

end

/-! ## What should be taken out -/

theorem bracket_mem_source (tag : ClosingTag name) : '<' ∈ tag.source :=
  List.mem_cons_self ..

namespace Forest

variable {forest : Forest name} {more : List (Item name)}

theorem bracket_not_mem_outside (forest : Forest name) :
    '<' ∉ forest.outside := by
  induction forest with
  | nil => exact List.not_mem_nil
  | text shown no_tag rest ih =>
      rw [outside, List.mem_append, not_or]
      exact ⟨no_tag, ih⟩
  | element _ _ _ _ _ ih => exact ih

theorem not_closing_of_hasElement (h : forest.hasElement = false) :
    ∀ item ∈ forest.items, item.isClosing = false := by
  induction forest with
  | nil => exact nofun
  | text shown no_tag rest ih =>
      intro item hmem
      rcases List.mem_cons.mp hmem with rfl | hmem
      · rfl
      · exact ih h item hmem
  | element => cases h

/-- Elements side by side are taken out whole. -/
theorem remains_of_isFlat (h : forest.IsFlat) (more : List (Item name)) :
    remains false (forest.items ++ more) =
      forest.outside ++ remains false more := by
  induction forest with
  | nil => rfl
  | text shown no_tag rest ih =>
      rw [items, List.cons_append, remains, ih h, outside, List.append_assoc]
  | element opening inside closing rest _ ih =>
      obtain ⟨hinside, hrest⟩ := h
      rw [items, List.cons_append, remains, List.append_assoc,
        List.cons_append, remains_hidden (not_closing_of_hasElement hinside),
        ih hrest]
      rfl

/-- In front of a closing tag, a forest leaves this tag or one of its own, unless
it is hidden and has none that could end the hiding. -/
theorem bracket_mem_remains (forest : Forest name) :
    (∀ tag more, '<' ∈ remains false (forest.items ++ .closing tag :: more)) ∧
    (forest.hasElement = true → ∀ tag more,
      '<' ∈ remains true (forest.items ++ .closing tag :: more)) := by
  induction forest with
  | nil =>
      exact ⟨fun tag more =>
        List.mem_append_left _ (bracket_mem_source tag), nofun⟩
  | text shown no_tag rest ih =>
      exact ⟨fun tag more => List.mem_append_right _ (ih.1 tag more), ih.2⟩
  | element opening inside closing rest ihi ihr =>
      -- Behind the opening tag all is hidden, in whatever state it came.
      have hhidden : ∀ tag more, '<' ∈ remains true ((inside.items ++
          .closing closing :: rest.items) ++ .closing tag :: more) := by
        intro tag more
        rw [List.append_assoc, List.cons_append]
        cases hinside : inside.hasElement with
        | true => exact ihi.2 hinside closing _
        | false =>
            rw [remains_hidden (not_closing_of_hasElement hinside)]
            exact ihr.1 tag more
      exact ⟨hhidden, fun _ => hhidden⟩

theorem bracket_mem_of_not_isFlat (h : ¬forest.IsFlat)
    (more : List (Item name)) :
    '<' ∈ remains false (forest.items ++ more) := by
  induction forest with
  | nil => exact absurd trivial h
  | text shown no_tag rest ih => exact List.mem_append_right _ (ih h)
  | element opening inside closing rest _ ih =>
      rw [items, List.cons_append, remains, List.append_assoc,
        List.cons_append]
      cases hinside : inside.hasElement with
      | true => exact inside.bracket_mem_remains.2 hinside closing _
      | false =>
          rw [remains_hidden (not_closing_of_hasElement hinside)]
          exact ih fun hrest => h ⟨hinside, hrest⟩

end Forest

/-- Elements are taken out up to the first closing tag, so they go with all they
hold if none is in another, and only then. -/
theorem stripElement_forest (hname : IsName name) (forest : Forest name) :
    stripElement name forest.source = remains false forest.items ∧
    (stripElement name forest.source = forest.outside ↔ forest.IsFlat) := by
  have hremains : stripElement name forest.source =
      remains false forest.items := by
    rw [forest.source_eq, stripElement_items hname forest.closed_items]
  refine ⟨hremains, ?_⟩
  rw [hremains]
  constructor
  · intro houtside
    by_contra hnested
    have hmem := Forest.bracket_mem_of_not_isFlat hnested []
    rw [List.append_nil, houtside] at hmem
    exact forest.bracket_not_mem_outside hmem
  · intro hflat
    have hleft := Forest.remains_of_isFlat hflat []
    rw [List.append_nil] at hleft
    exact hleft.trans (List.append_nil _)

/-- Two drawings side by side, the letter case of their tags mixed. -/
def twoDrawings : Forest "svg".toList :=
  .text "1 > 0 ".toList (by decide) <|
  .element ⟨"SVG".toList, " id=1".toList, by decide, by decide⟩
    (.text "a".toList (by decide) .nil)
    ⟨"Svg".toList, "\n ".toList, by decide, by decide⟩ <|
  .element ⟨"\u017Fvg".toList, [], by decide +kernel, by decide⟩ .nil
    ⟨"svg".toList, [], by decide, by decide⟩ <|
  .text "end".toList (by decide) .nil

theorem stripElement_twoDrawings :
    IsName "svg".toList ∧ twoDrawings.IsFlat ∧
    twoDrawings.source =
      "1 > 0 <SVG id=1>a</Svg\n ><\u017Fvg></svg>end".toList ∧
    stripElement "svg".toList twoDrawings.source = "1 > 0 end".toList := by
  have hname : IsName "svg".toList := by decide
  have hflat : twoDrawings.IsFlat := ⟨rfl, rfl, trivial⟩
  exact ⟨hname, hflat, by decide,
    (stripElement_forest hname twoDrawings).2.mpr hflat⟩

/-- A drawing in a drawing. -/
def nestedDrawing : Forest "svg".toList :=
  .element ⟨"svg".toList, [], by decide, by decide⟩
    (.text "a".toList (by decide) <|
      .element ⟨"svg".toList, [], by decide, by decide⟩
        (.text "b".toList (by decide) .nil)
        ⟨"svg".toList, [], by decide, by decide⟩ <|
      .text "c".toList (by decide) .nil)
    ⟨"svg".toList, [], by decide, by decide⟩ <|
  .text "d".toList (by decide) .nil

/-- The end of the outer drawing remains and is read as text of the page. -/
theorem stripElement_nestedDrawing :
    nestedDrawing.source = "<svg>a<svg>b</svg>c</svg>d".toList ∧
    nestedDrawing.outside = "d".toList ∧
    stripElement "svg".toList nestedDrawing.source = "c</svg>d".toList ∧
    stripHtml nestedDrawing.source = "cd".toList ∧
    ¬∀ (name : List Char) (forest : Forest name), IsName name →
      stripElement name forest.source = forest.outside := by
  refine ⟨by decide, by decide, by decide +kernel, by decide +kernel, ?_⟩
  intro h
  have hdrawing := h "svg".toList nestedDrawing (by decide)
  revert hdrawing
  decide +kernel

end Concordance.Markup
