import Concordance.Proofs.ElementForms
import Concordance.Proofs.EntityBorders

/-!
# A page shows its text and nothing else

What a page shows is found by taking out one kind of markup after the other,
and each time all that is left is read as one text. So a kind could begin in one
piece of the page and end in another, or come about by what an earlier kind left
behind. Neither happens to a page that is well formed. A piece ends with a
closing bracket or has no opening one, so nothing that begins in a piece can go
on behind it; and what is left when one kind is gone is a well-formed page again.

Each kind is therefore taken out of the list of pieces (`removeMatches_flatMap`),
and when all are gone only the text is left (`stripHtml_page`).
-/

namespace Concordance.Markup

open Text

/-- What stands between the brackets of an opening tag. -/
def IsOpening (name inside : List Char) : Prop :=
  ∃ spelling attributes, Spells name spelling ∧ IsAttributes attributes ∧
    inside = spelling ++ attributes

instance (name inside : List Char) : Decidable (IsOpening name inside) :=
  decidable_of_iff (Spells name (inside.take name.length) ∧
      IsAttributes (inside.drop name.length)) <| by
    constructor
    · rintro ⟨hspells, hattributes⟩
      exact ⟨_, _, hspells, hattributes, (List.take_append_drop ..).symm⟩
    · rintro ⟨spelling, attributes, hspells, hattributes, rfl⟩
      have hlength : spelling.length = name.length := by
        simpa using congrArg List.length hspells
      rw [← hlength, List.take_left, List.drop_left]
      exact ⟨hspells, hattributes⟩

/-- Behind the opening bracket of a comment, or of an opening or closing tag of
an element that is not shown. -/
def BeginsMarkup (behind : List Char) : Prop :=
  "!--".toList <+: behind ∨ ∃ name ∈ blockElements,
    BeginsWithName name behind ∨
      behind.head? = some '/' ∧ BeginsWithName name behind.tail

instance (behind : List Char) : Decidable (BeginsMarkup behind) :=
  inferInstanceAs (Decidable (_ ∨ _))

/-- What may stand in an element that is not shown. -/
def IsContent (content : List Char) : Prop :=
  ∀ behind, '<' :: behind <:+ content → ¬BeginsMarkup behind

instance (content : List Char) : Decidable (IsContent content) :=
  decidable_of_iff (∀ part ∈ content.tails, part.head? = some '<' →
      ¬BeginsMarkup part.tail) <| by
    constructor
    · intro h behind hsuffix
      exact h ('<' :: behind) ((List.mem_tails _ _).mpr hsuffix) rfl
    · intro h part hpart hhead
      apply h
      rw [List.cons_head?_tail hhead]
      exact (List.mem_tails _ _).mp hpart

/-- A piece of a well-formed page. -/
inductive Piece where
  | text (shown : List Char) (no_tag : '<' ∉ shown) (no_entity : '&' ∉ shown)
  | tag (inside : List Char) (ne_nil : inside ≠ [])
    (no_opening : '<' ∉ inside) (no_closing : '>' ∉ inside)
    (no_comment : ¬"!--".toList <+: inside)
    (no_element : ∀ name ∈ blockElements, ¬IsOpening name inside)
  | comment (body : List Char) (not_closed : ¬"-->".toList <:+: body)
  | element (name opening attributes content closing blanks : List Char)
    (mem : name ∈ blockElements) (opens : Spells name opening)
    (attributed : IsAttributes attributes) (filled : IsContent content)
    (closes : Spells name closing) (spaced : ∀ c ∈ blanks, isBlank c = true)

namespace Piece

def source : Piece → List Char
  | text shown .. => shown
  | tag inside .. => '<' :: (inside ++ ['>'])
  | comment body .. => "<!--".toList ++ (body ++ "-->".toList)
  | element _ opening attributes content closing blanks .. =>
    openingSource opening attributes ++
      (content ++ closingSource closing blanks)

/-- What the reader of a page sees of a piece. -/
def shown : Piece → List Char
  | text shown .. => shown
  | _ => []

def isComment : Piece → Bool
  | comment .. => true
  | _ => false

def isTag : Piece → Bool
  | tag .. => true
  | _ => false

/-- Whether a piece is an element with one of these names. -/
def isElement (names : List (List Char)) : Piece → Bool
  | element name .. => names.contains name
  | _ => false

end Piece

variable {name inside body text rest : List Char} {c : Char} {piece : Piece}
  {page : List Piece}

theorem isName_of_mem_blockElements (h : name ∈ blockElements) :
    IsName name := by
  have hall : ∀ name ∈ blockElements, ∀ c ∈ name, c.isAlpha = true := by
    decide
  exact hall name h

/-! ## Comments -/

theorem comment_of_ne (h : c ≠ '<') (text : List Char) :
    comment (c :: text) = none :=
  followedBy_eq_none (literally_of_ne h _ text)

theorem comment_of_other (h : ¬"!--".toList <+: text) :
    comment ('<' :: text) = none :=
  followedBy_eq_none (literally_eq_none fun hprefix =>
    h (List.cons_prefix_cons.mp hprefix).2)

/-- A comment goes on to the first end of one. -/
theorem takes_comment (h : ¬"-->".toList <:+: body) (rest : List Char) :
    Takes comment ("<!--".toList ++ (body ++ "-->".toList)) rest := by
  apply (takes_literally _ _).followedBy
  apply (takes_literally _ rest).throughFirst
  apply leaves_of_suffixes
  intro c behind hsuffix
  apply literally_eq_none
  intro hprefix
  -- An end of comment that begins in the body would have to end in it.
  match behind with
  | [] => simp at hprefix
  | [d] => simp at hprefix
  | d :: e :: behind =>
      apply h
      refine List.IsInfix.trans ?_ hsuffix.isInfix
      have hbody : "-->".toList <+: [c, d, e] := by
        simpa [List.cons_prefix_cons] using hprefix
      exact (hbody.trans (List.prefix_append [c, d, e] behind)).isInfix

theorem leaves_comment (h : piece.isComment = false) (rest : List Char) :
    Leaves comment piece.source rest := by
  have hbracket : ∀ c text, c ≠ '<' → comment (c :: text) = none :=
    fun c text hc => comment_of_ne hc text
  cases piece with
  | text shown no_tag => exact leaves_of_not_mem hbracket no_tag
  | tag inside _ no_opening _ no_comment =>
      apply leaves_cons_of_not_mem hbracket
      · simp [no_opening]
      · apply comment_of_other
        rw [List.append_assoc]
        exact fun hprefix =>
          no_comment (prefix_of_append_cons hprefix (by decide))
  | comment => cases h
  | element name opening attributes content closing blanks mem opens attributed
      filled closes spaced =>
      have hname := isName_of_mem_blockElements mem
      have hopening : ¬"!--".toList <+:
          opening ++ (attributes ++ '>' :: (content ++
            closingSource closing blanks ++ rest)) := by
        intro hprefix
        have hmark := opens.not_mem hname '!' (by decide)
        cases opening with
        | nil =>
            have hnil : ∀ name ∈ blockElements, ¬Spells name [] := by decide
            exact hnil name mem opens
        | cons c opening =>
            rw [← (List.cons_prefix_cons.mp hprefix).1] at hmark
            exact hmark (List.mem_cons_self ..)
      refine leaves_append_iff.mpr ⟨?_, leaves_append_iff.mpr ⟨?_, ?_⟩⟩
      · exact leaves_openingSource hbracket hname opens attributed
          (comment_of_other hopening)
      · apply leaves_of_marks hbracket
        intro behind hsuffix
        apply comment_of_other
        intro hprefix
        exact filled behind hsuffix
          (.inl (prefix_of_append_cons hprefix (by decide)))
      · refine leaves_closingSource hbracket hname closes spaced fun text =>
          comment_of_other ?_
        simp

theorem stripComments_page (page : List Piece) :
    stripComments (page.flatMap Piece.source) =
      (page.filter (!·.isComment)).flatMap Piece.source := by
  apply removeMatches_flatMap
  · intro piece _ hcomment
    cases piece with
    | comment body not_closed =>
        exact ⟨nofun, takes_comment not_closed⟩
    | text | tag | element => cases hcomment
  · intro piece _ hother
    exact leaves_comment hother

/-! ## Elements -/

/-- A tag that is no opening tag of that name is not taken for one. -/
theorem openingTag_of_tag (hname : IsName name) (no_opening : '<' ∉ inside)
    (no_closing : '>' ∉ inside) (h : ¬IsOpening name inside)
    (rest : List Char) :
    openingTag name ('<' :: (inside ++ '>' :: rest)) = none := by
  by_cases hbegins : BeginsWithName name inside
  · obtain ⟨spelling, hspells, behind, rfl⟩ := hbegins
    rw [List.mem_append, not_or] at no_opening no_closing
    rw [List.append_assoc]
    apply (takes_literally ['<'] _).followedBy_eq_none
    apply (takes_named hspells _).followedBy_eq_none
    -- Behind the name stands neither the end of the tag nor a blank.
    cases behind with
    | nil =>
        exact absurd ⟨spelling, [], hspells, ⟨nofun, nofun, nofun⟩, rfl⟩ h
    | cons c behind =>
        have hend : c ≠ '>' := by
          rintro rfl
          exact no_closing.2 (List.mem_cons_self ..)
        rw [List.cons_append, openingRest.eq_2 _ _ hend, if_neg]
        intro hblank
        refine h ⟨spelling, c :: behind, hspells, ⟨?_, no_opening.2,
          no_closing.2⟩, rfl⟩
        intro d hd
        cases hd
        exact hblank
  · exact openingTag_of_other fun hfound =>
      hbegins (hfound.of_append_cons hname (by decide))

theorem takes_element_piece (h : piece.isElement [name] = true)
    (rest : List Char) : Takes (element name) piece.source rest := by
  cases piece with
  | text | tag | comment => cases h
  | element other opening attributes content closing blanks mem opens attributed
      filled closes spaced =>
      obtain rfl : other = name := by simpa [Piece.isElement] using h
      have hname := isName_of_mem_blockElements mem
      apply takes_element opens attributed closes spaced
      apply leaves_of_marks fun c text hc => closingTag_of_ne hc text
      intro behind hsuffix
      apply closingTag_of_other
      intro tail htail hbegins
      cases behind with
      | nil => cases htail
      | cons d behind =>
          rw [List.cons_append, List.cons_eq_cons] at htail
          obtain ⟨rfl, rfl⟩ := htail
          exact filled _ hsuffix (.inr ⟨other, mem, .inr
            ⟨rfl, hbegins.of_append_cons hname (by decide)⟩⟩)

theorem leaves_element (hmem : name ∈ blockElements)
    (hcomment : piece.isComment = false)
    (h : piece.isElement [name] = false) (rest : List Char) :
    Leaves (element name) piece.source rest := by
  have hname := isName_of_mem_blockElements hmem
  have hbracket : ∀ c text, c ≠ '<' → element name (c :: text) = none :=
    fun c text hc => element_of_ne hc text
  cases piece with
  | text shown no_tag => exact leaves_of_not_mem hbracket no_tag
  | tag inside _ no_opening no_closing _ no_element =>
      apply leaves_cons_of_not_mem hbracket
      · simp [no_opening]
      · apply element_eq_none
        rw [List.append_assoc]
        exact openingTag_of_tag hname no_opening no_closing
          (no_element name hmem) rest
  | comment => cases hcomment
  | element other opening attributes content closing blanks mem opens attributed
      filled closes spaced =>
      have hdistinct : other ≠ name := by
        simpa [Piece.isElement] using h
      have hother := isName_of_mem_blockElements mem
      have happart : ∀ other ∈ blockElements, ∀ name ∈ blockElements,
          name.map foldCase <+: other.map foldCase → other = name := by
        decide +kernel
      refine leaves_append_iff.mpr ⟨?_, leaves_append_iff.mpr ⟨?_, ?_⟩⟩
      · apply leaves_openingSource hbracket hother opens attributed
        apply element_eq_none
        apply openingTag_of_other
        intro hbegins
        rcases hbegins.comparable opens with hprefix | hprefix
        · exact hdistinct (happart other mem name hmem hprefix)
        · exact hdistinct (happart name hmem other mem hprefix).symm
      · apply leaves_of_marks hbracket
        intro behind hsuffix
        apply element_eq_none
        apply openingTag_of_other
        intro hbegins
        exact filled behind hsuffix (.inr ⟨name, hmem, .inl
          (hbegins.of_append_cons hname (by decide))⟩)
      · exact leaves_closingSource hbracket hother closes spaced fun text =>
          element_eq_none (openingTag_of_slash hname text)

theorem stripElement_page (hmem : name ∈ blockElements)
    (hpage : ∀ piece ∈ page, piece.isComment = false) :
    stripElement name (page.flatMap Piece.source) =
      (page.filter (!·.isElement [name])).flatMap Piece.source := by
  apply removeMatches_flatMap
  · intro piece _ helement
    refine ⟨?_, takes_element_piece helement⟩
    cases piece with
    | element =>
        exact List.append_ne_nil_of_left_ne_nil (List.cons_ne_nil _ _) _
    | text | tag | comment => cases helement
  · intro piece hpiece hother
    exact leaves_element hmem (hpage piece hpiece) hother

theorem foldl_stripElement_page {names : List (List Char)}
    (hnames : ∀ name ∈ names, name ∈ blockElements)
    (hpage : ∀ piece ∈ page, piece.isComment = false) :
    names.foldl (fun html name => stripElement name html)
        (page.flatMap Piece.source) =
      (page.filter (!·.isElement names)).flatMap Piece.source := by
  induction names generalizing page with
  | nil =>
      have hnone : ∀ piece : Piece, piece.isElement [] = false := by
        intro piece
        cases piece <;> rfl
      simp [hnone]
  | cons name names ih =>
      have hmem := hnames name (List.mem_cons_self ..)
      have hboth : ∀ piece : Piece,
          (!piece.isElement names && !piece.isElement [name]) =
            !piece.isElement (name :: names) := by
        intro piece
        cases piece with
        | element => simp [Piece.isElement, Bool.and_comm]
        | text | tag | comment => rfl
      rw [List.foldl_cons, stripElement_page hmem hpage,
        ih (fun other hother => hnames other (List.mem_cons_of_mem _ hother))
          (fun piece hpiece => hpage piece (List.mem_of_mem_filter hpiece)),
        List.filter_filter]
      simp only [hboth]

/-! ## Tags and entities -/

theorem tag_of_ne (h : c ≠ '<') (text : List Char) :
    tag (c :: text) = none := by
  unfold tag
  split
  · next heq =>
      cases heq
      exact absurd rfl h
  · rfl

theorem takes_tagRest (no_opening : '<' ∉ inside) (no_closing : '>' ∉ inside)
    (rest : List Char) : Takes tagRest (inside ++ ['>']) rest := by
  induction inside with
  | nil => rfl
  | cons c inside ih =>
      rw [List.mem_cons, not_or] at no_opening no_closing
      have hbehind := ih no_opening.2 no_closing.2
      unfold Takes at hbehind ⊢
      rw [List.cons_append, List.cons_append, tagRest,
        if_neg (Ne.symm no_closing.1), if_neg (Ne.symm no_opening.1), hbehind]
      rfl

theorem takes_tag (ne_nil : inside ≠ []) (no_opening : '<' ∉ inside)
    (no_closing : '>' ∉ inside) (rest : List Char) :
    Takes tag ('<' :: (inside ++ ['>'])) rest := by
  obtain ⟨c, inside, rfl⟩ := List.exists_cons_of_ne_nil ne_nil
  rw [List.mem_cons, not_or] at no_opening no_closing
  have hbehind := takes_tagRest no_opening.2 no_closing.2 rest
  unfold Takes at hbehind ⊢
  rw [List.cons_append, List.cons_append, List.cons_append, tag,
    if_neg (Ne.symm no_opening.1), hbehind]
  rfl

theorem stripTags_page (hcomment : ∀ piece ∈ page, piece.isComment = false)
    (helement : ∀ piece ∈ page, piece.isElement blockElements = false) :
    stripTags (page.flatMap Piece.source) =
      (page.filter (!·.isTag)).flatMap Piece.source := by
  apply removeMatches_flatMap
  · intro piece _ htag
    cases piece with
    | tag inside ne_nil no_opening no_closing =>
        exact ⟨nofun, takes_tag ne_nil no_opening no_closing⟩
    | text | comment | element => cases htag
  · intro piece hpiece hother rest
    cases piece with
    | text shown no_tag =>
        exact leaves_of_not_mem (fun c text hc => tag_of_ne hc text) no_tag
    | tag => cases hother
    | comment => cases hcomment _ hpiece
    | element name _ _ _ _ _ mem =>
        have hnone := helement _ hpiece
        simp [Piece.isElement, mem] at hnone

theorem stripEntities_of_not_mem (h : '&' ∉ text) :
    stripEntities text = text := by
  have hspared := (sparesText_replaceEntities entityText).before text [] h
  rw [List.append_nil] at hspared
  exact hspared.trans (List.append_nil text)

/-! ## Pages -/

/-- What is left when all that is not shown is gone. -/
theorem flatMap_shown (page : List Piece) :
    (((page.filter (!·.isComment)).filter
        (!·.isElement blockElements)).filter (!·.isTag)).flatMap Piece.source =
      page.flatMap Piece.shown := by
  induction page with
  | nil => rfl
  | cons piece page ih =>
      rw [List.flatMap_cons, ← ih]
      cases piece with
      | text | tag | comment => rfl
      | element name _ _ _ _ _ mem =>
          rw [List.filter_cons_of_pos rfl,
            List.filter_cons_of_neg (by simp [Piece.isElement, mem])]
          rfl

/-- Of a well-formed page its text remains, in order, and nothing else. -/
theorem stripHtml_page (page : List Piece) :
    stripHtml (page.flatMap Piece.source) = page.flatMap Piece.shown := by
  have hcomment : ∀ piece ∈ page.filter (!·.isComment),
      piece.isComment = false := fun piece hpiece => by
    simpa using List.of_mem_filter hpiece
  have helement : ∀ piece ∈ (page.filter (!·.isComment)).filter
      (!·.isElement blockElements), piece.isElement blockElements = false :=
    fun piece hpiece => by simpa using List.of_mem_filter hpiece
  have hentity : '&' ∉ page.flatMap Piece.shown := by
    intro hmem
    obtain ⟨piece, -, hmem⟩ := List.mem_flatMap.mp hmem
    cases piece with
    | text shown _ no_entity => exact no_entity hmem
    | tag | comment | element => cases hmem
  rw [stripHtml, stripBlockElements, stripComments_page,
    foldl_stripElement_page (fun _ h => h) hcomment,
    stripTags_page (fun piece hpiece =>
      hcomment piece (List.mem_of_mem_filter hpiece)) helement,
    flatMap_shown, stripEntities_of_not_mem hentity]

/-- A page with all kinds of pieces, in which each holds the begin of another. -/
def noticeBoard : List Piece := [
  .element "head".toList "HEAD".toList "\n".toList "a <b> <title>".toList
    "Head".toList "\n".toList (by decide) (by decide) (by decide) (by decide)
    (by decide) (by decide),
  .text "cats > dogs".toList (by decide) (by decide),
  .tag "p class=\"&amp;\"".toList (by decide) (by decide) (by decide) (by decide)
    (by decide),
  .comment " <script> -- ".toList (by decide),
  .element "script".toList "\u017Fcript".toList " src=x".toList
    "if (a</b/.c) d('<!-')".toList "SCRIPT".toList "\t".toList (by decide)
    (by decide +kernel) (by decide) (by decide) (by decide) (by decide),
  .tag "/svg".toList (by decide) (by decide) (by decide) (by decide)
    (by decide),
  .text " and birds".toList (by decide) (by decide)]

/-- All that is read of it is the text of two pieces. -/
theorem stripHtml_noticeBoard :
    noticeBoard.flatMap Piece.source =
      ("<HEAD\n>a <b> <title></Head\n>cats > dogs<p class=\"&amp;\">" ++
        "<!-- <script> -- --><\u017Fcript src=x>if (a</b/.c) d('<!-')" ++
        "</SCRIPT\t></svg> and birds").toList ∧
    stripHtml (noticeBoard.flatMap Piece.source) =
      "cats > dogs and birds".toList := by
  refine ⟨by decide +kernel, ?_⟩
  rw [stripHtml_page]
  rfl

end Concordance.Markup
