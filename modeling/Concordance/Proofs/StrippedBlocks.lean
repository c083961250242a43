import Mathlib.Data.List.Infix
import Concordance.Proofs.VisibleText

/-!
# What is left of a page is whole nowhere

Comments and the elements that are not shown are taken out in one pass each. A
pass takes out all there is of its kind where it looks; but what it takes out
joins what stood on either side, and so what is left can hold a comment or an
element again, of the same kind or of one whose pass is over
(`stripBlockElements_splitTag`).

What can be said of every page is that such a match was not there before. A page
falls into what stays and what goes, and in no stretch of it that stays without
a break there is a match (`stripBlockElements_marked`). For a character that a
pass leaves has no match behind it, and with less text behind it there would be
none either (`Persists`); and a stretch that stays to the end has stayed in each
of the passes (`infix_overlay`).

So stripping changes nothing exactly where there is nothing to strip
(`stripBlockElements_eq_self_iff`), and of a well-formed page, whose pieces do not
join, nothing is left to strip (`isBare_page`).
-/

namespace Concordance.Text

variable {matcher first second : Matcher} {part text rest : List Char}

/-! ## Matches in a longer text -/

/-- A match is in the text and stays a match, maybe a shorter one, when more text
follows. -/
structure Persists (matcher : Matcher) : Prop where
  le : ∀ part length, matcher part = some length → length ≤ part.length
  append : ∀ part rest, (matcher part).isSome = true →
    (matcher (part ++ rest)).isSome = true

/-- A match is in the text and stays the same when more text follows. -/
def Rigid (matcher : Matcher) : Prop :=
  ∀ part rest length, matcher part = some length →
    length ≤ part.length ∧ matcher (part ++ rest) = some length

theorem Rigid.persists (h : Rigid matcher) : Persists matcher where
  le part length hlength := (h part [] length hlength).1
  append part rest hpart := by
    obtain ⟨length, hlength⟩ := Option.isSome_iff_exists.mp hpart
    rw [(h part rest length hlength).2]
    rfl

theorem rigid_literally (pattern : List Char) : Rigid (literally pattern) := by
  intro part rest length h
  unfold literally at h ⊢
  split at h
  · next hfront =>
      cases h
      rw [List.isPrefixOf_iff_prefix] at hfront
      refine ⟨hfront.length_le, if_pos ?_⟩
      rw [List.isPrefixOf_iff_prefix]
      exact hfront.trans (List.prefix_append part rest)
  · cases h

theorem followedBy_eq_some {length : Nat}
    (h : followedBy first second text = some length) :
    ∃ front back, first text = some front ∧
      second (text.drop front) = some back ∧ length = front + back := by
  obtain ⟨front, hfront, h⟩ := Option.bind_eq_some_iff.mp h
  obtain ⟨back, hback, rfl⟩ := Option.map_eq_some_iff.mp h
  exact ⟨front, back, hfront, hback, rfl⟩

/-- What is matched first is matched in a longer text as well, and then the
second matcher finds its text longer by as much. -/
theorem Rigid.followedBy_append (hfirst : Rigid first) {front : Nat}
    (hfront : first part = some front) (rest : List Char) :
    followedBy first second (part ++ rest) =
      (second (part.drop front ++ rest)).map (front + ·) := by
  obtain ⟨hle, hlonger⟩ := hfirst part rest front hfront
  rw [followedBy, hlonger, Option.bind_some, List.drop_append_of_le_length hle]

theorem Rigid.followedBy (hfirst : Rigid first) (hsecond : Rigid second) :
    Rigid (followedBy first second) := by
  intro part rest length h
  obtain ⟨front, back, hfront, hback, rfl⟩ := followedBy_eq_some h
  obtain ⟨hle, -⟩ := hfirst part rest front hfront
  obtain ⟨hbehind, hlonger⟩ := hsecond _ rest back hback
  rw [List.length_drop] at hbehind
  refine ⟨by omega, ?_⟩
  rw [hfirst.followedBy_append hfront, hlonger, Option.map_some]

theorem Rigid.followedBy_persists (hfirst : Rigid first)
    (hsecond : Persists second) : Persists (Text.followedBy first second) where
  le part length hlength := by
    obtain ⟨front, back, hfront, hback, rfl⟩ := followedBy_eq_some hlength
    obtain ⟨hle, -⟩ := hfirst part [] front hfront
    have hbehind := hsecond.le _ back hback
    rw [List.length_drop] at hbehind
    omega
  append part rest h := by
    obtain ⟨length, hlength⟩ := Option.isSome_iff_exists.mp h
    obtain ⟨front, back, hfront, hback, rfl⟩ := followedBy_eq_some hlength
    rw [hfirst.followedBy_append hfront, Option.isSome_map]
    apply hsecond.append
    rw [hback]
    rfl

theorem throughFirst_le (h : Persists matcher) {length : Nat}
    (hmatch : throughFirst matcher text = some length) :
    length ≤ text.length := by
  induction text generalizing length with
  | nil => exact h.le [] length hmatch
  | cons c text ih =>
      rw [throughFirst] at hmatch
      split at hmatch
      · next found hfound =>
          cases hmatch
          exact h.le _ _ hfound
      · obtain ⟨found, hfound, rfl⟩ := Option.map_eq_some_iff.mp hmatch
        have hle := ih hfound
        rw [List.length_cons]
        omega

/-- If there is a first match, then there is one in a longer text, if perhaps
another. -/
theorem throughFirst_append (h : Persists matcher)
    (hpart : (throughFirst matcher part).isSome = true) (rest : List Char) :
    (throughFirst matcher (part ++ rest)).isSome = true := by
  induction part with
  | nil =>
      have hrest := h.append [] rest hpart
      cases rest with
      | nil => exact hpart
      | cons c rest =>
          obtain ⟨length, hlength⟩ := Option.isSome_iff_exists.mp hrest
          rw [List.nil_append] at hlength ⊢
          rw [throughFirst, hlength]
          rfl
  | cons c part ih =>
      rw [throughFirst] at hpart
      rw [List.cons_append, throughFirst]
      cases hlonger : matcher (c :: (part ++ rest)) with
      | some length => rfl
      | none =>
          cases hmatch : matcher (c :: part) with
          | some length =>
              have hsome := h.append (c :: part) rest (by rw [hmatch]; rfl)
              rw [List.cons_append, hlonger] at hsome
              cases hsome
          | none =>
              rw [hmatch, Option.isSome_map] at hpart
              rw [Option.isSome_map]
              exact ih hpart

theorem Persists.throughFirst (h : Persists matcher) :
    Persists (throughFirst matcher) where
  le _ _ hlength := throughFirst_le h hlength
  append _ rest hpart := throughFirst_append h hpart rest

/-! ## What stays of a text -/

/-- A character of a text, and whether it stays there. -/
structure Mark where
  char : Char
  stays : Bool

namespace Mark

variable {marks others run : List Mark}

/-- The text that is marked. -/
def source (marks : List Mark) : List Char := marks.map char

/-- What stays of a marked text. -/
def remaining (marks : List Mark) : List Char := (marks.filter stays).map char

/-- Whatever stays in one unbroken stretch is as told. -/
def Unbroken (told : List Char → Prop) (marks : List Mark) : Prop :=
  ∀ run, run <:+: marks → (∀ mark ∈ run, mark.stays = true) → told (source run)

/-- The marks of a text of which some stays, and of that again some. -/
def overlay : (marks others : List Mark) → List Mark
  | [], _ => []
  | ⟨c, false⟩ :: marks, others => ⟨c, false⟩ :: overlay marks others
  | ⟨c, true⟩ :: marks, others =>
    ⟨c, others.head?.any stays⟩ :: overlay marks others.tail

theorem source_overlay (marks others : List Mark) :
    source (overlay marks others) = source marks := by
  fun_induction overlay marks others with
  | case1 => rfl
  | case2 c marks others ih => exact congrArg (c :: ·) ih
  | case3 c marks others ih => exact congrArg (c :: ·) ih

/-- What stays of a text whose first character stays is marked from there on. -/
theorem exists_cons_of_source {c : Char}
    (h : source others = remaining (⟨c, true⟩ :: marks)) :
    ∃ stays rest, others = ⟨c, stays⟩ :: rest ∧ source rest = remaining marks := by
  cases others with
  | nil => cases h
  | cons other rest =>
      obtain ⟨hhead, htail⟩ := List.cons.inj h
      obtain ⟨d, stays⟩ := other
      cases hhead
      exact ⟨stays, rest, rfl, htail⟩

theorem remaining_overlay (h : source others = remaining marks) :
    remaining (overlay marks others) = remaining others := by
  induction marks generalizing others with
  | nil =>
      rw [List.map_eq_nil_iff.mp h]
      rfl
  | cons mark marks ih =>
      obtain ⟨c, stays⟩ := mark
      cases stays with
      | false => exact ih h
      | true =>
          obtain ⟨stays, rest, rfl, hrest⟩ := exists_cons_of_source h
          cases stays with
          | false => exact ih hrest
          | true => exact congrArg (c :: ·) (ih hrest)

theorem prefix_overlay (h : source others = remaining marks)
    (hrun : run <+: overlay marks others) (hstays : ∀ mark ∈ run, mark.stays = true) :
    run <+: marks ∧ run <+: others := by
  induction marks generalizing others run with
  | nil =>
      rw [List.prefix_nil.mp hrun]
      exact ⟨List.nil_prefix, List.nil_prefix⟩
  | cons mark marks ih =>
      cases run with
      | nil => exact ⟨List.nil_prefix, List.nil_prefix⟩
      | cons first run =>
          have hfirst := hstays first (List.mem_cons_self ..)
          have hbehind := fun mark hmem => hstays mark (List.mem_cons_of_mem _ hmem)
          obtain ⟨c, stays⟩ := mark
          cases stays with
          | false =>
              obtain ⟨rfl, -⟩ := List.cons_prefix_cons.mp hrun
              cases hfirst
          | true =>
              obtain ⟨stays, rest, rfl, hrest⟩ := exists_cons_of_source h
              obtain ⟨rfl, htail⟩ := List.cons_prefix_cons.mp hrun
              obtain rfl : stays = true := hfirst
              obtain ⟨hmarks, hothers⟩ := ih hrest htail hbehind
              exact ⟨List.cons_prefix_cons.mpr ⟨rfl, hmarks⟩,
                List.cons_prefix_cons.mpr ⟨rfl, hothers⟩⟩

/-- A stretch that stays in the end has stayed, unbroken, both times. -/
theorem infix_overlay (h : source others = remaining marks)
    (hrun : run <:+: overlay marks others) (hstays : ∀ mark ∈ run, mark.stays = true) :
    run <:+: marks ∧ run <:+: others := by
  induction marks generalizing others with
  | nil =>
      rw [List.infix_nil.mp hrun]
      exact ⟨List.nil_infix, List.nil_infix⟩
  | cons mark marks ih =>
      by_cases hfront : run <+: overlay (mark :: marks) others
      · obtain ⟨hmarks, hothers⟩ := prefix_overlay h hfront hstays
        exact ⟨hmarks.isInfix, hothers.isInfix⟩
      · obtain ⟨c, stays⟩ := mark
        cases stays with
        | false =>
            have hbehind := (List.infix_cons_iff.mp hrun).resolve_left hfront
            obtain ⟨hmarks, hothers⟩ := ih h hbehind
            exact ⟨List.infix_cons hmarks, hothers⟩
        | true =>
            have hbehind := (List.infix_cons_iff.mp hrun).resolve_left hfront
            obtain ⟨stays, rest, rfl, hrest⟩ := exists_cons_of_source h
            obtain ⟨hmarks, hothers⟩ := ih hrest hbehind
            exact ⟨List.infix_cons hmarks, List.infix_cons hothers⟩

theorem Unbroken.overlay {told other : List Char → Prop}
    (h : source others = remaining marks) (hmarks : Unbroken told marks)
    (hothers : Unbroken other others) :
    Unbroken (fun text => told text ∧ other text) (overlay marks others) := by
  intro run hrun hstays
  obtain ⟨hfirst, hsecond⟩ := infix_overlay h hrun hstays
  exact ⟨hmarks run hfirst hstays, hothers run hsecond hstays⟩

theorem remaining_eq_source_iff : remaining marks = source marks ↔
    ∀ mark ∈ marks, mark.stays = true := by
  constructor
  · intro h
    have hlength := congrArg List.length h
    rw [remaining, source, List.length_map, List.length_map] at hlength
    exact List.length_filter_eq_length_iff.mp hlength
  · intro h
    rw [remaining, List.filter_eq_self.mpr h]
    rfl

/-- What goes breaks no stretch, and joins none. -/
theorem Unbroken.gone {told : List Char → Prop} (h : Unbroken told marks)
    (hnil : told []) (part : List Char) :
    Unbroken told (part.map (⟨·, false⟩) ++ marks) := by
  induction part with
  | nil => exact h
  | cons c part ih =>
      intro run hrun hstays
      rcases List.infix_cons_iff.mp hrun with hrun | hrun
      · cases run with
        | nil => exact hnil
        | cons first run =>
            have hfirst := hstays first (List.mem_cons_self ..)
            obtain ⟨rfl, -⟩ := List.cons_prefix_cons.mp hrun
            cases hfirst
      · exact ih run hrun hstays

theorem source_append (marks others : List Mark) :
    source (marks ++ others) = source marks ++ source others :=
  List.map_append

theorem source_gone (part : List Char) :
    source (part.map (⟨·, false⟩)) = part := by
  rw [source, List.map_map]
  exact List.map_id part

theorem remaining_gone (part : List Char) (marks : List Mark) :
    remaining (part.map (⟨·, false⟩) ++ marks) = remaining marks := by
  induction part with
  | nil => rfl
  | cons c part ih => exact ih

/-! ## One pass -/

/-- No match begins in a stretch in front of which none was found. -/
theorem Unbroken.left (h : Unbroken (Leaves matcher · []) marks)
    (hmatcher : Persists matcher) {c : Char}
    (hnone : matcher (c :: source marks) = none) :
    Unbroken (Leaves matcher · []) (⟨c, true⟩ :: marks) := by
  intro run hrun hstays
  rcases List.infix_cons_iff.mp hrun with hrun | hrun
  · cases run with
    | nil => exact trivial
    | cons first run =>
        have hbehind := fun mark hmem => hstays mark (List.mem_cons_of_mem _ hmem)
        obtain ⟨rfl, htail⟩ := List.cons_prefix_cons.mp hrun
        refine ⟨?_, h run htail.isInfix hbehind⟩
        obtain ⟨more, rfl⟩ := htail
        rw [source_append] at hnone
        rw [List.append_nil]
        cases hmatch : matcher (c :: source run) with
        | none => exact hmatch
        | some length =>
            have hlonger := hmatcher.append (c :: source run) (source more)
              (by rw [hmatch]; rfl)
            rw [List.cons_append, hnone] at hlonger
            cases hlonger
  · exact h run hrun hstays

end Mark

open Mark (source remaining Unbroken)

/-- What a pass leaves unbroken holds no match. -/
theorem Split.exists_marks {pieces : List Stretch}
    (h : Split matcher text pieces) (hmatcher : Persists matcher) :
    ∃ marks, source marks = text ∧ remaining marks = removeMatches matcher text ∧
      Unbroken (Leaves matcher · []) marks := by
  induction h with
  | nil =>
      refine ⟨[], rfl, rfl, fun run hrun _ => ?_⟩
      rw [List.infix_nil.mp hrun]
      exact trivial
  | @left c rest _ hnone _ ih =>
      obtain ⟨marks, rfl, hremaining, hunbroken⟩ := ih
      refine ⟨⟨c, true⟩ :: marks, rfl, ?_, hunbroken.left hmatcher hnone⟩
      have hleaves : Leaves matcher [c] (source marks) := ⟨hnone, trivial⟩
      exact (congrArg (c :: ·) hremaining).trans
        (removeMatches_of_leaves hleaves).symm
  | @taken part rest _ hne htakes _ ih =>
      obtain ⟨marks, rfl, hremaining, hunbroken⟩ := ih
      refine ⟨part.map (⟨·, false⟩) ++ marks, ?_, ?_, hunbroken.gone trivial part⟩
      · rw [Mark.source_append, Mark.source_gone]
      · rw [Mark.remaining_gone, hremaining]
        exact (removeMatches_of_takes htakes hne).symm

theorem Persists.exists_marks (h : Persists matcher)
    (hpos : ∀ part length, matcher part = some length → 0 < length)
    (text : List Char) :
    ∃ marks, source marks = text ∧ remaining marks = removeMatches matcher text ∧
      Unbroken (Leaves matcher · []) marks := by
  obtain ⟨pieces, hsplit⟩ := exists_split
    (fun part length hlength => ⟨hpos part length hlength, h.le part length hlength⟩)
    text
  exact hsplit.exists_marks h

end Concordance.Text

namespace Concordance.Markup

open Text
open Text.Mark (source remaining Unbroken)

/-! ## Comments and elements -/

variable {name html text : List Char}

theorem rigid_named (name : List Char) : Rigid (named name) := by
  induction name with
  | nil =>
      intro part rest length h
      cases part <;> cases h <;> exact ⟨Nat.zero_le _, rfl⟩
  | cons n name ih =>
      intro part rest length h
      cases part with
      | nil => cases h
      | cons c part =>
          rw [named] at h
          rw [List.cons_append, named]
          split at h
          · next hsame =>
              obtain ⟨found, hfound, rfl⟩ := Option.map_eq_some_iff.mp h
              obtain ⟨hle, hlonger⟩ := ih part rest found hfound
              rw [if_pos hsame, hlonger, List.length_cons]
              exact ⟨by omega, rfl⟩
          · cases h

theorem rigid_throughEnd : Rigid (throughFirst (literally ['>'])) := by
  intro part
  induction part with
  | nil =>
      intro rest length h
      cases h
  | cons c part ih =>
      intro rest length h
      by_cases hend : c = '>'
      · subst hend
        cases h
        exact ⟨by simp, rfl⟩
      · have hnone : ∀ text, literally ['>'] (c :: text) = none :=
          fun text => literally_of_ne hend [] text
        rw [throughFirst, hnone] at h
        obtain ⟨found, hfound, rfl⟩ := Option.map_eq_some_iff.mp h
        obtain ⟨hle, hlonger⟩ := ih rest found hfound
        rw [List.cons_append, throughFirst, hnone, List.length_cons]
        dsimp only
        rw [hlonger]
        exact ⟨by omega, rfl⟩

theorem rigid_openingRest : Rigid openingRest := by
  intro part rest length h
  cases part with
  | nil => cases h
  | cons c part =>
      by_cases hend : c = '>'
      · subst hend
        cases h
        exact ⟨by simp, rfl⟩
      · rw [openingRest.eq_2 _ _ hend] at h
        rw [List.cons_append, openingRest.eq_2 _ _ hend]
        split at h
        · next hblank =>
            obtain ⟨found, hfound, rfl⟩ := Option.map_eq_some_iff.mp h
            obtain ⟨hle, hlonger⟩ := rigid_throughEnd part rest found hfound
            rw [if_pos hblank, hlonger, List.length_cons]
            exact ⟨by omega, rfl⟩
        · cases h

theorem rigid_closingRest : Rigid closingRest := by
  intro part
  induction part with
  | nil =>
      intro rest length h
      cases h
  | cons c part ih =>
      intro rest length h
      rw [closingRest] at h
      rw [List.cons_append, closingRest]
      split at h
      · next hend =>
          cases h
          exact ⟨by simp, if_pos hend⟩
      · next hend =>
          split at h
          · next hblank =>
              obtain ⟨found, hfound, rfl⟩ := Option.map_eq_some_iff.mp h
              obtain ⟨hle, hlonger⟩ := ih rest found hfound
              rw [if_neg hend, if_pos hblank, hlonger, List.length_cons]
              exact ⟨by omega, rfl⟩
          · cases h

theorem rigid_openingTag (name : List Char) : Rigid (openingTag name) :=
  (rigid_literally _).followedBy ((rigid_named name).followedBy rigid_openingRest)

theorem rigid_closingTag (name : List Char) : Rigid (closingTag name) :=
  (rigid_literally _).followedBy ((rigid_named name).followedBy rigid_closingRest)

/-- A match that begins with given characters is not empty. -/
theorem pos_of_literally {first : Char} {pattern : List Char} {second : Matcher}
    {length : Nat}
    (h : followedBy (literally (first :: pattern)) second text = some length) :
    0 < length := by
  obtain ⟨front, back, hfront, -, rfl⟩ := followedBy_eq_some h
  unfold literally at hfront
  split at hfront
  · cases hfront
    exact Nat.add_pos_left (Nat.succ_pos _) back
  · cases hfront

theorem exists_marks_comment (html : List Char) :
    ∃ marks, source marks = html ∧ remaining marks = stripComments html ∧
      Unbroken (Leaves comment · []) marks :=
  ((rigid_literally _).followedBy_persists
    (rigid_literally _).persists.throughFirst).exists_marks
      (fun _ _ h => pos_of_literally h) html

theorem exists_marks_element (name html : List Char) :
    ∃ marks, source marks = html ∧ remaining marks = stripElement name html ∧
      Unbroken (Leaves (element name) · []) marks := by
  apply ((rigid_openingTag name).followedBy_persists
    (rigid_closingTag name).persists.throughFirst).exists_marks
  intro part length h
  obtain ⟨front, back, hfront, -, rfl⟩ := followedBy_eq_some h
  exact Nat.add_pos_left (pos_of_literally hfront) back

/-! ## All passes -/

/-- There is nothing in a text to strip, wherever one looks. -/
structure IsBare (text : List Char) : Prop where
  comment : Leaves comment text []
  element : ∀ name ∈ blockElements, Leaves (element name) text []

theorem exists_marks_elements (names : List (List Char)) (html : List Char) :
    ∃ marks, source marks = html ∧
      remaining marks = names.foldl (fun html name => stripElement name html) html ∧
      Unbroken (fun text => ∀ name ∈ names, Leaves (element name) text []) marks := by
  induction names generalizing html with
  | nil =>
      have hsource : source (html.map (⟨·, true⟩)) = html := by
        rw [source, List.map_map]
        exact List.map_id html
      refine ⟨html.map (⟨·, true⟩), hsource, ?_, fun _ _ _ => nofun⟩
      rw [Mark.remaining_eq_source_iff.mpr, hsource]
      · rfl
      · intro mark hmark
        obtain ⟨c, -, rfl⟩ := List.mem_map.mp hmark
        rfl
  | cons name names ih =>
      obtain ⟨marks, hsource, hremaining, hmarks⟩ := exists_marks_element name html
      obtain ⟨others, hothers, hrest, hunbroken⟩ := ih (stripElement name html)
      rw [← hremaining] at hothers
      refine ⟨Mark.overlay marks others, ?_, ?_, ?_⟩
      · rw [Mark.source_overlay, hsource]
      · rw [Mark.remaining_overlay hothers, hrest]
        rfl
      · intro run hrun hstays
        obtain ⟨hname, hnames⟩ := hmarks.overlay hothers hunbroken run hrun hstays
        intro other hother
        rcases List.mem_cons.mp hother with rfl | hother
        · exact hname
        · exact hnames other hother

/-- What is left of a page has no comment and no element in what stayed of the
page without a break. -/
theorem exists_marks_blocks (html : List Char) :
    ∃ marks, source marks = html ∧ remaining marks = stripBlockElements html ∧
      Unbroken IsBare marks := by
  obtain ⟨marks, hsource, hremaining, hmarks⟩ := exists_marks_comment html
  obtain ⟨others, hothers, hrest, hunbroken⟩ :=
    exists_marks_elements blockElements (stripComments html)
  rw [← hremaining] at hothers
  refine ⟨Mark.overlay marks others, ?_, ?_, ?_⟩
  · rw [Mark.source_overlay, hsource]
  · rw [Mark.remaining_overlay hothers, hrest]
    rfl
  · intro run hrun hstays
    obtain ⟨hcomment, helement⟩ := hmarks.overlay hothers hunbroken run hrun hstays
    exact ⟨hcomment, helement⟩

theorem removeMatches_eq_self {matcher : Matcher} (h : Leaves matcher text []) :
    removeMatches matcher text = text := by
  have hleft := removeMatches_of_leaves h
  rw [List.append_nil] at hleft
  exact hleft.trans (List.append_nil text)

theorem IsBare.stripBlockElements_eq (h : IsBare text) :
    stripBlockElements text = text := by
  have hnames : ∀ names : List (List Char), (∀ name ∈ names, name ∈ blockElements) →
      names.foldl (fun html name => stripElement name html) text = text := by
    intro names
    induction names with
    | nil => exact fun _ => rfl
    | cons name names ih =>
        intro hmem
        have hname : stripElement name text = text :=
          removeMatches_eq_self (h.element name (hmem name (List.mem_cons_self ..)))
        rw [List.foldl_cons, hname]
        exact ih fun other hother => hmem other (List.mem_cons_of_mem _ hother)
  rw [stripBlockElements, stripComments, removeMatches_eq_self h.comment]
  exact hnames blockElements fun _ hmem => hmem

/-- Stripping changes a text that there is something to strip in, and no other. -/
theorem stripBlockElements_eq_self_iff :
    stripBlockElements text = text ↔ IsBare text := by
  constructor
  · intro h
    obtain ⟨marks, hsource, hremaining, hunbroken⟩ := exists_marks_blocks text
    rw [h, ← hsource] at hremaining
    have hstays := Mark.remaining_eq_source_iff.mp hremaining
    rw [← hsource]
    exact hunbroken marks List.infix_rfl hstays
  · exact IsBare.stripBlockElements_eq

/-- The pieces of a well-formed page do not join. -/
theorem isBare_page (page : List Piece) :
    IsBare (stripBlockElements (page.flatMap Piece.source)) := by
  have hcomment : ∀ piece ∈ page.filter (!·.isComment),
      piece.isComment = false := fun piece hpiece => by
    simpa using List.of_mem_filter hpiece
  rw [stripBlockElements, stripComments_page,
    foldl_stripElement_page (fun _ h => h) hcomment]
  constructor
  · apply leaves_flatMap
    intro piece hpiece rest
    exact leaves_comment (hcomment piece (List.mem_of_mem_filter hpiece)) rest
  · intro name hname
    apply leaves_flatMap
    intro piece hpiece rest
    apply leaves_element hname (hcomment piece (List.mem_of_mem_filter hpiece))
    have hblock : piece.isElement blockElements = false := by
      simpa using List.of_mem_filter hpiece
    cases piece with
    | element other =>
        simp only [Piece.isElement, List.contains_eq_mem, decide_eq_false_iff_not] at hblock ⊢
        rintro hother
        rw [List.mem_singleton.mp hother] at hblock
        exact hblock hname
    | text | tag | comment => rfl

/-- What is left of a page holds no comment and no element that was there before:
where all characters of a stretch of the page stay, there is none. So what is left
to strip, if anything, has been joined from parts that stood apart. Nothing is left
where stripping once more changes nothing, and only there; and the pieces of a
well-formed page are never joined. -/
theorem stripBlockElements_marked (html : List Char) :
    (∃ marks : List Mark, source marks = html ∧
      remaining marks = stripBlockElements html ∧
      ∀ run, run <:+: marks → (∀ mark ∈ run, mark.stays = true) →
        IsBare (source run)) ∧
    (IsBare (stripBlockElements html) ↔
      stripBlockElements (stripBlockElements html) = stripBlockElements html) ∧
    ∀ page : List Piece, html = page.flatMap Piece.source →
      IsBare (stripBlockElements html) := by
  refine ⟨exists_marks_blocks html, stripBlockElements_eq_self_iff.symm, ?_⟩
  rintro page rfl
  exact isBare_page page

/-- An element that stands between the halves of an opening tag. -/
def splitTag : List Char := "<scr<script></script>ipt>hidden</script>".toList

/-- What is left of it is an element, but not one that was there unbroken. -/
theorem stripBlockElements_splitTag_marked : ∃ marks : List Mark,
    source marks = splitTag ∧
    remaining marks = "<script>hidden</script>".toList ∧
    ∀ run, run <:+: marks → (∀ mark ∈ run, mark.stays = true) →
      IsBare (source run) := by
  obtain ⟨marks, hsource, hremaining, hbare⟩ :=
    (stripBlockElements_marked splitTag).1
  refine ⟨marks, hsource, hremaining.trans ?_, hbare⟩
  decide +kernel

/-- Taking out the element in the middle joins the halves of the tag. -/
theorem stripBlockElements_splitTag :
    stripBlockElements splitTag = "<script>hidden</script>".toList ∧
    ¬IsBare (stripBlockElements splitTag) ∧
    stripBlockElements (stripBlockElements splitTag) = [] ∧
    stripHtml splitTag = "hidden".toList ∧
    ¬∀ html, IsBare (stripBlockElements html) := by
  have hleft : stripBlockElements splitTag =
      "<script>hidden</script>".toList := by decide +kernel
  have hagain : stripBlockElements "<script>hidden</script>".toList = [] := by
    decide +kernel
  have hnot : ¬IsBare (stripBlockElements splitTag) := by
    rw [hleft, ← stripBlockElements_eq_self_iff, hagain]
    exact nofun
  refine ⟨hleft, hnot, ?_, by decide +kernel, fun h => hnot (h splitTag)⟩
  rw [hleft, hagain]

end Concordance.Markup
