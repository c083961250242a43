import Mathlib.Data.List.Infix
import Concordance.Text.Matching

/-!
# What a matcher takes and what it leaves

Whether a match begins at some place of a text, and where it ends, can depend on
all that follows. So both are said of a part of a text and of the rest behind
it: a matcher takes a part when its match there is that part, and it leaves a
part when no match begins in it. Replacing goes from left to right, and a part
that is taken or left is done with: what becomes of the rest is what would
become of it alone. So a text is replaced part by part, once it is known how
each part is taken or left (`removeMatches_flatMap`).

Every text falls into characters that are left and parts that are taken, and
what the parts are replaced by has no say in it (`exists_split`).
-/

namespace Concordance.Text

/-- In front of `rest` there is a match, and it is `part`. -/
def Takes (matcher : Matcher) (part rest : List Char) : Prop :=
  matcher (part ++ rest) = some part.length

/-- In front of `rest` there is `part`, and no match begins in it. -/
def Leaves (matcher : Matcher) : (part rest : List Char) → Prop
  | [], _ => True
  | c :: part, rest =>
    matcher (c :: (part ++ rest)) = none ∧ Leaves matcher part rest

variable {matcher first second : Matcher} {part other rest : List Char}
  {meaning : List Char → List Char}

/-! ## Leaving -/

theorem leaves_append_iff : Leaves matcher (part ++ other) rest ↔
    Leaves matcher part (other ++ rest) ∧ Leaves matcher other rest := by
  induction part with
  | nil => exact (and_iff_right trivial).symm
  | cons c part ih =>
      rw [List.cons_append, Leaves, Leaves, ih, List.append_assoc, and_assoc]

theorem leaves_of_suffixes (h : ∀ c behind, c :: behind <:+ part →
    matcher (c :: (behind ++ rest)) = none) : Leaves matcher part rest := by
  induction part with
  | nil => exact trivial
  | cons c part ih =>
      refine ⟨h c part List.suffix_rfl, ih fun d behind hsuffix => ?_⟩
      exact h d behind (hsuffix.trans (List.suffix_cons c part))

section

variable {mark : Char} (h : ∀ c text, c ≠ mark → matcher (c :: text) = none)
include h

/-- Of a matcher whose matches all begin with `mark`, only what stands behind the
marks has to be known. -/
theorem leaves_of_marks (hpart : ∀ behind, mark :: behind <:+ part →
    matcher (mark :: (behind ++ rest)) = none) : Leaves matcher part rest := by
  apply leaves_of_suffixes
  intro c behind hsuffix
  by_cases hc : c = mark
  · subst hc
    exact hpart behind hsuffix
  · exact h c _ hc

theorem leaves_of_not_mem (hpart : mark ∉ part) : Leaves matcher part rest :=
  leaves_of_marks h fun _ hsuffix =>
    absurd (hsuffix.subset (List.mem_cons_self ..)) hpart

theorem leaves_cons_of_not_mem (hpart : mark ∉ part)
    (hmark : matcher (mark :: (part ++ rest)) = none) :
    Leaves matcher (mark :: part) rest :=
  ⟨hmark, leaves_of_not_mem h hpart⟩

end

theorem leaves_flatMap {α : Type} {source : α → List Char} {parts : List α}
    (h : ∀ x ∈ parts, ∀ rest, Leaves matcher (source x) rest) :
    Leaves matcher (parts.flatMap source) rest := by
  induction parts with
  | nil => exact trivial
  | cons x parts ih =>
      rw [List.flatMap_cons, leaves_append_iff]
      exact ⟨h x (List.mem_cons_self ..) _,
        ih fun y hy => h y (List.mem_cons_of_mem _ hy)⟩

/-! ## Replacing -/

theorem replaceFrom_length
    (replace : List Char → Option (Nat × List Char)) (part rest : List Char) :
    replaceFrom replace part.length (part ++ rest) =
      replaceMatches replace rest := by
  induction part with
  | nil => rfl
  | cons c part ih => exact ih

theorem replaceEach_of_takes (h : Takes matcher part rest)
    (hpart : part ≠ []) : replaceEach matcher meaning (part ++ rest) =
      meaning part ++ replaceEach matcher meaning rest := by
  obtain ⟨c, behind, rfl⟩ := List.exists_cons_of_ne_nil hpart
  unfold Takes at h
  rw [List.cons_append] at h
  have hmeant : (c :: (behind ++ rest)).take (c :: behind).length =
      c :: behind := List.take_left
  rw [replaceEach, replaceMatches, List.cons_append, replaceFrom, h,
    Option.map_some, hmeant]
  exact congrArg _ (replaceFrom_length _ behind rest)

theorem replaceEach_of_leaves (h : Leaves matcher part rest) :
    replaceEach matcher meaning (part ++ rest) =
      part ++ replaceEach matcher meaning rest := by
  induction part with
  | nil => rfl
  | cons c part ih =>
      obtain ⟨hnone, hpart⟩ := h
      rw [List.cons_append, List.cons_append, ← ih hpart]
      rw [replaceEach, replaceMatches, replaceFrom, hnone]
      rfl

theorem removeMatches_eq_replaceEach (text : List Char) :
    removeMatches matcher text = replaceEach matcher (fun _ => []) text :=
  rfl

theorem removeMatches_of_takes (h : Takes matcher part rest)
    (hpart : part ≠ []) :
    removeMatches matcher (part ++ rest) = removeMatches matcher rest := by
  rw [removeMatches_eq_replaceEach, replaceEach_of_takes h hpart]
  rfl

theorem removeMatches_of_leaves (h : Leaves matcher part rest) :
    removeMatches matcher (part ++ rest) =
      part ++ removeMatches matcher rest := by
  rw [removeMatches_eq_replaceEach, replaceEach_of_leaves h]
  rfl

/-- Of parts that are each taken or left, whatever follows, those that are left
remain. -/
theorem removeMatches_flatMap {α : Type} {source : α → List Char}
    {gone : α → Bool} {parts : List α}
    (htaken : ∀ x ∈ parts, gone x = true →
      source x ≠ [] ∧ ∀ rest, Takes matcher (source x) rest)
    (hleft : ∀ x ∈ parts, gone x = false →
      ∀ rest, Leaves matcher (source x) rest) :
    removeMatches matcher (parts.flatMap source) =
      (parts.filter (!gone ·)).flatMap source := by
  induction parts with
  | nil => rfl
  | cons x parts ih =>
      have hrest := ih (fun y hy => htaken y (List.mem_cons_of_mem _ hy))
        (fun y hy => hleft y (List.mem_cons_of_mem _ hy))
      rw [List.flatMap_cons, List.filter_cons]
      cases hgone : gone x with
      | true =>
          obtain ⟨hne, htakes⟩ := htaken x (List.mem_cons_self ..) hgone
          rw [removeMatches_of_takes (htakes _) hne]
          exact hrest
      | false =>
          have hleaves := hleft x (List.mem_cons_self ..) hgone
          rw [removeMatches_of_leaves (hleaves _), hrest]
          rfl

/-! ## Matchers made of matchers -/

theorem takes_literally (pattern rest : List Char) :
    Takes (literally pattern) pattern rest := by
  rw [Takes, literally, if_pos]
  exact List.isPrefixOf_iff_prefix.mpr (List.prefix_append _ _)

theorem literally_eq_none {pattern text : List Char}
    (h : ¬pattern <+: text) : literally pattern text = none := by
  rw [literally, if_neg]
  exact fun hprefix => h (List.isPrefixOf_iff_prefix.mp hprefix)

theorem followedBy_eq_none {text : List Char} (h : first text = none) :
    followedBy first second text = none := by
  rw [followedBy, h, Option.bind_none]

theorem Takes.followedBy_eq (h : Takes first part rest) :
    followedBy first second (part ++ rest) =
      (second rest).map (part.length + ·) := by
  rw [followedBy, h, Option.bind_some, List.drop_left]

theorem Takes.followedBy (hfirst : Takes first part (other ++ rest))
    (hsecond : Takes second other rest) :
    Takes (followedBy first second) (part ++ other) rest := by
  rw [Takes, List.append_assoc, hfirst.followedBy_eq, hsecond,
    Option.map_some, List.length_append]

theorem Takes.followedBy_eq_none (h : Takes first part rest)
    (hnone : second rest = none) :
    Text.followedBy first second (part ++ rest) = none := by
  rw [h.followedBy_eq, hnone, Option.map_none]

/-- The first match is the one in front of which no match begins. -/
theorem Takes.throughFirst (h : Takes matcher other rest)
    (hleaves : Leaves matcher part (other ++ rest)) :
    Takes (throughFirst matcher) (part ++ other) rest := by
  induction part with
  | nil =>
      unfold Takes at h ⊢
      rw [List.nil_append]
      cases htext : other ++ rest with
      | nil => rw [Text.throughFirst, ← htext, h]
      | cons c behind => rw [Text.throughFirst, ← htext, h]
  | cons c part ih =>
      obtain ⟨hnone, hpart⟩ := hleaves
      have hrest := ih hpart
      unfold Takes at hrest ⊢
      rw [List.append_assoc] at hrest
      rw [List.cons_append, List.cons_append, List.append_assoc,
        Text.throughFirst, hnone]
      dsimp only
      rw [hrest]
      rfl

/-! ## How a text falls into parts -/

/-- A piece of a text in which matches are replaced. -/
inductive Stretch where
  | left (c : Char)
  | taken (part : List Char)

/-- What a piece is in the text. -/
def Stretch.source : Stretch → List Char
  | left c => [c]
  | taken part => part

/-- What becomes of a piece. -/
def Stretch.shown (meaning : List Char → List Char) : Stretch → List Char
  | left c => [c]
  | taken part => meaning part

/-- The pieces that a matcher makes of a text. -/
inductive Split (matcher : Matcher) : List Char → List Stretch → Prop where
  | nil : Split matcher [] []
  | left {c : Char} {rest : List Char} {pieces : List Stretch} :
      matcher (c :: rest) = none → Split matcher rest pieces →
      Split matcher (c :: rest) (.left c :: pieces)
  | taken {part rest : List Char} {pieces : List Stretch} :
      part ≠ [] → Takes matcher part rest → Split matcher rest pieces →
      Split matcher (part ++ rest) (.taken part :: pieces)

namespace Split

variable {text behind : List Char} {pieces others : List Stretch}

theorem flatMap_source (h : Split matcher text pieces) :
    pieces.flatMap Stretch.source = text := by
  induction h with
  | nil => rfl
  | left _ _ ih => rw [List.flatMap_cons, ih]; rfl
  | taken _ _ _ ih => rw [List.flatMap_cons, ih]; rfl

/-- What is put in place of a piece depends on that piece only. -/
theorem replaceEach_eq (h : Split matcher text pieces)
    (meaning : List Char → List Char) :
    replaceEach matcher meaning text = pieces.flatMap (Stretch.shown meaning) := by
  induction h with
  | nil => rfl
  | @left c rest _ hnone _ ih =>
      have hleaves : Leaves matcher [c] rest := ⟨hnone, trivial⟩
      rw [List.flatMap_cons, ← ih]
      exact replaceEach_of_leaves hleaves
  | taken hne htakes _ ih =>
      rw [List.flatMap_cons, ← ih]
      exact replaceEach_of_takes htakes hne

/-- Texts that no match looks out of fall apart one after the other. -/
theorem append (h : Split matcher text pieces)
    (hbehind : Split matcher behind others)
    (hborder : ∀ inside, inside ≠ [] → inside <:+ text →
      matcher (inside ++ behind) = matcher inside) :
    Split matcher (text ++ behind) (pieces ++ others) := by
  induction h with
  | nil => exact hbehind
  | @left c rest _ hnone _ ih =>
      refine .left ?_ (ih fun inside hne hsuffix =>
        hborder inside hne (hsuffix.trans (List.suffix_cons c rest)))
      exact (hborder (c :: rest) (List.cons_ne_nil _ _)
        List.suffix_rfl).trans hnone
  | @taken part rest _ hne htakes _ ih =>
      rw [List.append_assoc]
      refine .taken hne ?_ (ih fun inside hinside hsuffix =>
        hborder inside hinside (hsuffix.trans (List.suffix_append part rest)))
      have hwhole := hborder (part ++ rest)
        (List.append_ne_nil_of_left_ne_nil hne _) List.suffix_rfl
      rw [Takes, ← List.append_assoc, hwhole]
      exact htakes

end Split

/-- A matcher that matches something, and no more than there is, makes pieces of
every text. -/
theorem exists_split (hmatcher : ∀ text length, matcher text = some length →
    0 < length ∧ length ≤ text.length) (text : List Char) :
    ∃ pieces, Split matcher text pieces := by
  induction hlength : text.length using Nat.strong_induction_on
    generalizing text with
  | _ size ih =>
      cases text with
      | nil => exact ⟨[], .nil⟩
      | cons c rest =>
          cases hmatch : matcher (c :: rest) with
          | none =>
              obtain ⟨pieces, hsplit⟩ := ih rest.length
                (by rw [← hlength, List.length_cons]; omega) rest rfl
              exact ⟨_, .left hmatch hsplit⟩
          | some length =>
              obtain ⟨hpos, hle⟩ := hmatcher _ _ hmatch
              have htake := List.take_append_drop length (c :: rest)
              have htaken : ((c :: rest).take length).length = length :=
                List.length_take_of_le hle
              obtain ⟨pieces, hsplit⟩ := ih ((c :: rest).drop length).length
                (by rw [List.length_drop]; omega) _ rfl
              refine ⟨.taken ((c :: rest).take length) :: pieces, ?_⟩
              conv => arg 2; rw [← htake]
              refine .taken ?_ ?_ hsplit
              · intro hnil
                rw [hnil, List.length_nil] at htaken
                omega
              · rw [Takes, htake, htaken, hmatch]

end Concordance.Text
