import Concordance.Markup.Strip
import Concordance.Proofs.MatchedParts

/-!
# Entities end where they end

An entity begins with an ampersand and ends with the next semicolon but one
that would stand right behind the ampersand, and there is no blank in it. It may
hold more ampersands, and brackets. So an entity that has begun is over at the
first blank, and where no semicolon comes any more there are no entities: of a
text that goes on so, no entity reaches into what follows (`entity_append`).

What is put in place of an entity depends on the entity only, and is not looked
at again. Therefore the text around the entities stays as it is, whatever is
made of them (`entities_replaced_apart`).
-/

namespace Concordance.Markup

open Text

variable {text inside behind : List Char} {c : Char}

/-! ## Where an entity ends -/

/-- A part of a text that is replaced. The character behind the ampersand may be
a semicolon, and then the part goes on to the next. -/
def IsEntity (part : List Char) : Prop :=
  ∃ head inside, part = '&' :: head :: (inside ++ [';']) ∧
    isBlank head = false ∧ (∀ c ∈ inside, isBlank c = false) ∧ ';' ∉ inside

theorem entityRest_eq_some {length : Nat} (h : entityRest text = some length) :
    ∃ inside rest, text = inside ++ ';' :: rest ∧
      length = inside.length + 1 ∧ (∀ c ∈ inside, isBlank c = false) ∧
      ';' ∉ inside := by
  induction text generalizing length with
  | nil => cases h
  | cons c text ih =>
      rw [entityRest] at h
      split at h
      · next hend =>
          cases h
          exact ⟨[], text, by rw [hend]; rfl, rfl, nofun, nofun⟩
      · next hend =>
          split at h
          · cases h
          · next hblank =>
              obtain ⟨size, hsize, rfl⟩ := Option.map_eq_some_iff.mp h
              obtain ⟨inside, rest, rfl, rfl, hsolid, hsemicolon⟩ := ih hsize
              refine ⟨c :: inside, rest, rfl, rfl, ?_, ?_⟩
              · intro d hd
                rcases List.mem_cons.mp hd with rfl | hd
                · exact Bool.eq_false_iff.mpr hblank
                · exact hsolid d hd
              · rw [List.mem_cons, not_or]
                exact ⟨Ne.symm hend, hsemicolon⟩

/-- What is matched is an entity. -/
theorem entity_eq_some {length : Nat} (h : entity text = some length) :
    ∃ part rest, text = part ++ rest ∧ length = part.length ∧
      IsEntity part := by
  unfold entity at h
  split at h
  · next head behind =>
      split at h
      · cases h
      · next hblank =>
          obtain ⟨size, hsize, rfl⟩ := Option.map_eq_some_iff.mp h
          obtain ⟨inside, rest, rfl, rfl, hsolid, hsemicolon⟩ :=
            entityRest_eq_some hsize
          refine ⟨'&' :: head :: (inside ++ [';']), rest, ?_, ?_, head, inside,
            rfl, Bool.eq_false_iff.mpr hblank, hsolid, hsemicolon⟩
          · rw [List.cons_append, List.cons_append, List.append_assoc]
            rfl
          · rw [List.length_cons, List.length_cons, List.length_append]
            rfl
  · cases h

theorem entityRest_append_semicolon (hsolid : ∀ c ∈ inside, isBlank c = false)
    (hsemicolon : ';' ∉ inside) (rest : List Char) :
    entityRest (inside ++ ';' :: rest) = some (inside.length + 1) := by
  induction inside with
  | nil => rfl
  | cons c inside ih =>
      rw [List.mem_cons, not_or] at hsemicolon
      have hrest := ih (fun d hd => hsolid d (List.mem_cons_of_mem _ hd))
        hsemicolon.2
      rw [List.cons_append, entityRest, if_neg (Ne.symm hsemicolon.1),
        hsolid c (List.mem_cons_self ..), if_neg Bool.false_ne_true, hrest]
      rfl

/-- Whether a part is matched does not depend on what follows. -/
theorem takes_entity_iff {part rest : List Char} :
    Takes entity part rest ↔ IsEntity part := by
  constructor
  · intro h
    obtain ⟨found, others, htext, hlength, hentity⟩ := entity_eq_some h
    rw [List.append_inj_left htext hlength]
    exact hentity
  · rintro ⟨head, inside, rfl, hhead, hsolid, hsemicolon⟩
    rw [Takes, List.cons_append, List.cons_append, List.append_assoc,
      List.singleton_append, entity, hhead, if_neg Bool.false_ne_true,
      entityRest_append_semicolon hsolid hsemicolon, List.length_cons,
      List.length_cons, List.length_append]
    rfl

theorem exists_split_entities (text : List Char) :
    ∃ pieces, Split entity text pieces := by
  apply exists_split
  intro text length h
  obtain ⟨part, rest, rfl, rfl, head, inside, rfl, -⟩ := entity_eq_some h
  rw [List.length_append, List.length_cons]
  omega

/-! ## Borders -/

theorem entity_of_ne (h : c ≠ '&') (text : List Char) :
    entity (c :: text) = none := by
  unfold entity
  split
  · next heq =>
      cases heq
      exact absurd rfl h
  · rfl

theorem entityRest_append (h : entityRest behind = none) :
    entityRest (inside ++ behind) = entityRest inside := by
  induction inside with
  | nil => exact h
  | cons c inside ih => rw [List.cons_append, entityRest, entityRest, ih]

theorem entityRest_of_blank (h : isBlank c = true) (text : List Char) :
    entityRest (c :: text) = none := by
  rw [entityRest, if_neg, if_pos h]
  rintro rfl
  cases h

theorem entityRest_of_not_mem (h : ';' ∉ text) : entityRest text = none := by
  cases hend : entityRest text with
  | none => rfl
  | some length =>
      obtain ⟨inside, rest, rfl, -⟩ := entityRest_eq_some hend
      exact absurd (List.mem_append_right _ (List.mem_cons_self ..)) h

theorem entity_of_not_mem (h : ';' ∉ text) : entity text = none := by
  cases hend : entity text with
  | none => rfl
  | some length =>
      obtain ⟨_, rest, rfl, -, head, inside, rfl, -⟩ := entity_eq_some hend
      exact absurd (by simp) h

/-- No entity reaches into a text in which none that has begun could end. -/
theorem entity_append (h : entityRest behind = none) (hinside : inside ≠ []) :
    entity (inside ++ behind) = entity inside := by
  obtain ⟨c, inside, rfl⟩ := List.exists_cons_of_ne_nil hinside
  by_cases hc : c = '&'
  · subst hc
    cases inside with
    | cons head inside =>
        rw [List.cons_append, List.cons_append, entity, entity,
          entityRest_append h]
    | nil =>
        -- The ampersand is last, so the entity would begin with `behind`.
        cases behind with
        | nil => rfl
        | cons d behind =>
            rw [entityRest] at h
            split at h
            · cases h
            · split at h
              · next hblank => exact if_pos hblank
              · rw [Option.map_eq_none_iff] at h
                show (if isBlank d then none else _) = none
                rw [h, Option.map_none, ite_self]
  · rw [List.cons_append, entity_of_ne hc, entity_of_ne hc]

theorem replaceEntities_append (meaning : List Char → List Char)
    (h : entityRest behind = none) :
    replaceEntities meaning (text ++ behind) =
      replaceEntities meaning text ++ replaceEntities meaning behind := by
  obtain ⟨pieces, hsplit⟩ := exists_split_entities text
  obtain ⟨others, hbehind⟩ := exists_split_entities behind
  have hboth := hsplit.append hbehind fun inside hinside _ =>
    entity_append h hinside
  rw [replaceEntities, replaceEntities, replaceEntities,
    hboth.replaceEach_eq, hsplit.replaceEach_eq, hbehind.replaceEach_eq,
    List.flatMap_append]

theorem replaceEntities_of_leaves (meaning : List Char → List Char)
    {part rest : List Char} (h : Leaves entity part rest) :
    replaceEntities meaning (part ++ rest) =
      part ++ replaceEntities meaning rest :=
  replaceEach_of_leaves h

/-! ## The text around the entities -/

/-- A change of texts between an ampersand and a semicolon, with no blank in
between. -/
structure SparesText (change : List Char → List Char) : Prop where
  blank : ∀ front back w, isBlank w = true →
    change (front ++ w :: back) = change front ++ w :: change back
  before : ∀ front back, '&' ∉ front →
    change (front ++ back) = front ++ change back
  behind : ∀ front back, ';' ∉ back →
    change (front ++ back) = change front ++ back

theorem sparesText_replaceEntities (meaning : List Char → List Char) :
    SparesText (replaceEntities meaning) := by
  constructor
  case blank =>
    intro front back w hw
    rw [replaceEntities_append meaning (entityRest_of_blank hw back)]
    have hleft : Leaves entity [w] back := by
      refine ⟨entity_of_ne ?_ _, trivial⟩
      rintro rfl
      cases hw
    exact congrArg _ (replaceEntities_of_leaves meaning hleft)
  case before =>
    intro front back hfront
    exact replaceEntities_of_leaves meaning
      (leaves_of_not_mem (fun _ text hc => entity_of_ne hc text) hfront)
  case behind =>
    intro front back hback
    have hleft : Leaves entity back [] := by
      apply leaves_of_suffixes
      intro c behind hsuffix
      rw [List.append_nil]
      exact entity_of_not_mem fun hmem => hback (hsuffix.subset hmem)
    have hsame : replaceEntities meaning back = back := by
      have h := replaceEntities_of_leaves meaning hleft
      rw [List.append_nil] at h
      exact h.trans (List.append_nil back)
    rw [replaceEntities_append meaning (entityRest_of_not_mem hback), hsame]

/-- Whatever decoder there is: entities are found from left to right and replaced
one by one, each by what is made of it alone, and all else stays. -/
theorem entities_replaced_apart :
    (∀ meaning, SparesText (replaceEntities meaning)) ∧
    SparesText stripEntities ∧
    (∀ part rest, Takes entity part rest ↔ IsEntity part) ∧
    ∀ text, ∃ pieces, Split entity text pieces ∧
      pieces.flatMap Stretch.source = text ∧
      ∀ meaning, replaceEntities meaning text =
        pieces.flatMap (Stretch.shown meaning) := by
  refine ⟨sparesText_replaceEntities, sparesText_replaceEntities entityText,
    fun part rest => takes_entity_iff, fun text => ?_⟩
  obtain ⟨pieces, hsplit⟩ := exists_split_entities text
  exact ⟨pieces, hsplit, hsplit.flatMap_source, hsplit.replaceEach_eq⟩

/-- A blank ends a reference that has no semicolon yet, and what a reference
stands for is not taken for the begin of another. -/
theorem stripEntities_lessThan :
    isBlank ' ' = true ∧
    stripEntities ("AT&T".toList ++ ' ' :: "; 1 &#38;lt; 2".toList) =
      stripEntities "AT&T".toList ++ ' ' ::
        stripEntities "; 1 &#38;lt; 2".toList ∧
    stripEntities "; 1 &#38;lt; 2".toList = "; 1 &lt; 2".toList := by
  refine ⟨rfl, ?_, by decide +kernel⟩
  exact entities_replaced_apart.2.1.blank _ _ ' ' rfl

end Concordance.Markup
