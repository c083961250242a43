import Concordance.Json.Document
import Concordance.Proofs.AddressText

/-!
# A document is what is written of it

The text of a document tells the document. How a document begins says of what
kind it is, and each kind says by itself where it ends: a text at the first
quotation mark that is not escaped, a number at the first character that cannot
be in one, a list or an object at the first line that has a bracket where the
next item would have a comma. So two documents of one level that are written at
the begin of the same text are the same, whatever follows them
(`tells_layout`), as long as it is what follows a document in another one: a
comma, a new line, or nothing.

No use is made of the indentation. But an empty list needs its bracket told from
a new line, and a number in a list its comma told from a point.
-/

namespace Concordance.Json

open Url (Avoids BeginsIn eq_of_append_eq beginsIn_nil beginsIn_cons)

variable {s t : String} {c : Char} {rest more : List Char}

/-! ## Texts -/

def hexValue (c : Char) : Nat := "0123456789abcdef".toList.idxOf c

/-- Reads what stands behind a backslash. -/
def readEscape? : List Char → Option (Char × List Char)
  | 'b' :: rest => some ('\x08', rest)
  | 't' :: rest => some ('\t', rest)
  | 'n' :: rest => some ('\n', rest)
  | 'f' :: rest => some ('\x0c', rest)
  | 'r' :: rest => some ('\r', rest)
  | 'u' :: '0' :: '0' :: high :: low :: rest =>
    some (Char.ofNat (16 * hexValue high + hexValue low), rest)
  | c :: rest => some (c, rest)
  | [] => none

/-- Reads one character of a text as it is written, and tells what follows. The
quotation mark at the end of the text is not one of its characters. -/
def readChar? : List Char → Option (Char × List Char)
  | [] => none
  | c :: rest =>
    if c = '"' then none else if c = '\\' then readEscape? rest else some (c, rest)

/-- What is written of a character is read as this character, whatever follows. -/
theorem readChar?_escapeChar (c : Char) (rest : List Char) :
    readChar? (escapeChar c ++ rest) = some (c, rest) := by
  have hhex : ∀ n < 16, hexValue (hexDigit n) = n := by decide
  unfold escapeChar
  split_ifs with hquote hslash hb ht hn hf hr hcontrol
  · rw [hquote]; rfl
  · rw [hslash]; rfl
  · rw [hb]; rfl
  · rw [ht]; rfl
  · rw [hn]; rfl
  · rw [hf]; rfl
  · rw [hr]; rfl
  · have hcode : 16 * (c.toNat / 16) + c.toNat % 16 = c.toNat := Nat.div_add_mod ..
    have hread : readEscape? ('u' :: '0' :: '0' :: hexDigit (c.toNat / 16) ::
        hexDigit (c.toNat % 16) :: rest) =
        some (Char.ofNat (16 * hexValue (hexDigit (c.toNat / 16)) +
          hexValue (hexDigit (c.toNat % 16))), rest) := rfl
    rw [hhex _ (by omega), hhex _ (by omega), hcode, Char.ofNat_toNat] at hread
    exact hread
  · rw [List.cons_append, List.nil_append, readChar?, if_neg hquote, if_neg hslash]

theorem escapeChar_append_inj {d : Char}
    (h : escapeChar c ++ rest = escapeChar d ++ more) : c = d ∧ rest = more := by
  have hread := congrArg readChar? h
  rw [readChar?_escapeChar, readChar?_escapeChar] at hread
  cases hread
  exact ⟨rfl, rfl⟩

/-- A text goes on as long as characters can be read. -/
theorem flatMap_escapeChar_append_inj {cs ds : List Char}
    (h : cs.flatMap escapeChar ++ '"' :: rest = ds.flatMap escapeChar ++ '"' :: more) :
    cs = ds ∧ rest = more := by
  induction cs generalizing ds with
  | nil =>
      cases ds with
      | nil =>
          cases h
          exact ⟨rfl, rfl⟩
      | cons d ds =>
          have hread := congrArg readChar? h
          rw [List.flatMap_cons, List.append_assoc, readChar?_escapeChar] at hread
          cases hread
  | cons c cs ih =>
      cases ds with
      | nil =>
          have hread := congrArg readChar? h
          rw [List.flatMap_cons, List.append_assoc, readChar?_escapeChar] at hread
          cases hread
      | cons d ds =>
          rw [List.flatMap_cons, List.flatMap_cons, List.append_assoc,
            List.append_assoc] at h
          obtain ⟨rfl, htail⟩ := escapeChar_append_inj h
          obtain ⟨rfl, hrest⟩ := ih htail
          exact ⟨rfl, hrest⟩

theorem quote_append_inj (h : quote s ++ rest = quote t ++ more) :
    s = t ∧ rest = more := by
  unfold quote at h
  rw [List.cons_append, List.cons_append, List.append_assoc, List.append_assoc] at h
  obtain ⟨hchars, hrest⟩ := flatMap_escapeChar_append_inj (List.cons.inj h).2
  exact ⟨String.toList_inj.mp hchars, hrest⟩

/-! ## Numbers -/

/-- What can follow a document. -/
def ends : List Char := [',', '\n']

/-- What can follow a whole number. -/
def numberEnds : List Char := '.' :: ends

theorem isDigit_of_mem_digits {n : Nat} (h : c ∈ digits n) : c.isDigit = true :=
  Nat.isDigit_of_mem_toDigits (by decide) (by decide) h

theorem avoids_of_isDigit {text : List Char} (h : ∀ c ∈ text, c.isDigit = true) :
    Avoids numberEnds text := by
  have hnone : ∀ c ∈ numberEnds, c.isDigit = false := by decide
  intro c hc hend
  have hdigit := h c hc
  rw [hnone c hend] at hdigit
  cases hdigit

theorem digits_inj {m n : Nat} (h : digits m = digits n) : m = n := by
  have hvalue := congrArg (Nat.ofDigitChars 10 · 0) h
  rwa [digits, digits, Nat.ofDigitChars_ten_toDigits,
    Nat.ofDigitChars_ten_toDigits] at hvalue

theorem digits_append_inj {m n : Nat} (hrest : BeginsIn numberEnds rest)
    (hmore : BeginsIn numberEnds more) (h : digits m ++ rest = digits n ++ more) :
    m = n ∧ rest = more := by
  obtain ⟨hdigits, htail⟩ := eq_of_append_eq
    (avoids_of_isDigit fun _ => isDigit_of_mem_digits)
    (avoids_of_isDigit fun _ => isDigit_of_mem_digits) hrest hmore h
  exact ⟨digits_inj hdigits, htail⟩

/-- The decimal places of a number, with zeros in front. -/
def places (fraction : Nat) : List Char :=
  List.replicate (8 - (digits fraction).length) '0' ++ digits fraction

theorem places_inj {m n : Nat} (h : places m = places n) : m = n := by
  have hvalue : ∀ k n, Nat.ofDigitChars 10 (List.replicate k '0' ++ digits n) 0 = n := by
    intro k n
    induction k with
    | zero => exact Nat.ofDigitChars_ten_toDigits
    | succ k ih => exact ih
  have heq := congrArg (Nat.ofDigitChars 10 · 0) h
  rwa [places, places, hvalue, hvalue] at heq

theorem decimalDigits_append (units : Nat) (rest : List Char) :
    decimalDigits units ++ rest = digits (units / 100000000) ++
      ('.' :: (places (units % 100000000) ++ rest)) := by
  simp [decimalDigits, places]

theorem decimalDigits_append_inj {m n : Nat} (hrest : BeginsIn ends rest)
    (hmore : BeginsIn ends more) (h : decimalDigits m ++ rest = decimalDigits n ++ more) :
    m = n ∧ rest = more := by
  have hplaces : ∀ n, Avoids numberEnds (places n) := by
    intro n
    apply avoids_of_isDigit
    intro c hc
    rcases List.mem_append.mp hc with hc | hc
    · rw [List.eq_of_mem_replicate hc]
      rfl
    · exact isDigit_of_mem_digits hc
  have hsub : ends ⊆ numberEnds := List.subset_cons_self ..
  rw [decimalDigits_append, decimalDigits_append] at h
  obtain ⟨hwhole, hbehind⟩ := digits_append_inj (beginsIn_cons (by decide))
    (beginsIn_cons (by decide)) h
  obtain ⟨hfraction, htail⟩ := eq_of_append_eq (hplaces _) (hplaces _)
    (hrest.mono hsub) (hmore.mono hsub) (List.cons.inj hbehind).2
  have hunits := places_inj hfraction
  exact ⟨by omega, htail⟩

/-! ## Lists and objects -/

/-- What two items have in common as long as something follows them. -/
def Tells {α : Type} (source : α → List Char) (x : α) : Prop :=
  ∀ y rest more, BeginsIn ends rest → BeginsIn ends more →
    source x ++ rest = source y ++ more → x = y ∧ rest = more

section

variable {α : Type} {source : α → List Char} {level : Nat} {opening closing : Char}

/-- The items behind the first one, up to the end of the brackets. -/
def furtherItems (level : Nat) (closing : Char) (items : List (List Char)) : List Char :=
  (items.flatMap fun item => ',' :: newLine (level + 1) ++ item) ++
    newLine level ++ [closing]

theorem beginsIn_furtherItems (level : Nat) (closing : Char)
    (items : List (List Char)) (rest : List Char) :
    BeginsIn ends (furtherItems level closing items ++ rest) := by
  cases items with
  | nil => exact beginsIn_cons (by decide)
  | cons item items => exact beginsIn_cons (by decide)

theorem furtherItems_cons (item : List Char) (items : List (List Char)) :
    furtherItems level closing (item :: items) ++ rest =
      ',' :: (newLine (level + 1) ++ (item ++
        (furtherItems level closing items ++ rest))) := by
  simp [furtherItems]

theorem furtherItems_append_inj {xs ys : List α} (htells : ∀ x ∈ xs, Tells source x)
    (h : furtherItems level closing (xs.map source) ++ rest =
      furtherItems level closing (ys.map source) ++ more) : xs = ys ∧ rest = more := by
  induction xs generalizing ys with
  | nil =>
      cases ys with
      | nil => exact ⟨rfl, List.append_cancel_left h⟩
      | cons y ys => cases h
  | cons x xs ih =>
      cases ys with
      | nil => cases h
      | cons y ys =>
          rw [List.map_cons, List.map_cons, furtherItems_cons, furtherItems_cons] at h
          have hitem := List.append_cancel_left (List.cons.inj h).2
          obtain ⟨hx, hxs⟩ := List.forall_mem_cons.mp htells
          obtain ⟨rfl, hbehind⟩ := hx y _ _ (beginsIn_furtherItems _ _ _ _)
            (beginsIn_furtherItems _ _ _ _) hitem
          obtain ⟨rfl, hrest⟩ := ih hxs hbehind
          exact ⟨rfl, hrest⟩

theorem bracket_cons (item : List Char) (items : List (List Char)) :
    bracket level opening closing (item :: items) ++ rest =
      opening :: '\n' :: (List.replicate (2 * (level + 1)) ' ' ++ (item ++
        (furtherItems level closing items ++ rest))) := by
  simp [bracket, furtherItems, newLine]

/-- What stands between brackets is told by the items, if these tell themselves. -/
theorem bracket_append_inj {xs ys : List α} (hclosing : closing ≠ '\n')
    (htells : ∀ x ∈ xs, Tells source x)
    (h : bracket level opening closing (xs.map source) ++ rest =
      bracket level opening closing (ys.map source) ++ more) : xs = ys ∧ rest = more := by
  cases xs with
  | nil =>
      cases ys with
      | nil => exact ⟨rfl, List.append_cancel_left h⟩
      | cons y ys =>
          rw [List.map_cons, bracket_cons] at h
          exact absurd (List.cons.inj (List.cons.inj h).2).1 hclosing
  | cons x xs =>
      cases ys with
      | nil =>
          rw [List.map_cons, bracket_cons] at h
          exact absurd (List.cons.inj (List.cons.inj h).2).1.symm hclosing
      | cons y ys =>
          rw [List.map_cons, List.map_cons, bracket_cons, bracket_cons] at h
          have hitem := List.append_cancel_left
            (List.cons.inj (List.cons.inj h).2).2
          obtain ⟨hx, hxs⟩ := List.forall_mem_cons.mp htells
          obtain ⟨rfl, hbehind⟩ := hx y _ _ (beginsIn_furtherItems _ _ _ _)
            (beginsIn_furtherItems _ _ _ _) hitem
          obtain ⟨rfl, hrest⟩ := furtherItems_append_inj hxs hbehind
          exact ⟨rfl, hrest⟩

end

/-! ## Documents -/

/-- What is written of a member of an object. -/
def memberText (level : Nat) (member : String × Document) : List Char :=
  quote member.1 ++ ':' :: ' ' :: member.2.layout level

theorem layoutElements_eq_map (level : Nat) (elements : List Document) :
    Document.layoutElements level elements = elements.map (Document.layout level) := by
  induction elements with
  | nil => rfl
  | cons element elements ih =>
      rw [Document.layoutElements, ih, List.map_cons]

theorem layoutMembers_eq_map (level : Nat) (members : List (String × Document)) :
    Document.layoutMembers level members = members.map (memberText level) := by
  induction members with
  | nil => rfl
  | cons member members ih =>
      rw [Document.layoutMembers, ih, List.map_cons]
      rfl

theorem tells_memberText {level : Nat} {member : String × Document}
    (h : Tells (Document.layout level) member.2) : Tells (memberText level) member := by
  rintro ⟨key, value⟩ rest more hrest hmore heq
  obtain ⟨name, document⟩ := member
  rw [memberText, memberText, List.append_assoc, List.append_assoc] at heq
  obtain ⟨hkey, hvalue⟩ := quote_append_inj heq
  obtain ⟨hdocument, htail⟩ := h value rest more hrest hmore
    (List.cons.inj (List.cons.inj hvalue).2).2
  exact ⟨Prod.ext hkey hdocument, htail⟩

/-- The sign of a document's kind: what it begins with, any digit counting as zero. -/
def Document.sign : Document → Char
  | number _ | decimal _ => '0'
  | text _ => '"'
  | list _ => '['
  | object _ => '\x7b'

def signOf (c : Char) : Char := if c.isDigit then '0' else c

theorem exists_digit (n : Nat) : ∃ c rest, digits n = c :: rest ∧ signOf c = '0' := by
  obtain ⟨c, rest, hdigits⟩ := List.exists_cons_of_ne_nil
    (Nat.toDigits_ne_nil (b := 10) (n := n))
  have hmem : c ∈ digits n := by
    rw [digits, hdigits]
    exact List.mem_cons_self ..
  exact ⟨c, rest, hdigits, if_pos (isDigit_of_mem_digits hmem)⟩

theorem exists_sign (document : Document) (level : Nat) :
    ∃ c rest, document.layout level = c :: rest ∧ signOf c = document.sign := by
  cases document with
  | number n => exact exists_digit n
  | decimal units =>
      obtain ⟨c, rest, hdigits, hc⟩ := exists_digit (units / 100000000)
      have hlayout := decimalDigits_append units []
      rw [List.append_nil, hdigits] at hlayout
      exact ⟨c, _, hlayout, hc⟩
  | text s => exact ⟨'"', _, rfl, rfl⟩
  | list elements =>
      rw [Document.layout]
      cases Document.layoutElements (level + 1) elements with
      | nil => exact ⟨'[', _, rfl, rfl⟩
      | cons item items => exact ⟨'[', _, rfl, rfl⟩
  | object members =>
      rw [Document.layout]
      cases Document.layoutMembers (level + 1) members with
      | nil => exact ⟨'\x7b', _, rfl, rfl⟩
      | cons item items => exact ⟨'\x7b', _, rfl, rfl⟩

theorem sign_eq {document other : Document} {level : Nat}
    (h : document.layout level ++ rest = other.layout level ++ more) :
    document.sign = other.sign := by
  obtain ⟨c, _, hc, hsign⟩ := exists_sign document level
  obtain ⟨d, _, hd, hother⟩ := exists_sign other level
  rw [hc, hd] at h
  rw [← hsign, ← hother, (List.cons.inj h).1]

/-- A whole number is not the begin of a decimal one, where no point follows it. -/
theorem digits_append_ne_decimalDigits {n units : Nat} (hrest : BeginsIn ends rest) :
    digits n ++ rest ≠ decimalDigits units ++ more := by
  intro h
  rw [decimalDigits_append] at h
  obtain ⟨-, htail⟩ := digits_append_inj (hrest.mono (List.subset_cons_self ..))
    (beginsIn_cons (by decide)) h
  have hpoint : '.' ∈ ends := hrest '.' (by rw [htail]; rfl)
  exact absurd hpoint (by decide)

section

variable {level : Nat}

theorem tells_number (n : Nat) : Tells (Document.layout level) (.number n) := by
  intro other rest more hrest hmore h
  have hsub : ends ⊆ numberEnds := List.subset_cons_self ..
  cases other with
  | number m =>
      obtain ⟨rfl, htail⟩ := digits_append_inj (hrest.mono hsub) (hmore.mono hsub) h
      exact ⟨rfl, htail⟩
  | decimal units => exact absurd h (digits_append_ne_decimalDigits hrest)
  | text | list | object => exact absurd (sign_eq h) (by simp [Document.sign])

theorem tells_decimal (units : Nat) :
    Tells (Document.layout level) (.decimal units) := by
  intro other rest more hrest hmore h
  cases other with
  | number n => exact absurd h.symm (digits_append_ne_decimalDigits hmore)
  | decimal others =>
      obtain ⟨rfl, htail⟩ := decimalDigits_append_inj hrest hmore h
      exact ⟨rfl, htail⟩
  | text | list | object => exact absurd (sign_eq h) (by simp [Document.sign])

theorem tells_text (s : String) : Tells (Document.layout level) (.text s) := by
  intro other rest more _ _ h
  cases other with
  | text t =>
      obtain ⟨rfl, htail⟩ := quote_append_inj h
      exact ⟨rfl, htail⟩
  | number | decimal | list | object => exact absurd (sign_eq h) (by simp [Document.sign])

theorem tells_list {elements : List Document}
    (htells : ∀ element ∈ elements, Tells (Document.layout (level + 1)) element) :
    Tells (Document.layout level) (.list elements) := by
  intro other rest more _ _ h
  cases other with
  | list others =>
      rw [Document.layout, Document.layout, layoutElements_eq_map,
        layoutElements_eq_map] at h
      obtain ⟨rfl, htail⟩ := bracket_append_inj (by decide) htells h
      exact ⟨rfl, htail⟩
  | number | decimal | text | object => exact absurd (sign_eq h) (by simp [Document.sign])

theorem tells_object {members : List (String × Document)}
    (htells : ∀ member ∈ members, Tells (Document.layout (level + 1)) member.2) :
    Tells (Document.layout level) (.object members) := by
  intro other rest more _ _ h
  cases other with
  | object others =>
      rw [Document.layout, Document.layout, layoutMembers_eq_map,
        layoutMembers_eq_map] at h
      obtain ⟨rfl, htail⟩ := bracket_append_inj (by decide)
        (fun member hmember => tells_memberText (htells member hmember)) h
      exact ⟨rfl, htail⟩
  | number | decimal | text | list => exact absurd (sign_eq h) (by simp [Document.sign])

end

/-- What is written of a document tells it, whatever the document stands in. -/
theorem tells_layout (document : Document) (level : Nat) :
    Tells (Document.layout level) document := by
  match document with
  | .number n => exact tells_number n
  | .decimal units => exact tells_decimal units
  | .text s => exact tells_text s
  | .list elements =>
      exact tells_list fun element helement => tells_layout element (level + 1)
  | .object members =>
      exact tells_object fun member hmember => tells_layout member.2 (level + 1)
termination_by document
decreasing_by
  · have hlt := List.sizeOf_lt_of_mem helement
    simp only [Document.list.sizeOf_spec]
    omega
  · have hlt := List.sizeOf_lt_of_mem hmember
    have hvalue : sizeOf member.2 < sizeOf member := by
      cases member
      simp only [Prod.mk.sizeOf_spec]
      omega
    simp only [Document.object.sizeOf_spec]
    omega

theorem pretty_injective : Function.Injective Document.pretty := by
  intro document other h
  have hlayout : document.layout 0 ++ [] = other.layout 0 ++ [] := by
    rw [String.ofList_injective h]
  exact (tells_layout document 0 other [] [] beginsIn_nil beginsIn_nil hlayout).1

end Concordance.Json
