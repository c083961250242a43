import Mathlib.Data.Bool.AllAny
import Mathlib.Data.List.Basic
import Mathlib.Data.List.Infix
import Mathlib.Data.List.TakeWhile
import Concordance.Url.Parse

/-!
# An address is what is written of it

Parts of an address are held apart, and pages are told apart by them. What a
site is asked for, and what the index keeps, is the text of an address. Of an
address on the web that was read, and not put together by hand, the text tells
all parts: no part holds a character that would end it, since such characters
were either where the part ends or are written as bytes. So two such addresses
are the same if they are written alike (`eq_of_text`). Nor is there a number
sign in the text, so it is not a place within a page that two of them differ in.
-/

namespace Concordance.Url

/-! ## Parts that end at a stop -/

/-- None of the characters is in the text. -/
def Avoids (stops text : List Char) : Prop := ∀ c ∈ text, c ∉ stops

/-- The text begins with one of the characters, if with any. -/
def BeginsIn (stops text : List Char) : Prop := ∀ c, text.head? = some c → c ∈ stops

variable {stops others xs ys : List Char}

theorem Avoids.mono (h : Avoids stops xs) (hsub : others ⊆ stops) :
    Avoids others xs :=
  fun c hc hstop => h c hc (hsub hstop)

theorem avoids_nil : Avoids stops [] := fun c hc => by cases hc

theorem avoids_append :
    Avoids stops (xs ++ ys) ↔ Avoids stops xs ∧ Avoids stops ys :=
  List.forall_mem_append

theorem avoids_cons {c : Char} :
    Avoids stops (c :: xs) ↔ c ∉ stops ∧ Avoids stops xs :=
  List.forall_mem_cons

theorem beginsIn_nil : BeginsIn stops [] := fun c hc => by cases hc

theorem beginsIn_cons {c : Char} (h : c ∈ stops) : BeginsIn stops (c :: xs) := by
  rintro d hd
  cases hd
  exact h

theorem BeginsIn.mono (h : BeginsIn others xs) (hsub : others ⊆ stops) :
    BeginsIn stops xs :=
  fun c hc => hsub (h c hc)

/-- What stands before the first stop is settled by the whole. -/
theorem eq_of_append_eq {front back rest behind : List Char}
    (hfront : Avoids stops front) (hback : Avoids stops back)
    (hrest : BeginsIn stops rest) (hbehind : BeginsIn stops behind)
    (h : front ++ rest = back ++ behind) : front = back ∧ rest = behind := by
  induction front generalizing back with
  | nil =>
      cases back with
      | nil => exact ⟨rfl, h⟩
      | cons c back =>
          rw [List.nil_append, List.cons_append] at h
          have hc := hrest c (by rw [h]; rfl)
          exact absurd hc (avoids_cons.mp hback).1
  | cons c front ih =>
      obtain ⟨hc, hfront⟩ := avoids_cons.mp hfront
      cases back with
      | nil =>
          rw [List.nil_append, List.cons_append] at h
          exact absurd (hbehind c (by rw [← h]; rfl)) hc
      | cons d back =>
          rw [List.cons_append, List.cons_append, List.cons.injEq] at h
          obtain ⟨rfl, hrest⟩ := h
          obtain ⟨rfl, heq⟩ := ih hfront (avoids_cons.mp hback).2 hrest
          exact ⟨rfl, heq⟩

/-! ## Addresses whose text tells their parts -/

/-- The characters that end an authority, or all of an address. -/
def endOfPlace : List Char := ['/', '?', '#']

/-- A host is a name, or something between square brackets. -/
inductive TidyHost : List Char → Prop where
  | name {host : List Char} (h : Avoids ('@' :: ':' :: '[' :: endOfPlace) host) :
      TidyHost host
  | number {groups : List Char} (h : Avoids ('@' :: ']' :: endOfPlace) groups) :
      TidyHost ('[' :: groups ++ [']'])

structure Authority.Tidy (authority : Authority) : Prop where
  user : authority.userInfo = [] ∨ ∃ user, authority.userInfo = user ++ ['@'] ∧
    Avoids ('@' :: endOfPlace) user
  host : TidyHost authority.host

/-- An address on the web none of whose parts holds what would end it. -/
structure Tidy (url : Url) : Prop where
  isHttp : url.isHttp = true
  place : ∃ authority, url.authority? = some authority ∧ authority.Tidy
  path : ∃ names, url.path = .steps names ∧ ∀ name ∈ names, Avoids endOfPlace name
  query : ∀ query, url.query? = some query → '#' ∉ query

/-! ## Reading the parts off the text -/

/-- The port of an authority, as it is written. -/
def portText (port? : Option Nat) : List Char :=
  match port? with
  | none => []
  | some port => ':' :: Nat.toDigits 10 port

theorem avoids_portText (port? : Option Nat) :
    Avoids ('@' :: endOfPlace) (portText port?) := by
  intro c hc
  cases port? with
  | none => cases hc
  | some port =>
      rcases List.mem_cons.mp hc with rfl | hc
      · decide
      · have hdigit := Nat.isDigit_of_mem_toDigits (by decide) (by decide) hc
        intro hstop
        have hnone : ∀ d ∈ '@' :: endOfPlace, d.isDigit = false :=
          List.all_iff_forall_prop.mp (by decide)
        rw [hnone c hstop] at hdigit
        cases hdigit

theorem beginsIn_portText (port? : Option Nat) :
    BeginsIn [':'] (portText port?) := by
  cases port? with
  | none => exact beginsIn_nil
  | some port => exact beginsIn_cons (List.mem_singleton_self _)

theorem eq_of_portText {port? other? : Option Nat}
    (h : portText port? = portText other?) : port? = other? := by
  cases port? with
  | none =>
      cases other? with
      | none => rfl
      | some other => cases h
  | some port =>
      cases other? with
      | none => cases h
      | some other =>
          have hdigits := congrArg (Nat.ofDigitChars 10 · 0) (List.cons.inj h).2
          rw [Nat.ofDigitChars_ten_toDigits, Nat.ofDigitChars_ten_toDigits]
            at hdigits
          rw [hdigits]

theorem TidyHost.avoids {host : List Char} (h : TidyHost host) :
    Avoids ('@' :: endOfPlace) host := by
  cases h with
  | name h => exact h.mono (by decide)
  | number h =>
      rw [List.cons_append, avoids_cons, avoids_append, avoids_cons]
      exact ⟨by decide, h.mono (by decide), by decide, avoids_nil⟩

theorem not_bracket_of_name {host groups : List Char} {port? other? : Option Nat}
    (h : Avoids ('@' :: ':' :: '[' :: endOfPlace) host) :
    host ++ portText port? ≠ ('[' :: groups ++ [']']) ++ portText other? := by
  intro heq
  cases host with
  | nil =>
      have hhead := beginsIn_portText port? '['
        (by rw [← List.nil_append (portText port?), heq]; rfl)
      exact absurd hhead (by decide)
  | cons c host =>
      rw [List.cons_append, List.cons_append, List.cons_append,
        List.cons.injEq] at heq
      rw [heq.1] at h
      exact absurd (avoids_cons.mp h).1 (by decide)

theorem eq_of_hostText {host other : List Char} {port? other? : Option Nat}
    (hhost : TidyHost host) (hother : TidyHost other)
    (h : host ++ portText port? = other ++ portText other?) :
    host = other ∧ port? = other? := by
  have hport := beginsIn_portText port?
  have hport' := beginsIn_portText other?
  cases hhost with
  | name hhost =>
      cases hother with
      | name hother =>
          obtain ⟨rfl, htext⟩ := eq_of_append_eq (hhost.mono (by decide))
            (hother.mono (by decide)) hport hport' h
          exact ⟨rfl, eq_of_portText htext⟩
      | number => exact absurd h (not_bracket_of_name hhost)
  | @number groups hhost =>
      cases hother with
      | name hother => exact absurd h.symm (not_bracket_of_name hother)
      | @number others hother =>
          simp only [List.cons_append, List.append_assoc, List.cons.injEq,
            true_and, List.nil_append] at h
          have hstop : ∀ rest : List Char, BeginsIn [']'] (']' :: rest) :=
            fun rest => beginsIn_cons (List.mem_singleton_self _)
          obtain ⟨rfl, htext⟩ := eq_of_append_eq (hhost.mono (by decide))
            (hother.mono (by decide)) (hstop _) (hstop _) h
          exact ⟨rfl, eq_of_portText (List.cons.inj htext).2⟩

theorem Authority.text_eq (authority : Authority) :
    authority.text =
      authority.userInfo ++ (authority.host ++ portText authority.port?) := by
  rw [Authority.text, List.append_assoc]
  rfl

theorem Authority.Tidy.avoids {authority : Authority} (h : authority.Tidy) :
    Avoids endOfPlace authority.text := by
  rw [authority.text_eq, avoids_append, avoids_append]
  refine ⟨?_, h.host.avoids.mono (by decide),
    (avoids_portText _).mono (by decide)⟩
  rcases h.user with hnone | ⟨user, huser, havoids⟩
  · rw [hnone]
    exact avoids_nil
  · rw [huser, avoids_append, avoids_cons]
    exact ⟨havoids.mono (by decide), by decide, avoids_nil⟩

theorem eq_of_authorityText {authority other : Authority}
    (h : authority.Tidy) (hother : other.Tidy)
    (htext : authority.text = other.text) : authority = other := by
  obtain ⟨info, host, port?⟩ := authority
  obtain ⟨info', host', port'?⟩ := other
  obtain ⟨huser, hhost⟩ := h
  obtain ⟨huser', hhost'⟩ := hother
  dsimp only at huser hhost huser' hhost'
  rw [Authority.text_eq, Authority.text_eq] at htext
  dsimp only at htext
  have hplain : ∀ {host : List Char} (port? : Option Nat), TidyHost host →
      Avoids ['@'] (host ++ portText port?) := fun port? hhost =>
    avoids_append.mpr ⟨hhost.avoids.mono (by decide),
      (avoids_portText port?).mono (by decide)⟩
  have hmixed : ∀ {user host host' : List Char} {port? port'? : Option Nat},
      TidyHost host →
      host ++ portText port? ≠ user ++ ['@'] ++ (host' ++ portText port'?) := by
    intro user host host' port? port'? hhost heq
    exact hplain port? hhost '@' (by rw [heq]; simp) (by decide)
  rcases huser with rfl | ⟨user, rfl, havoids⟩
  · rcases huser' with rfl | ⟨user', rfl, -⟩
    · obtain ⟨rfl, rfl⟩ := eq_of_hostText hhost hhost' htext
      rfl
    · exact absurd htext (hmixed hhost)
  · rcases huser' with rfl | ⟨user', rfl, havoids'⟩
    · exact absurd htext.symm (hmixed hhost')
    · rw [List.append_assoc, List.append_assoc, List.singleton_append,
        List.singleton_append] at htext
      have hat : ∀ rest : List Char, BeginsIn ['@'] ('@' :: rest) :=
        fun rest => beginsIn_cons (List.mem_singleton_self _)
      obtain ⟨rfl, hrest⟩ := eq_of_append_eq (havoids.mono (by decide))
        (havoids'.mono (by decide)) (hat _) (hat _) htext
      obtain ⟨rfl, rfl⟩ := eq_of_hostText hhost hhost' (List.cons.inj hrest).2
      rfl

theorem eq_of_stepsText {names others : List (List Char)}
    (h : ∀ name ∈ names, Avoids ['/'] name)
    (hothers : ∀ name ∈ others, Avoids ['/'] name)
    (htext : names.flatMap ('/' :: ·) = others.flatMap ('/' :: ·)) :
    names = others := by
  have hbegins : ∀ names : List (List Char),
      BeginsIn ['/'] (names.flatMap ('/' :: ·)) := by
    intro names
    cases names with
    | nil => exact beginsIn_nil
    | cons name names => exact beginsIn_cons (List.mem_singleton_self _)
  induction names generalizing others with
  | nil =>
      cases others with
      | nil => rfl
      | cons other others => cases htext
  | cons name names ih =>
      cases others with
      | nil => cases htext
      | cons other others =>
          rw [List.flatMap_cons, List.flatMap_cons, List.cons_append,
            List.cons_append, List.cons.injEq] at htext
          obtain ⟨hname, hnames⟩ := List.forall_mem_cons.mp h
          obtain ⟨hother, hrest⟩ := List.forall_mem_cons.mp hothers
          obtain ⟨rfl, heq⟩ := eq_of_append_eq hname hother (hbegins names)
            (hbegins others) htext.2
          rw [ih hnames hrest heq]

/-- The query of an address, as it is written. -/
def queryText (query? : Option (List Char)) : List Char :=
  match query? with
  | none => []
  | some query => '?' :: query

theorem eq_of_queryText {query? other? : Option (List Char)}
    (h : queryText query? = queryText other?) : query? = other? := by
  cases query? with
  | none =>
      cases other? with
      | none => rfl
      | some other => cases h
  | some query =>
      cases other? with
      | none => cases h
      | some other => exact congrArg some (List.cons.inj h).2

theorem beginsIn_queryText (query? : Option (List Char)) :
    BeginsIn ['?'] (queryText query?) := by
  cases query? with
  | none => exact beginsIn_nil
  | some query => exact beginsIn_cons (List.mem_singleton_self _)

theorem avoids_stepsText {names : List (List Char)}
    (h : ∀ name ∈ names, Avoids endOfPlace name) :
    Avoids ['?', '#'] (names.flatMap ('/' :: ·)) := by
  intro c hc
  obtain ⟨name, hname, hmem⟩ := List.mem_flatMap.mp hc
  rcases List.mem_cons.mp hmem with rfl | hmem
  · decide
  · exact (h name hname).mono (by decide) c hmem

/-- What is written of an address on the web. -/
theorem Tidy.text_eq {url : Url} {authority : Authority}
    {names : List (List Char)} (hplace : url.authority? = some authority)
    (hpath : url.path = .steps names) :
    url.text = url.scheme ++ ':' :: '/' :: '/' :: (authority.text ++
      (names.flatMap ('/' :: ·) ++ queryText url.query?)) := by
  rw [Url.text, hplace, hpath]
  unfold queryText
  cases url.query? <;> simp [Path.text]

theorem scheme_of_isHttp {url : Url} (h : url.isHttp = true) :
    url.scheme = "http".toList ∨ url.scheme = "https".toList := by
  rw [isHttp, Bool.or_eq_true, decide_eq_true_eq, decide_eq_true_eq] at h
  exact h

theorem avoids_scheme {url : Url} (h : url.isHttp = true) :
    Avoids [':', '#'] url.scheme := by
  rcases scheme_of_isHttp h with h | h
  · rw [h]
    exact List.all_iff_forall_prop.mp (by decide)
  · rw [h]
    exact List.all_iff_forall_prop.mp (by decide)

/-- Two addresses on the web that are written alike are the same. -/
theorem eq_of_text {url other : Url} (h : url.Tidy) (hother : other.Tidy)
    (htext : url.text = other.text) : url = other := by
  obtain ⟨authority, hplace, htidy⟩ := h.place
  obtain ⟨authority', hplace', htidy'⟩ := hother.place
  obtain ⟨names, hpath, hnames⟩ := h.path
  obtain ⟨names', hpath', hnames'⟩ := hother.path
  have hcolon : ∀ rest : List Char, BeginsIn [':'] (':' :: rest) :=
    fun rest => beginsIn_cons (List.mem_singleton_self _)
  have hbehind : ∀ (names : List (List Char)) (query? : Option (List Char)),
      BeginsIn endOfPlace (names.flatMap ('/' :: ·) ++ queryText query?) := by
    intro names query?
    cases names with
    | nil => exact (beginsIn_queryText query?).mono (by decide)
    | cons name names => exact beginsIn_cons (by decide)
  rw [Tidy.text_eq hplace hpath, Tidy.text_eq hplace' hpath'] at htext
  obtain ⟨hscheme, hrest⟩ := eq_of_append_eq
    ((avoids_scheme h.isHttp).mono (by decide))
    ((avoids_scheme hother.isHttp).mono (by decide)) (hcolon _) (hcolon _) htext
  simp only [List.cons.injEq, true_and] at hrest
  obtain ⟨hauthority, hrest⟩ := eq_of_append_eq htidy.avoids htidy'.avoids
    (hbehind _ _) (hbehind _ _) hrest
  obtain ⟨hsteps, hquery⟩ := eq_of_append_eq
    ((avoids_stepsText hnames).mono (by decide))
    ((avoids_stepsText hnames').mono (by decide))
    (beginsIn_queryText _) (beginsIn_queryText _) hrest
  have hauthority := eq_of_authorityText htidy htidy' hauthority
  have hsteps := eq_of_stepsText
    (fun name hname => (hnames name hname).mono (by decide))
    (fun name hname => (hnames' name hname).mono (by decide)) hsteps
  have hquery := eq_of_queryText hquery
  obtain ⟨scheme, authority?, path, query?⟩ := url
  obtain ⟨scheme', authority'?, path', query'?⟩ := other
  dsimp only at *
  rw [hscheme, hplace, hplace', hauthority, hpath, hpath', hsteps, hquery]

/-- No address on the web has a number sign in its text. -/
theorem Tidy.avoids_text {url : Url} (h : url.Tidy) : Avoids ['#'] url.text := by
  obtain ⟨authority, hplace, htidy⟩ := h.place
  obtain ⟨names, hpath, hnames⟩ := h.path
  have hquery : Avoids ['#'] (queryText url.query?) := by
    intro c hc hstop
    rw [List.mem_singleton.mp hstop] at hc
    cases hquery : url.query? with
    | none =>
        rw [hquery] at hc
        cases hc
    | some query =>
        rw [hquery] at hc
        exact h.query query hquery (List.mem_of_ne_of_mem (by decide) hc)
  rw [Tidy.text_eq hplace hpath, avoids_append, avoids_cons, avoids_cons,
    avoids_cons, avoids_append, avoids_append]
  exact ⟨(avoids_scheme h.isHttp).mono (by decide), by decide, by decide,
    by decide, htidy.avoids.mono (by decide),
    (avoids_stepsText hnames).mono (by decide), hquery⟩

theorem Tidy.takeWhile_text {url : Url} (h : url.Tidy) :
    url.text.takeWhile (· ≠ '#') = url.text := by
  rw [List.takeWhile_eq_self_iff]
  intro c hc
  rw [decide_eq_true_eq]
  exact fun heq => h.avoids_text c hc (List.mem_singleton.mpr heq)

/-! ## What is read is tidy -/

/-- The digits that a byte is written with. -/
def hexDigits : List Char := "0123456789ABCDEF".toList

theorem mem_hexDigits (n : Nat) : upperHexDigit n ∈ hexDigits := by
  rw [upperHexDigit, List.getD_eq_getElem?_getD]
  cases h : "0123456789ABCDEF".toList[n]? with
  | none => decide
  | some c => exact List.mem_of_getElem? h

/-- Written as bytes, a text holds no character of the set. -/
theorem mem_percentEncode {escaped : Char → Bool} {text : List Char} {c : Char}
    (h : c ∈ percentEncode escaped text) :
    (c ∈ text ∧ escaped c = false) ∨ c ∈ '%' :: hexDigits := by
  obtain ⟨d, hd, hc⟩ := List.mem_flatMap.mp h
  split at hc
  · obtain ⟨b, -, hbyte⟩ := List.mem_flatMap.mp hc
    right
    rcases List.mem_cons.mp hbyte with rfl | hbyte
    · exact List.mem_cons_self ..
    · rcases List.mem_cons.mp hbyte with rfl | hbyte
      · exact List.mem_cons_of_mem _ (mem_hexDigits _)
      · rw [List.mem_singleton.mp hbyte]
        exact List.mem_cons_of_mem _ (mem_hexDigits _)
  · next hplain =>
      rw [List.mem_singleton.mp hc]
      rw [Bool.or_eq_true, not_or, Bool.not_eq_true, Bool.not_eq_true] at hplain
      exact .inl ⟨hd, hplain.2⟩

theorem avoids_percentEncode {escaped : Char → Bool} {stops : List Char}
    (text : List Char)
    (hstops : ∀ c ∈ stops, escaped c = true ∧ c ∉ '%' :: hexDigits) :
    Avoids stops (percentEncode escaped text) := by
  intro c hc hstop
  obtain ⟨hescaped, hplain⟩ := hstops c hstop
  rcases mem_percentEncode hc with ⟨-, hkept⟩ | hbyte
  · rw [hescaped] at hkept
    cases hkept
  · exact hplain hbyte

/-! ### Users and hosts -/

theorem tidy_userInfo (text : List Char) : userInfo text = [] ∨
    ∃ user, userInfo text = user ++ ['@'] ∧ Avoids ('@' :: endOfPlace) user := by
  have hpart : ∀ part, Avoids ('@' :: endOfPlace)
      (percentEncode escapedInUserInfo part) :=
    fun part => avoids_percentEncode part
      (List.all_iff_forall_prop.mp (by decide))
  unfold userInfo
  dsimp only
  split
  · exact .inl rfl
  · split
    · exact .inr ⟨_, rfl, hpart _⟩
    · refine .inr ⟨_, rfl, ?_⟩
      rw [avoids_append, avoids_cons]
      exact ⟨hpart _, by decide, hpart _⟩

/-- The characters that tell the parts of an authority apart, and end it. -/
def separators : List Char := '@' :: ':' :: '[' :: ']' :: endOfPlace

theorem exists_of_mem_toDigits {base n : Nat} (hbase : 1 < base) {c : Char}
    (h : c ∈ Nat.toDigits base n) : ∃ digit, Nat.digitChar digit = c := by
  induction n using Nat.strong_induction_on with
  | _ n ih =>
      rw [Nat.toDigits_eq_if hbase] at h
      split at h
      · exact ⟨n, (List.mem_singleton.mp h).symm⟩
      · rcases List.mem_append.mp h with h | h
        · exact ih (n / base) (Nat.div_lt_self (by omega) hbase) h
        · exact ⟨n % base, (List.mem_singleton.mp h).symm⟩

theorem avoids_toDigits {base : Nat} (hbase : 1 < base) (n : Nat) :
    Avoids separators (Nat.toDigits base n) := by
  intro c hc hstop
  obtain ⟨digit, hdigit⟩ := exists_of_mem_toDigits hbase hc
  have hnone : ∀ c ∈ separators, (c != '0' && c != '1' && c != '2' &&
      c != '3' && c != '4' && c != '5' && c != '6' && c != '7' && c != '8' &&
      c != '9' && c != 'a' && c != 'b' && c != 'c' && c != 'd' && c != 'e' &&
      c != 'f' && c != '*') = true :=
    List.all_iff_forall_prop.mp (by decide)
  exact Nat.digitChar_ne c (hnone c hstop) hdigit

theorem avoids_intercalate {separator : List Char} {parts : List (List Char)}
    (hseparator : Avoids stops separator)
    (hparts : ∀ part ∈ parts, Avoids stops part) :
    Avoids stops (separator.intercalate parts) := by
  induction parts with
  | nil => exact avoids_nil
  | cons part parts ih =>
      obtain ⟨hpart, hrest⟩ := List.forall_mem_cons.mp hparts
      cases parts with
      | nil =>
          rw [List.intercalate_singleton]
          exact hpart
      | cons next parts =>
          rw [List.intercalate_cons_cons, avoids_append, avoids_append]
          exact ⟨⟨hpart, hseparator⟩, ih hrest⟩

theorem avoids_ipv4Text (n : Nat) : Avoids separators (ipv4Text n) := by
  apply avoids_intercalate (avoids_cons.mpr ⟨by decide, avoids_nil⟩)
  intro part hpart
  obtain ⟨byte, -, rfl⟩ := List.mem_map.mp hpart
  exact avoids_toDigits (by decide) byte

/-- Between the brackets of a host there are digits and colons. -/
theorem avoids_ipv6Text (groups : List Nat) :
    Avoids ('@' :: ']' :: endOfPlace) (ipv6Text groups) := by
  have hjoin : ∀ groups : List Nat, Avoids ('@' :: ']' :: endOfPlace)
      ([':'].intercalate (groups.map hexText)) := by
    intro groups
    apply avoids_intercalate (avoids_cons.mpr ⟨by decide, avoids_nil⟩)
    intro part hpart
    obtain ⟨group, -, rfl⟩ := List.mem_map.mp hpart
    exact (avoids_toDigits (by decide) group).mono (by decide)
  unfold ipv6Text
  dsimp only
  split
  · exact hjoin groups
  · rw [avoids_append, avoids_cons, avoids_cons]
    exact ⟨hjoin _, by decide, by decide, hjoin _⟩

theorem avoids_of_asciiDomain? {name : List UInt8} {domain : List Char}
    (h : asciiDomain? name = some domain) : Avoids separators domain := by
  obtain ⟨text, -, h⟩ := Option.bind_eq_some_iff.mp h
  obtain ⟨mapped, -, h⟩ := Option.bind_eq_some_iff.mp h
  obtain ⟨labels, -, h⟩ := Option.bind_eq_some_iff.mp h
  dsimp only at h
  split at h
  · cases h
  · next hallowed =>
      cases h
      intro c hc hstop
      have hforbidden : ∀ c ∈ separators, isForbiddenInDomain c = true :=
        List.all_iff_forall_prop.mp (by decide)
      exact hallowed (List.any_eq_true.mpr ⟨c, hc, hforbidden c hstop⟩)

theorem tidyHost_of_webHost? {host text : List Char}
    (h : webHost? host = .ok text) : TidyHost text := by
  unfold webHost? at h
  split at h
  · unfold bracketed? at h
    split at h
    · split at h
      · cases h
        exact .number (avoids_ipv6Text _)
      · cases h
    · cases h
  · split at h
    · cases h
    · cases h
    · next domain _ hdomain =>
        split at h
        · cases hnumber : ipv4? domain with
          | error fault =>
              rw [hnumber] at h
              cases h
          | ok n =>
              rw [hnumber] at h
              cases h
              exact .name ((avoids_ipv4Text n).mono (by decide))
        · cases h
          exact .name ((avoids_of_asciiDomain? hdomain).mono (by decide))

theorem bind_eq_ok {ε α β : Type} {x : Except ε α} {f : α → Except ε β} {b : β}
    (h : x >>= f = .ok b) : ∃ a, x = .ok a ∧ f a = .ok b := by
  cases x with
  | error e => cases h
  | ok a => exact ⟨a, rfl, h⟩

theorem tidy_of_readAuthority? {scheme text : List Char} {isLast : Bool}
    {authority : Authority} (hweb : kindOf scheme = .web)
    (h : readAuthority? scheme isLast text = .ok authority) :
    authority.Tidy := by
  unfold readAuthority? at h
  simp only [hweb, reduceCtorEq, ne_eq, not_false_eq_true, decide_true,
    Bool.true_or, if_true, if_false] at h
  split at h
  · cases h
  · obtain ⟨host, hhost, h⟩ := bind_eq_ok h
    split at h
    · cases h
      exact ⟨tidy_userInfo _, tidyHost_of_webHost? hhost⟩
    · obtain ⟨port?, -, h⟩ := bind_eq_ok h
      cases h
      exact ⟨tidy_userInfo _, tidyHost_of_webHost? hhost⟩

/-! ### Paths and queries -/

theorem avoids_of_mem_splitOnP {p : Char → Bool} {text name : List Char}
    (h : name ∈ text.splitOnP p) : ∀ c ∈ name, p c = false := by
  induction text generalizing name with
  | nil =>
      rw [List.splitOnP_nil, List.mem_singleton] at h
      subst h
      exact fun c hc => by cases hc
  | cons d text ih =>
      rw [List.splitOnP_cons_eq_if_modifyHead] at h
      split at h
      · rcases List.mem_cons.mp h with rfl | h
        · exact fun c hc => by cases hc
        · exact ih h
      · next hd =>
          cases hnames : text.splitOnP p with
          | nil => exact absurd hnames (List.splitOnP_ne_nil p text)
          | cons first names =>
              rw [hnames, List.modifyHead_cons] at h
              rw [hnames] at ih
              rcases List.mem_cons.mp h with rfl | h
              · intro c hc
                rcases List.mem_cons.mp hc with rfl | hc
                · exact Bool.eq_false_iff.mpr hd
                · exact ih (List.mem_cons_self ..) c hc
              · exact ih (List.mem_cons_of_mem _ h)

theorem avoids_stepsOf {kind : Kind} {text name : List Char}
    (h : name ∈ stepsOf kind text) : Avoids endOfPlace name := by
  obtain ⟨part, hpart, rfl⟩ := List.mem_map.mp h
  intro c hc hstop
  rcases mem_percentEncode hc with ⟨hmem, hkept⟩ | hbyte
  · have hslash := avoids_of_mem_splitOnP hpart c hmem
    have hends : ∀ c ∈ endOfPlace, c = '/' ∨ escapedInPath c = true :=
      List.all_iff_forall_prop.mp (by decide)
    rcases hends c hstop with rfl | hescaped
    · rw [isSlash] at hslash
      cases hslash
    · rw [hescaped] at hkept
      cases hkept
  · have hnone : ∀ c ∈ endOfPlace, c ∉ '%' :: hexDigits :=
      List.all_iff_forall_prop.mp (by decide)
    exact hnone c hstop hbyte

/-- Going on from some steps by others makes up none, but for empty ones. -/
theorem mem_walk {name : List Char} {names : List (List Char)} :
    ∀ {taken : List (List Char)}, name ∈ walk taken names →
      name ∈ taken ∨ name ∈ names ∨ name = [] := by
  induction names with
  | nil => exact fun h => .inl h
  | cons first names ih =>
      intro taken h
      have hgo : ∀ {next}, (name ∈ next → name ∈ taken ∨ name = first ∨ name = []) →
          name ∈ walk next names →
          name ∈ taken ∨ name ∈ first :: names ∨ name = [] := by
        intro next hnext hwalk
        rw [List.mem_cons]
        rcases ih hwalk with h | h | h
        · rcases hnext h with h | h | h
          · exact .inl h
          · exact .inr (.inl (.inl h))
          · exact .inr (.inr h)
        · exact .inr (.inl (.inr h))
        · exact .inr (.inr h)
      have hending : name ∈ (if names.isEmpty then [[]] else []) → name = [] := by
        split
        · exact List.mem_singleton.mp
        · exact fun h => by cases h
      rw [walk] at h
      split at h
      · refine hgo (fun hnext => ?_) h
        rcases List.mem_append.mp hnext with h | h
        · exact .inl (List.mem_of_mem_dropLast h)
        · exact .inr (.inr (hending h))
      · split at h
        · refine hgo (fun hnext => ?_) h
          exact (List.mem_append.mp hnext).imp_right fun h => .inr (hending h)
        · refine hgo (fun hnext => ?_) h
          exact (List.mem_append.mp hnext).imp_right fun h =>
            .inl (List.mem_singleton.mp h)

theorem avoids_walk {kind : Kind} {taken : List (List Char)} (text : List Char)
    (htaken : ∀ name ∈ taken, Avoids endOfPlace name) :
    ∀ name ∈ walk taken (stepsOf kind text), Avoids endOfPlace name := by
  intro name hname
  rcases mem_walk hname with h | h | rfl
  · exact htaken name h
  · exact avoids_stepsOf h
  · exact avoids_nil

theorem avoids_splitQuery {text : List Char} :
    ∀ query, (splitQuery .web text).2 = some query → '#' ∉ query := by
  intro query h
  unfold splitQuery at h
  split at h
  · cases h
  · cases h
    intro hmem
    have hnone : ∀ text, Avoids ['#'] (percentEncode escapedInWebQuery text) :=
      fun text => avoids_percentEncode text
        (List.all_iff_forall_prop.mp (by decide))
    exact hnone _ '#' hmem (List.mem_singleton_self _)

/-! ### Addresses -/

theorem kindOf_of_isHttp {url : Url} (h : url.isHttp = true) :
    kindOf url.scheme = .web := by
  rcases scheme_of_isHttp h with h | h <;> rw [h] <;> decide

theorem tidy_of_afterSlashes? {scheme text : List Char}
    {query? : Option (List Char)} {url : Url}
    (hquery : ∀ query, query? = some query → '#' ∉ query)
    (h : afterSlashes? scheme text query? = .ok url) (hhttp : url.isHttp = true) :
    url.Tidy := by
  unfold afterSlashes? at h
  obtain ⟨authority, hauthority, h⟩ := bind_eq_ok h
  cases h
  have hweb : kindOf scheme = .web := kindOf_of_isHttp hhttp
  refine ⟨hhttp, ⟨authority, rfl, tidy_of_readAuthority? hweb hauthority⟩, ?_,
    hquery⟩
  rw [hweb]
  exact ⟨_, rfl, avoids_walk _ fun name hname => by cases hname⟩

theorem scheme_of_afterSlashes? {scheme text : List Char}
    {query? : Option (List Char)} {url : Url}
    (h : afterSlashes? scheme text query? = .ok url) : url.scheme = scheme := by
  unfold afterSlashes? at h
  obtain ⟨authority, -, h⟩ := bind_eq_ok h
  cases h
  rfl

theorem tidy_of_relative? {base url : Url} {text : List Char}
    {query? : Option (List Char)} (hbase : base.Tidy)
    (hquery : ∀ query, query? = some query → '#' ∉ query)
    (h : relative? base text query? = .ok url) : url.Tidy := by
  have hweb := kindOf_of_isHttp hbase.isHttp
  have hslashes : ∀ {rest}, afterSlashes? base.scheme rest query? = .ok url →
      url.Tidy := by
    intro rest h
    refine tidy_of_afterSlashes? hquery h ?_
    rw [isHttp, scheme_of_afterSlashes? h]
    exact hbase.isHttp
  obtain ⟨names, hpath, hnames⟩ := hbase.path
  unfold relative? at h
  rw [hpath] at h
  dsimp only at h
  split at h
  · cases h
    refine ⟨hbase.isHttp, hbase.place, ⟨names, rfl, hnames⟩, ?_⟩
    intro query h
    cases query? with
    | none => exact hbase.query query h
    | some given => exact hquery query h
  · split at h
    · cases h
      refine ⟨hbase.isHttp, hbase.place, ⟨_, rfl, avoids_walk _ ?_⟩, hquery⟩
      exact fun name hname => hnames name (List.mem_of_mem_dropLast hname)
    · cases h
      refine ⟨hbase.isHttp, hbase.place, ⟨_, rfl, avoids_walk _ ?_⟩, hquery⟩
      exact fun name hname => by cases hname
    · exact hslashes h
    · exact hslashes h

theorem scheme_withoutFinalBlanks (url : Url) :
    (withoutFinalBlanks url).scheme = url.scheme := by
  unfold withoutFinalBlanks
  split <;> rfl

theorem scheme_of_fileUrl? {text : List Char} {query? : Option (List Char)}
    {url : Url} (h : fileUrl? text query? = .ok url) :
    url.scheme = "file".toList := by
  unfold fileUrl? at h
  dsimp only at h
  split at h
  · split at h
    · cases h
      rfl
    · obtain ⟨found, -, h⟩ := bind_eq_ok h
      cases h
      rfl
  · cases h
    rfl

/-- An address on the web that was read, against another or alone, is tidy. -/
theorem tidy_of_read? {base? : Option Url} {text : List Char} {url : Url}
    (hbase : ∀ base, base? = some base → base.Tidy)
    (h : read? base? text = .ok url) (hhttp : url.isHttp = true) : url.Tidy := by
  have hweb := kindOf_of_isHttp hhttp
  unfold read? at h
  dsimp only at h
  split at h
  · split at h
    · cases h
    · next base =>
        have htidy := hbase base rfl
        rw [kindOf_of_isHttp htidy.isHttp] at h
        exact tidy_of_relative? htidy avoids_splitQuery h
  · next scheme rest hscheme =>
      split at h
      · rw [scheme_of_fileUrl? h] at hweb
        cases hweb
      · next hkind =>
          have hother : url.scheme = scheme := by
            split at h
            · exact scheme_of_afterSlashes? h
            · cases h
              exact scheme_withoutFinalBlanks _
          rw [hother, hkind] at hweb
          cases hweb
      · next hkind =>
          rw [hkind] at h
          split at h
          · next base hfilter =>
              have hsome := (Option.filter_eq_some_iff.mp hfilter).1
              exact tidy_of_relative? (hbase base hsome) avoids_splitQuery h
          · exact tidy_of_afterSlashes? avoids_splitQuery h hhttp

theorem tidy_of_parse? {text : String} {url : Url} (h : parse? text = .ok url)
    (hhttp : url.isHttp = true) : url.Tidy :=
  tidy_of_read? (fun base hbase => by cases hbase) h hhttp

theorem tidy_of_follow? {base url : Url} {reference : List Char}
    (hbase : base.isHttp = true → base.Tidy)
    (h : follow? base reference = some url) : url.Tidy := by
  unfold follow? at h
  split at h
  · cases h
  · next read hread =>
      split at h
      · next hhttp =>
          cases h
          refine tidy_of_read? (fun base' hbase' => ?_) hread hhttp
          obtain ⟨hsome, hfilter⟩ := Option.filter_eq_some_iff.mp hbase'
          cases hsome
          exact hbase hfilter
      · cases h

end Concordance.Url
