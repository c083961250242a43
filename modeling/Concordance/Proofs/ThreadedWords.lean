import Concordance.Command.Options

/-!
# Asking for threads beside anything else

Words that mean something without asking for threads mean the same with a
number of threads asked for in front of them, but for that number.

The argument is a congruence. A part of the reading is indifferent to the
number when it does the same to a command with and without it, provided that
no threads are asked for in the end. Giving a flag its value is the one part
that looks at a flag at all, and every other part is put together from it.
-/

namespace Concordance

/-! ## Reading a number back -/

namespace Text

theorem readDigits_eq {most : Nat} {digits : List Char}
    (hdigits : ∀ c ∈ digits, c.isDigit = true) {value : Nat}
    (hmost : Nat.ofDigitChars 10 digits value ≤ most) :
    readDigits most value digits =
      .ok (Nat.ofDigitChars 10 digits value) := by
  induction digits generalizing value with
  | nil => rfl
  | cons c digits ih =>
      rw [Nat.ofDigitChars_cons, Nat.mul_comm 10] at hmost ⊢
      -- Further digits only make a number larger.
      have hnext : value * 10 + (c.toNat - '0'.toNat) ≤ most := by
        refine Nat.le_trans ?_ hmost
        rw [Nat.ofDigitChars_eq_ofDigitChars_zero]
        exact Nat.le_trans (Nat.le_mul_of_pos_left _ (Nat.pow_pos (by decide)))
          (Nat.le_add_right ..)
      rw [readDigits, if_pos (hdigits c (List.mem_cons_self ..))]
      dsimp only
      rw [if_pos hnext]
      exact ih (fun d hd => hdigits d (List.mem_cons_of_mem _ hd)) hmost

end Text

/-- A number is written with digits, and with one at least. -/
theorem digits_toString (n : Nat) :
    ∃ c digits, (toString n).toList = c :: digits ∧
      (∀ d ∈ c :: digits, d.isDigit = true) ∧
      Nat.ofDigitChars 10 (c :: digits) 0 = n := by
  rw [Nat.toString_eq_ofList_toDigits, String.toList_ofList]
  have hall : ∀ d ∈ Nat.toDigits 10 n, d.isDigit = true := fun _ hd =>
    Nat.isDigit_of_mem_toDigits (by decide) (by decide) hd
  have hvalue := Nat.ofDigitChars_ten_toDigits (n := n)
  cases hdigits : Nat.toDigits 10 n with
  | nil => exact absurd hdigits Nat.toDigits_ne_nil
  | cons c digits =>
      rw [hdigits] at hall hvalue
      exact ⟨c, digits, rfl, hall, hvalue⟩

theorem Word.ofString_toString (n : Nat) :
    Word.ofString (toString n) = .plain := by
  obtain ⟨c, digits, hlist, hdigits, -⟩ := digits_toString n
  have hc : c ≠ '-' := by
    rintro rfl
    cases hdigits '-' (List.mem_cons_self ..)
  unfold ofString
  rw [hlist]
  split
  · next h => exact absurd (List.cons.inj h).1 hc
  · next h => exact absurd (List.cons.inj h).1 hc
  · next h => exact absurd (List.cons.inj h).1 hc
  · rfl

theorem Options.readCount?_toString {n : Nat} (h : n ≤ Text.mostCount) :
    readCount? (toString n) = some n := by
  obtain ⟨c, digits, hlist, hdigits, hvalue⟩ := digits_toString n
  have hc : c ≠ '+' := by
    rintro rfl
    cases hdigits '+' (List.mem_cons_self ..)
  have hread : Text.readNumber Text.mostCount (c :: digits) = .ok n := by
    unfold Text.readNumber
    split
    · next h => cases h
    · next h => exact absurd (List.cons.inj h).1 hc
    · next h => exact absurd (List.cons.inj h).1 hc
    · rw [Text.readDigits_eq hdigits (by rw [hvalue]; exact h), hvalue]
  rw [readCount?, hlist, hread]
  rfl

/-! ## Indifference to the number of threads -/

namespace Options

/-- Options with a number of threads. -/
def withThreads (count : Nat) (options : Options) : Options :=
  { options with threads? := some count }

/-- What a flag other than that for threads sets, it sets with a number of
threads as well. -/
theorem set?_withThreads {options after : Options} {flag : Flag}
    {value : String} (hset : options.set? flag value = some after)
    (hnone : after.threads? = none) (count : Nat) :
    flag ≠ .threads ∧ options.threads? = none ∧
      (options.withThreads count).set? flag value =
        some (after.withThreads count) := by
  cases flag with
  | threads =>
      obtain ⟨n, -, rfl⟩ := Option.map_eq_some_iff.mp hset
      cases hnone
  | html =>
      cases hset
      exact ⟨by decide, hnone, rfl⟩
  | partially =>
      cases hset
      exact ⟨by decide, hnone, rfl⟩
  | _ =>
      obtain ⟨x, hx, rfl⟩ := Option.map_eq_some_iff.mp hset
      refine ⟨by decide, hnone, ?_⟩
      simp only [set?, withThreads, hx, Option.map_some]

end Options

namespace Command

/-- A command with a number of threads asked for before anything else. -/
def withThreads (count : Nat) (command : Command) : Command :=
  { command with
    options := command.options.withThreads count
    given := command.given ++ [.threads] }

theorem open?_withThreads (count : Nat) (command : Command) :
    (command.withThreads count).open? = command.open? :=
  rfl

theorem ended_withThreads (count : Nat) (command : Command) :
    (command.withThreads count).ended = command.ended :=
  rfl

/-- A part of the reading that does the same with a number of threads. -/
def Indifferent (part : Command → Except Refusal Command) : Prop :=
  ∀ count command next, part command = .ok next →
    next.options.threads? = none →
    command.options.threads? = none ∧
      part (command.withThreads count) = .ok (next.withThreads count)

theorem Indifferent.bind {first second : Command → Except Refusal Command}
    (hfirst : Indifferent first) (hsecond : Indifferent second) :
    Indifferent fun command => first command >>= second := by
  intro count command next h hnone
  cases hmid : first command with
  | error refusal => simp [hmid, Bind.bind, Except.bind] at h
  | ok mid =>
      simp only [hmid, Bind.bind, Except.bind] at h
      obtain ⟨hmidnone, hlater⟩ := hsecond count mid next h hnone
      obtain ⟨hbefore, hnow⟩ := hfirst count command mid hmid hmidnone
      refine ⟨hbefore, ?_⟩
      simp only [hnow, Bind.bind, Except.bind]
      exact hlater

theorem indifferent_error (refusal : Refusal) :
    Indifferent fun _ => .error refusal := by
  intro count command next h
  cases h

theorem indifferent_give (flag : Flag) (value : String) :
    Indifferent fun command => command.give flag value := by
  intro count command next h hnone
  replace h : command.give flag value = .ok next := h
  show _ ∧ (command.withThreads count).give flag value = _
  unfold give at h
  split at h
  · cases h
  · next hgiven =>
      cases hset : command.options.set? flag value with
      | none => rw [hset] at h; cases h
      | some options =>
          rw [hset] at h
          cases h
          obtain ⟨hflag, hbefore, hthreads⟩ :=
            Options.set?_withThreads hset hnone count
          have hnew : flag ∉ command.given ++ [.threads] := by
            simp [hgiven, hflag]
          refine ⟨hbefore, ?_⟩
          rw [give, withThreads, if_neg hnew, hthreads]
          rfl

theorem indifferent_close : Indifferent close := by
  intro count command next h hnone
  unfold close at h ⊢
  rw [open?_withThreads]
  cases hopen : command.open? with
  | none =>
      rw [hopen] at h
      cases h
      exact ⟨hnone, rfl⟩
  | some flag =>
      rw [hopen] at h
      dsimp only at h ⊢
      split at h
      · exact indifferent_give flag _ count command next h hnone
      · cases h
      · cases h

theorem indifferent_takeLong (name : String) (value? : Option String) :
    Indifferent fun command => command.takeLong name value? := by
  apply indifferent_close.bind
  cases Flag.ofName? name with
  | none => cases value? <;> exact indifferent_error _
  | some flag =>
      cases value? with
      | none =>
          dsimp only
          split
          · exact indifferent_give flag ""
          · exact fun _ _ _ h hnone => by cases h; exact ⟨hnone, rfl⟩
          · exact fun _ _ _ h hnone => by cases h; exact ⟨hnone, rfl⟩
      | some value =>
          dsimp only
          split
          · exact indifferent_error _
          · exact indifferent_give flag value
          · exact indifferent_give flag value

theorem indifferent_take (word : String) :
    Indifferent fun command => command.take word := by
  intro count command next h hnone
  replace h : command.take word = .ok next := h
  show _ ∧ (command.withThreads count).take word = _
  unfold take at h ⊢
  rw [ended_withThreads, open?_withThreads]
  split at h
  · cases h
  · next hended =>
      rw [if_neg hended]
      generalize Word.ofString word = look at h ⊢
      cases look with
      | escape =>
          cases h
          exact ⟨hnone, rfl⟩
      | long name value? =>
          exact indifferent_takeLong name value? count command next h hnone
      | short letter =>
          exact (indifferent_close.bind (indifferent_error _)) count command
            next h hnone
      | plain =>
          dsimp only
          cases hopen : command.open? with
          | none =>
              rw [hopen] at h
              cases h
          | some flag =>
              rw [hopen] at h
              exact indifferent_give flag word count command next h hnone

theorem indifferent_words (words : List String) :
    Indifferent fun command => words.foldlM take command := by
  induction words with
  | nil =>
      intro count command next h hnone
      cases h
      exact ⟨hnone, rfl⟩
  | cons word words ih => exact (indifferent_take word).bind ih

end Command

/-- What is read of all words, before the options are taken out of it. -/
theorem Options.ofWords_eq (words : List String) :
    ofWords words =
      (words.foldlM Command.take .start >>= Command.close).map
        Command.options := by
  unfold ofWords
  cases words.foldlM Command.take .start with
  | error refusal => rfl
  | ok command =>
      show (command.close >>= fun command => .ok command.options) =
        command.close.map Command.options
      cases command.close <;> rfl

/-- With threads asked for in front, words mean the same but for that. -/
theorem Options.ofWords_threads {words : List String} {options : Options}
    (hwords : ofWords words = .ok options) (hnone : options.threads? = none)
    {count : Nat} (hcount : count ≤ Text.mostCount) :
    ofWords ("--threads" :: toString count :: words) =
      .ok (options.withThreads count) := by
  have hfront : ["--threads", toString count].foldlM Command.take .start =
      .ok (Command.start.withThreads count) := by
    simp only [List.foldlM_cons, List.foldlM_nil, Bind.bind, Except.bind,
      Command.take, Word.ofString_toString, Command.give, Options.set?,
      Options.readCount?_toString hcount]
    rfl
  have hread : Command.Indifferent fun command =>
      words.foldlM Command.take command >>= Command.close :=
    (Command.indifferent_words words).bind Command.indifferent_close
  rw [ofWords_eq] at hwords
  cases hcommand : words.foldlM Command.take .start >>= Command.close with
  | error refusal =>
      rw [hcommand] at hwords
      cases hwords
  | ok command =>
      rw [hcommand] at hwords
      cases hwords
      obtain ⟨-, hthreads⟩ := hread count .start command hcommand hnone
      have hsplit : "--threads" :: toString count :: words =
          ["--threads", toString count] ++ words := rfl
      rw [ofWords_eq, hsplit, List.foldlM_append, hfront]
      exact congrArg (Except.map Command.options) hthreads

end Concordance
