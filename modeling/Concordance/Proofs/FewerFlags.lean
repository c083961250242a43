import Concordance.Proofs.ThreadedWords

/-!
# Leaving flags out of the words

Words that mean something mean the same without some of their flags, but for
what these flags set. A flag is left out with its value, be that a part of the
flag's own word or a word of its own (`dropFlags`).

The two readings go along with each other word by word, and the reading of fewer
words pauses where a word is left out. While it pauses it has not yet noticed
that the flag before has no value to follow. So behind a word that was left out
it is as far as the other reading only when that flag is closed
(`Command.Follows`), and everything that can come next begins with closing it.
-/

namespace Concordance

/-! ## What flags set -/

namespace Options

/-- The options as if some flags were not given. -/
def without (flags : List Flag) (options : Options) : Options where
  text? := if .text ∈ flags then none else options.text?
  html? := if .html ∈ flags then none else options.html?
  max := if .max ∈ flags then usual.max else options.max
  threads? := if .threads ∈ flags then none else options.threads?
  query? := if .query ∈ flags then none else options.query?
  partially := if .partially ∈ flags then false else options.partially
  index? := if .index ∈ flags then none else options.index?
  counts? := if .counts ∈ flags then none else options.counts?
  results? := if .results ∈ flags then none else options.results?
  port? := if .port ∈ flags then none else options.port?

variable {flags : List Flag} {options after : Options} {flag : Flag}
  {value : String}

theorem without_usual (flags : List Flag) : usual.without flags = usual := by
  simp [without, usual]

/-- Of what a flag sets nothing is left without the flag. -/
theorem without_of_set? (hflag : flag ∈ flags)
    (hset : options.set? flag value = some after) :
    after.without flags = options.without flags := by
  cases flag with
  | html | partially =>
      cases hset
      simp [without, hflag]
  | _ =>
      obtain ⟨x, -, rfl⟩ := Option.map_eq_some_iff.mp hset
      simp [without, hflag]

/-- A flag sets the same without others. -/
theorem set?_without (hflag : flag ∉ flags)
    (hset : options.set? flag value = some after) :
    (options.without flags).set? flag value = some (after.without flags) := by
  cases flag with
  | html | partially =>
      cases hset
      simp [set?, without, hflag]
  | _ =>
      obtain ⟨x, hx, rfl⟩ := Option.map_eq_some_iff.mp hset
      simp [set?, without, hflag, hx]

end Options

/-- The words without some flags and their values. The mark tells whether the
last flag was left out. -/
def dropFlags (flags : List Flag) : Bool → List String → List String
  | _, [] => []
  | dropping, word :: words =>
      match Word.ofString word with
      | .long name _ =>
          if (Flag.ofName? name).any (· ∈ flags) then dropFlags flags true words
          else word :: dropFlags flags false words
      | .plain =>
          if dropping then dropFlags flags true words
          else word :: dropFlags flags false words
      | .escape | .short _ => word :: dropFlags flags dropping words

namespace Command

/-- A command as if some flags were not given. -/
def without (flags : List Flag) (command : Command) : Command :=
  { command with
    options := command.options.without flags
    given := command.given.filter (· ∉ flags) }

variable {flags : List Flag} {dropping : Bool} {command fewer next : Command}
  {flag : Flag} {value : String}

/-! ## Giving and closing -/

theorem give_eq_ok (h : command.give flag value = .ok next) :
    flag ∉ command.given ∧ ∃ options,
      command.options.set? flag value = some options ∧
        next = ⟨options, flag :: command.given, none, command.ended⟩ := by
  unfold give at h
  split at h
  · cases h
  · next hgiven =>
      cases hset : command.options.set? flag value with
      | none => rw [hset] at h; cases h
      | some options =>
          rw [hset] at h
          cases h
          exact ⟨hgiven, options, rfl, rfl⟩

theorem open?_of_give (h : command.give flag value = .ok next) :
    next.open? = none := by
  obtain ⟨-, _, -, rfl⟩ := give_eq_ok h
  rfl

/-- Giving a flag that is left out changes nothing but what is open. -/
theorem without_of_give (hflag : flag ∈ flags)
    (h : command.give flag value = .ok next) :
    next.without flags = { command.without flags with open? := none } := by
  obtain ⟨-, options, hset, rfl⟩ := give_eq_ok h
  simp [without, Options.without_of_set? hflag hset, hflag]

theorem give_without (hflag : flag ∉ flags)
    (h : command.give flag value = .ok next) :
    (command.without flags).give flag value = .ok (next.without flags) := by
  obtain ⟨hgiven, options, hset, rfl⟩ := give_eq_ok h
  simp [give, without, Options.set?_without hflag hset, hgiven, hflag]

/-- A command that is closed has nothing open, and is as it was or was given the
flag that was open. -/
theorem close_eq_ok (h : command.close = .ok next) :
    next.open? = none ∧ next.ended = command.ended ∧
      (command.open? = none ∧ next = command ∨
        ∃ flag value, command.open? = some flag ∧
          command.give flag value = .ok next ∧
          ∀ other : Command, other.open? = some flag →
            other.close = other.give flag value) := by
  unfold close at h
  split at h
  · next hopen =>
      cases h
      exact ⟨hopen, rfl, .inl ⟨hopen, rfl⟩⟩
  · next flag hopen =>
      split at h
      · next value htakes =>
          refine ⟨open?_of_give h, ?_, .inr ⟨flag, value, hopen, h, ?_⟩⟩
          · obtain ⟨-, _, -, rfl⟩ := give_eq_ok h
            rfl
          · intro other hother
            simp only [close, hother, htakes]
      · cases h
      · cases h

theorem without_close (h : command.close = .ok next) :
    { next.without flags with open? := none } = next.without flags := by
  rw [← (close_eq_ok h).1]
  rfl

theorem close_ended (h : command.close = .ok next) (ended : Bool) :
    close { command with ended } = .ok { next with ended } := by
  obtain ⟨-, -, ⟨hopen, rfl⟩ | ⟨flag, value, hopen, hgive, hclose⟩⟩ :=
    close_eq_ok h
  · simp [close, hopen]
  · rw [hclose { command with ended } hopen]
    obtain ⟨hgiven, options, hset, rfl⟩ := give_eq_ok hgive
    simp [give, hgiven, hset]

/-! ## Two readings -/

/-- A reading of all words, and one of fewer. -/
inductive Follows (flags : List Flag) : Bool → Command → Command → Prop where
  /-- No word was left out since the last flag. -/
  | along {command : Command} (hopen : ∀ flag ∈ command.open?, flag ∉ flags) :
      Follows flags false command (command.without flags)
  /-- The last flag was left out, and the one before it may still be open. -/
  | behind {command fewer : Command}
      (hopen : ∀ flag ∈ command.open?, flag ∈ flags)
      (hclose : fewer.close =
        .ok { command.without flags with open? := none }) :
      Follows flags true command fewer

theorem follows_start (flags : List Flag) :
    Follows flags false start start := by
  have hstart : start.without flags = start := by
    simp [without, start, Options.without_usual]
  have halong : Follows flags false start (start.without flags) :=
    .along (by simp [start])
  rwa [hstart] at halong

/-- When all is closed the two are as far as each other. -/
theorem Follows.close (h : Follows flags dropping command fewer)
    (hclose : command.close = .ok next) :
    fewer.close = .ok (next.without flags) := by
  obtain ⟨hnone, -, ⟨hopen, rfl⟩ | ⟨flag, value, hopen, hgive, hsame⟩⟩ :=
    close_eq_ok hclose
  · cases h with
    | along =>
        show Command.close (next.without flags) = _
        simp [Command.close, without, hopen]
    | behind _ hfewer =>
        rw [hfewer, ← hopen]
        rfl
  · cases h with
    | along hkept =>
        rw [hsame (command.without flags) hopen]
        exact give_without (hkept flag hopen) hgive
    | behind hleft hfewer =>
        rw [hfewer, without_of_give (hleft flag hopen) hgive]

theorem Follows.ended (h : Follows flags dropping command fewer) :
    fewer.ended = command.ended := by
  cases h with
  | along => rfl
  | behind _ hclose => exact (close_eq_ok hclose).2.1.symm

theorem exists_close {name : String} {value? : Option String}
    (h : command.takeLong name value? = .ok next) :
    ∃ closed, command.close = .ok closed := by
  cases hclose : command.close with
  | error refusal => simp [takeLong, hclose, Bind.bind, Except.bind] at h
  | ok closed => exact ⟨closed, rfl⟩

/-- A flag that is written out is given or left open, whatever the command was
that is closed before it. -/
theorem takeLong_cases (name : String) (value? : Option String) :
    (∃ refusal, ∀ command closed : Command, command.close = .ok closed →
      command.takeLong name value? = .error refusal) ∨
    ∃ flag, Flag.ofName? name = some flag ∧
      ((∃ value, ∀ command closed : Command, command.close = .ok closed →
        command.takeLong name value? = closed.give flag value) ∨
      ∀ command closed : Command, command.close = .ok closed →
        command.takeLong name value? =
          .ok { closed with open? := some flag }) := by
  cases hname : Flag.ofName? name with
  | none =>
      cases value? with
      | some value =>
          refine .inl ⟨.misuse, fun command closed hclose => ?_⟩
          simp only [takeLong, hclose, hname, Bind.bind, Except.bind]
      | none =>
          refine .inl ⟨if name = "help" then .helpWanted else .misuse,
            fun command closed hclose => ?_⟩
          simp only [takeLong, hclose, hname, Bind.bind, Except.bind]
  | some flag =>
      cases htakes : flag.takes with
      | nothing =>
          cases value? with
          | some value =>
              refine .inl ⟨.misuse, fun command closed hclose => ?_⟩
              simp only [takeLong, hclose, hname, htakes, Bind.bind, Except.bind]
          | none =>
              refine .inr ⟨flag, rfl, .inl ⟨"", fun command closed hclose => ?_⟩⟩
              simp only [takeLong, hclose, hname, htakes, Bind.bind, Except.bind]
      | value | valueOr =>
          cases value? with
          | some value =>
              refine .inr ⟨flag, rfl, .inl ⟨value, fun command closed hclose => ?_⟩⟩
              simp only [takeLong, hclose, hname, htakes, Bind.bind, Except.bind]
          | none =>
              refine .inr ⟨flag, rfl, .inr fun command closed hclose => ?_⟩
              simp only [takeLong, hclose, hname, htakes, Bind.bind, Except.bind]

/-- After a flag that is kept the readings are as far as each other. -/
theorem Follows.takeLong_kept {name : String} {value? : Option String}
    (h : Follows flags dropping command fewer)
    (hkept : ¬(Flag.ofName? name).any (· ∈ flags))
    (htake : command.takeLong name value? = .ok next) :
    fewer.takeLong name value? = .ok (next.without flags) ∧
      Follows flags false next (next.without flags) := by
  obtain ⟨closed, hclose⟩ := exists_close htake
  have hfewer := h.close hclose
  rcases takeLong_cases name value? with
    ⟨refusal, hlong⟩ | ⟨flag, hname, ⟨value, hlong⟩ | hlong⟩
  · cases (hlong command closed hclose).symm.trans htake
  · have hflag : flag ∉ flags := by simpa [hname] using hkept
    rw [hlong command closed hclose] at htake
    rw [hlong fewer _ hfewer]
    exact ⟨give_without hflag htake, .along (by simp [open?_of_give htake])⟩
  · rw [hlong command closed hclose] at htake
    cases htake
    rw [hlong fewer _ hfewer]
    refine ⟨rfl, .along ?_⟩
    rintro _ ⟨⟩
    simpa [hname] using hkept

/-- The reading of fewer words does nothing at a flag that is left out. -/
theorem Follows.takeLong_left {name : String} {value? : Option String}
    (h : Follows flags dropping command fewer)
    (hleft : (Flag.ofName? name).any (· ∈ flags))
    (htake : command.takeLong name value? = .ok next) :
    Follows flags true next fewer := by
  obtain ⟨closed, hclose⟩ := exists_close htake
  -- What is closed has nothing open, so it is the same with nothing open.
  have hfewer : fewer.close =
      .ok { closed.without flags with open? := none } := by
    rw [h.close hclose, without_close hclose]
  rcases takeLong_cases name value? with
    ⟨refusal, hlong⟩ | ⟨flag, hname, ⟨value, hlong⟩ | hlong⟩
  · cases (hlong command closed hclose).symm.trans htake
  · have hflag : flag ∈ flags := by simpa [hname] using hleft
    rw [hlong command closed hclose] at htake
    rw [← without_of_give hflag htake] at hfewer
    have hnone := open?_of_give htake
    exact .behind (by simp [hnone]) (by rw [hfewer, ← hnone]; rfl)
  · rw [hlong command closed hclose] at htake
    cases htake
    refine .behind ?_ hfewer
    rintro _ ⟨⟩
    simpa [hname] using hleft

/-! ## Word by word -/

/-- A word that is taken ends the flags, is a flag, or is the value of one. -/
theorem take_eq_ok {word : String} (h : command.take word = .ok next) :
    command.ended = false ∧
      (Word.ofString word = .escape ∧ next = { command with ended := true } ∨
        (∃ name value?, Word.ofString word = .long name value? ∧
          command.takeLong name value? = .ok next) ∨
        Word.ofString word = .plain ∧ ∃ flag, command.open? = some flag ∧
          command.give flag word = .ok next) := by
  unfold take at h
  split at h
  · cases h
  · next hended =>
      refine ⟨Bool.eq_false_iff.mpr hended, ?_⟩
      split at h
      · next hword => exact .inl ⟨hword, (Except.ok.inj h).symm⟩
      · next hword => exact .inr (.inl ⟨_, _, hword, h⟩)
      · next letter =>
          cases hclose : command.close <;>
            simp [hclose, Bind.bind, Except.bind] at h
      · next hword =>
          split at h
          · next flag hopen => exact .inr (.inr ⟨hword, flag, hopen, h⟩)
          · cases h

/-- The reading of fewer words takes a word, or is told to leave it out. -/
theorem Follows.take {word : String} (h : Follows flags dropping command fewer)
    (htake : command.take word = .ok next) (words : List String) :
    (∃ after dropping', fewer.take word = .ok after ∧
        Follows flags dropping' next after ∧
        dropFlags flags dropping (word :: words) =
          word :: dropFlags flags dropping' words) ∨
      Follows flags true next fewer ∧
        dropFlags flags dropping (word :: words) =
          dropFlags flags true words := by
  obtain ⟨hended, hcases⟩ := take_eq_ok htake
  have hfewer : fewer.ended = false := h.ended.trans hended
  obtain ⟨hword, rfl⟩ | ⟨name, value?, hword, hlong⟩ |
    ⟨hword, flag, hopen, hgive⟩ := hcases
  · refine .inl ⟨{ fewer with ended := true }, dropping, ?_, ?_, ?_⟩
    · simp [Command.take, hfewer, hword]
    · cases h with
      | along hkept => exact .along hkept
      | behind hleft hclose => exact .behind hleft (close_ended hclose true)
    · simp only [dropFlags, hword]
  · by_cases hflag : (Flag.ofName? name).any (· ∈ flags)
    · refine .inr ⟨h.takeLong_left hflag hlong, ?_⟩
      simp only [dropFlags, hword, if_pos hflag]
    · obtain ⟨hnext, hfollows⟩ := h.takeLong_kept hflag hlong
      refine .inl ⟨next.without flags, false, ?_, hfollows, ?_⟩
      · simpa [Command.take, hfewer, hword] using hnext
      · simp only [dropFlags, hword, if_neg hflag]
  · cases h with
    | along hkept =>
        refine .inl ⟨next.without flags, false, ?_,
          .along (by simp [open?_of_give hgive]), ?_⟩
        · have hsame : (command.without flags).open? = some flag := hopen
          simpa [Command.take, hfewer, hword, hsame] using
            give_without (hkept flag hopen) hgive
        · simp [dropFlags, hword]
    | behind hleft hclose =>
        refine .inr ⟨.behind (by simp [open?_of_give hgive]) ?_,
          by simp only [dropFlags, hword, if_true]⟩
        rw [hclose, without_of_give (hleft flag hopen) hgive]

/-- The readings stay together to the end of the words. -/
theorem Follows.words {words : List String}
    (h : Follows flags dropping command fewer)
    (htake : words.foldlM Command.take command = .ok next) :
    ∃ after dropping', (dropFlags flags dropping words).foldlM Command.take fewer =
        .ok after ∧ Follows flags dropping' next after := by
  induction words generalizing dropping command fewer with
  | nil =>
      cases htake
      exact ⟨fewer, dropping, rfl, h⟩
  | cons word words ih =>
      rw [List.foldlM_cons] at htake
      cases hmid : command.take word with
      | error refusal => simp [hmid, Bind.bind, Except.bind] at htake
      | ok mid =>
          simp only [hmid, Bind.bind, Except.bind] at htake
          obtain ⟨after, dropping', hafter, hfollows, hdrop⟩ | ⟨hfollows, hdrop⟩ :=
            h.take hmid words
          · rw [hdrop, List.foldlM_cons]
            simp only [hafter, Bind.bind, Except.bind]
            exact ih hfollows htake
          · rw [hdrop]
            exact ih hfollows htake

end Command

/-- Without some of their flags, words mean the same but for what these set. -/
theorem Options.ofWords_dropFlags {words : List String} {options : Options}
    (hwords : ofWords words = .ok options) (flags : List Flag) :
    ofWords (dropFlags flags false words) = .ok (options.without flags) := by
  rw [ofWords_eq] at hwords ⊢
  cases hread : words.foldlM Command.take .start with
  | error refusal =>
      rw [hread] at hwords
      cases hwords
  | ok command =>
      obtain ⟨fewer, dropping, hfewer, hfollows⟩ :=
        (Command.follows_start flags).words hread
      rw [hread] at hwords
      cases hclose : command.close with
      | error refusal => simp [Bind.bind, Except.bind, hclose, Except.map] at hwords
      | ok closed =>
          simp only [Bind.bind, Except.bind, hclose, Except.map] at hwords
          cases hwords
          simp only [hfewer, Bind.bind, Except.bind, hfollows.close hclose]
          rfl

example : dropFlags [.html, .counts, .index] false
    ["--html", "a", "--counts=b", "--max", "3", "--index", "--partial"] =
      ["--max", "3", "--partial"] :=
  rfl

end Concordance
