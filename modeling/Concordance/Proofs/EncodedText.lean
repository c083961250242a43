import Mathlib.Tactic.SplitIfs
import Concordance.Proofs.ByteOrder

/-!
# A byte sequence is well formed if it is the encoding of a text

The encodings of characters are the sequences of one to four bytes in certain
ranges (`Coded`). The ranges keep out overlong forms, surrogates and what is
beyond the last code point.

Reading takes a byte at a time, and what it keeps of a character under way are
the bits so far and a range for the next byte. Whatever is read in this way is
in those ranges, and what is in them is read in this way. Hence a byte sequence
is read as a text if it is the encoding of that text, and not otherwise:
`decode?_eq_some_iff`.
-/

namespace Concordance.Text.Utf8

/-! ## Bytes as numbers -/

theorem toNat_toUInt8 {k : Nat} (h : k < 256) : k.toUInt8.toNat = k :=
  UInt8.toNat_ofNat_of_lt' h

theorem toUInt8_eq {k : Nat} {b : UInt8} (h : k = b.toNat) : k.toUInt8 = b := by
  rw [h]
  exact UInt8.ofNat_toNat

theorem beq_iff_toNat {b c : UInt8} : (b == c) = true ↔ b.toNat = c.toNat := by
  rw [beq_iff_eq, UInt8.toNat_inj]

theorem toNat_ofNat {n : Nat} (h : n.isValidChar) :
    (Char.ofNat n).toNat = n := by
  rw [Char.ofNat, dif_pos h]
  rfl

/-! ## The bytes of one character -/

/-- A byte that is not the first of its character. -/
def IsTail (b : UInt8) : Prop := 0x80 ≤ b.toNat ∧ b.toNat ≤ 0xBF

/-- The bytes are the encoding of the character with this code. -/
inductive Coded : List UInt8 → Nat → Prop
  | one {b : UInt8} {n : Nat} (hn : n = b.toNat) (hb : b.toNat < 0x80) :
      Coded [b] n
  | two {b c : UInt8} {n : Nat} (hn : n = b.toNat % 32 * 64 + c.toNat % 64)
      (hlow : 0xC2 ≤ b.toNat) (hhigh : b.toNat < 0xE0) (hc : IsTail c) :
      Coded [b, c] n
  | three {b c d : UInt8} {n : Nat}
      (hn : n = (b.toNat % 16 * 64 + c.toNat % 64) * 64 + d.toNat % 64)
      (hlow : 0xE0 ≤ b.toNat) (hhigh : b.toNat < 0xF0) (hc : IsTail c)
      (hlong : b.toNat = 0xE0 → 0xA0 ≤ c.toNat)
      (hsurrogate : b.toNat = 0xED → c.toNat ≤ 0x9F) (hd : IsTail d) :
      Coded [b, c, d] n
  | four {b c d e : UInt8} {n : Nat}
      (hn : n = ((b.toNat % 8 * 64 + c.toNat % 64) * 64 + d.toNat % 64) * 64 +
        e.toNat % 64)
      (hlow : 0xF0 ≤ b.toNat) (hhigh : b.toNat < 0xF5) (hc : IsTail c)
      (hlong : b.toNat = 0xF0 → 0x90 ≤ c.toNat)
      (hbeyond : b.toNat = 0xF4 → c.toNat ≤ 0x8F) (hd : IsTail d)
      (he : IsTail e) : Coded [b, c, d, e] n

variable {bytes : List UInt8} {n : Nat}

theorem Coded.isValidChar (h : Coded bytes n) : n.isValidChar := by
  unfold Nat.isValidChar
  cases h with
  | one hn hb => omega
  | two hn hlow hhigh hc => omega
  | three hn hlow hhigh hc hlong hsurrogate hd =>
      obtain ⟨hclow, hchigh⟩ := hc
      omega
  | four hn hlow hhigh hc hlong hbeyond hd he =>
      obtain ⟨hclow, hchigh⟩ := hc
      omega

theorem Coded.encodeChar_eq (h : Coded bytes n) :
    encodeChar (Char.ofNat n) = bytes := by
  unfold encodeChar
  rw [toNat_ofNat h.isValidChar]
  dsimp only
  cases h with
  | one hn hb => rw [if_pos (by omega), toUInt8_eq hn]
  | @two b c n hn hlow hhigh hc =>
      obtain ⟨hclow, hchigh⟩ := hc
      rw [if_neg (by omega), if_pos (by omega), toUInt8_eq (b := b) (by omega),
        toUInt8_eq (b := c) (by omega)]
  | @three b c d n hn hlow hhigh hc hlong hsurrogate hd =>
      obtain ⟨hclow, hchigh⟩ := hc
      obtain ⟨hdlow, hdhigh⟩ := hd
      rw [if_neg (by omega), if_neg (by omega), if_pos (by omega),
        toUInt8_eq (b := b) (by omega), toUInt8_eq (b := c) (by omega),
        toUInt8_eq (b := d) (by omega)]
  | @four b c d e n hn hlow hhigh hc hlong hbeyond hd he =>
      obtain ⟨hclow, hchigh⟩ := hc
      obtain ⟨hdlow, hdhigh⟩ := hd
      obtain ⟨helow, hehigh⟩ := he
      rw [if_neg (by omega), if_neg (by omega), if_neg (by omega),
        toUInt8_eq (b := b) (by omega), toUInt8_eq (b := c) (by omega),
        toUInt8_eq (b := d) (by omega), toUInt8_eq (b := e) (by omega)]

theorem coded_encodeChar (c : Char) : Coded (encodeChar c) c.toNat := by
  have hvalid : c.toNat < 0xD800 ∨ 0xDFFF < c.toNat ∧ c.toNat < 0x110000 :=
    c.valid
  unfold encodeChar
  dsimp only
  split_ifs with hone htwo hthree
  · apply Coded.one <;> simp (disch := omega) only [toNat_toUInt8]
    exact hone
  · apply Coded.two <;> simp (disch := omega) only [toNat_toUInt8, IsTail]
    all_goals omega
  · apply Coded.three <;> simp (disch := omega) only [toNat_toUInt8, IsTail]
    all_goals omega
  · apply Coded.four <;> simp (disch := omega) only [toNat_toUInt8, IsTail]
    all_goals omega

/-! ## What is read is encoded as it was read -/

/-- Whatever bytes in the ranges follow, the character they complete has as its
encoding the bytes that were read and these. -/
def Owes (read : List UInt8) (bits : Nat) (least most : UInt8) : Nat → Prop
  | 0 => ∀ b : UInt8, least ≤ b → b ≤ most →
      Coded (read ++ [b]) (bits * 64 + b.toNat % 64)
  | further + 1 => ∀ b : UInt8, least ≤ b → b ≤ most →
      Owes (read ++ [b]) (bits * 64 + b.toNat % 64) 0x80 0xBF further

def Pending.Owes (p : Pending) (read : List UInt8) : Prop :=
  Utf8.Owes read p.bits p.least p.most p.further

theorem encodeChar_of_start {b : UInt8} {c : Char} (h : start b = .char c) :
    encodeChar c = [b] := by
  unfold start at h
  split at h
  · next hascii =>
      cases h
      exact (Coded.one rfl (UInt8.lt_iff_toNat_lt.mp hascii)).encodeChar_eq
  · repeat' split at h
    all_goals cases h

theorem owes_of_start {b : UInt8} {p : Pending} (h : start b = .pending p) :
    p.Owes [b] := by
  unfold start at h
  simp only [UInt8.lt_iff_toNat_lt, UInt8.reduceToNat] at h
  split at h
  · cases h
  split at h
  · cases h
  split at h
  · next hlow hhigh =>
      cases h
      intro c hleast hmost
      simp only [UInt8.le_iff_toNat_le, UInt8.reduceToNat] at hleast hmost
      exact .two rfl (by omega) hhigh ⟨hleast, hmost⟩
  split at h
  · next hlow hhigh =>
      cases h
      intro c hleast hmost d hdleast hdmost
      simp only [beq_iff_toNat, UInt8.le_iff_toNat_le, apply_ite UInt8.toNat,
        UInt8.reduceToNat] at hleast hmost hdleast hdmost
      have hc : IsTail c := by
        constructor <;> split_ifs at hleast hmost <;> omega
      apply Coded.three rfl (by omega) hhigh hc _ _ ⟨hdleast, hdmost⟩
      all_goals split_ifs at hleast hmost <;> omega
  split at h
  · next hlow hhigh =>
      cases h
      intro c hleast hmost d hdleast hdmost e heleast hemost
      simp only [beq_iff_toNat, UInt8.le_iff_toNat_le, apply_ite UInt8.toNat,
        UInt8.reduceToNat] at hleast hmost hdleast hdmost heleast hemost
      have hc : IsTail c := by
        constructor <;> split_ifs at hleast hmost <;> omega
      apply Coded.four rfl (by omega) hhigh hc _ _ ⟨hdleast, hdmost⟩
        ⟨heleast, hemost⟩
      all_goals split_ifs at hleast hmost <;> omega
  · cases h

/-- A byte that belongs to the character takes off what is owed. -/
theorem Pending.Owes.next {p : Pending} {read : List UInt8} (h : p.Owes read)
    (b : UInt8) :
    (∀ c, p.next b = .char c → encodeChar c = read ++ [b]) ∧
    ∀ q, p.next b = .pending q → q.Owes (read ++ [b]) := by
  obtain ⟨bits, further, least, most⟩ := p
  unfold Pending.next
  dsimp only
  split
  · next hwithin =>
      rw [Bool.and_eq_true, decide_eq_true_eq, decide_eq_true_eq] at hwithin
      cases further with
      | zero =>
          constructor
          · intro c hc
            cases hc
            exact Coded.encodeChar_eq (h b hwithin.1 hwithin.2)
          · intro q hq
            cases hq
      | succ further =>
          constructor
          · intro c hc
            cases hc
          · intro q hq
            cases hq
            exact h b hwithin.1 hwithin.2
  · constructor
    · intro c hc
      cases hc
    · intro q hq
      cases hq

theorem encode_of_decodeFrom? :
    ∀ (underWay : Option Pending) (read : List UInt8) {text : List Char},
      underWay.elim (read = []) (·.Owes read) →
      decodeFrom? underWay bytes = some text → encode text = read ++ bytes := by
  induction bytes with
  | nil =>
      intro underWay read text howes h
      cases underWay with
      | none =>
          cases h
          rw [show read = [] from howes]
          rfl
      | some p => cases h
  | cons b bytes ih =>
      intro underWay read text howes h
      -- Whether a character was under way or begins here, it is complete with
      -- this byte or goes on.
      have hnext : (∀ c, underWay.elim (start b) (·.next b) = .char c →
          encodeChar c = read ++ [b]) ∧
          ∀ q, underWay.elim (start b) (·.next b) = .pending q →
            q.Owes (read ++ [b]) := by
        cases underWay with
        | none =>
            rw [show read = [] from howes]
            exact ⟨fun c => encodeChar_of_start, fun q => owes_of_start⟩
        | some p => exact Pending.Owes.next howes b
      rw [decodeFrom?] at h
      rw [← List.singleton_append, ← List.append_assoc]
      split at h
      · next c hc =>
          obtain ⟨rest, hrest, rfl⟩ := Option.map_eq_some_iff.mp h
          rw [encode_cons, hnext.1 c hc, ih none [] rfl hrest]
          rfl
      · next q hq => exact ih (some q) _ (hnext.2 q hq) h
      · cases h

/-! ## What is encoded is read as it was -/

section

variable {bits further : Nat} {least most b : UInt8}

/-- A byte in the range belongs to the character under way. -/
theorem decodeFrom?_last (hleast : least ≤ b) (hmost : b ≤ most)
    (rest : List UInt8) :
    decodeFrom? (some ⟨bits, 0, least, most⟩) (b :: rest) =
      (decode? rest).map (Char.ofNat (bits * 64 + b.toNat % 64) :: ·) := by
  rw [decodeFrom?, Option.elim_some, Pending.next, decide_eq_true hleast,
    decide_eq_true hmost]
  rfl

theorem decodeFrom?_more (hleast : least ≤ b) (hmost : b ≤ most)
    (rest : List UInt8) :
    decodeFrom? (some ⟨bits, further + 1, least, most⟩) (b :: rest) =
      decodeFrom? (some ⟨bits * 64 + b.toNat % 64, further, 0x80, 0xBF⟩)
        rest := by
  rw [decodeFrom?, Option.elim_some, Pending.next, decide_eq_true hleast,
    decide_eq_true hmost]
  rfl

theorem decode?_of_start {p : Pending} (h : start b = .pending p)
    (rest : List UInt8) : decode? (b :: rest) = decodeFrom? (some p) rest := by
  rw [decode?, decodeFrom?, Option.elim_none, h]

end

theorem IsTail.within {b : UInt8} (h : IsTail b) : (0x80 : UInt8) ≤ b ∧ b ≤ 0xBF :=
  ⟨UInt8.le_iff_toNat_le.mpr h.1, UInt8.le_iff_toNat_le.mpr h.2⟩

theorem Coded.decode?_append (h : Coded bytes n) (rest : List UInt8) :
    decode? (bytes ++ rest) = (decode? rest).map (Char.ofNat n :: ·) := by
  cases h with
  | one hn hb =>
      rw [hn]
      exact decode?_ascii (UInt8.lt_iff_toNat_lt.mpr hb) rest
  | @two b c n hn hlow hhigh hc =>
      have hstart : start b = .pending ⟨b.toNat % 32, 0, 0x80, 0xBF⟩ := by
        unfold start
        simp only [UInt8.lt_iff_toNat_lt, UInt8.reduceToNat]
        rw [if_neg (by omega), if_neg (by omega), if_pos hhigh]
      rw [hn]
      exact (decode?_of_start hstart _).trans
        (decodeFrom?_last hc.within.1 hc.within.2 rest)
  | @three b c d n hn hlow hhigh hc hlong hsurrogate hd =>
      have hstart : start b = .pending ⟨b.toNat % 16, 1,
          if b.toNat = 0xE0 then 0xA0 else 0x80,
          if b.toNat = 0xED then 0x9F else 0xBF⟩ := by
        unfold start
        simp only [UInt8.lt_iff_toNat_lt, UInt8.reduceToNat, beq_iff_toNat]
        rw [if_neg (by omega), if_neg (by omega), if_neg (by omega),
          if_pos hhigh]
      rw [hn]
      refine (decode?_of_start hstart _).trans ((decodeFrom?_more ?_ ?_ _).trans
        (decodeFrom?_last hd.within.1 hd.within.2 rest))
      · split_ifs with heq
        · exact UInt8.le_iff_toNat_le.mpr (hlong heq)
        · exact hc.within.1
      · split_ifs with heq
        · exact UInt8.le_iff_toNat_le.mpr (hsurrogate heq)
        · exact hc.within.2
  | @four b c d e n hn hlow hhigh hc hlong hbeyond hd he =>
      have hstart : start b = .pending ⟨b.toNat % 8, 2,
          if b.toNat = 0xF0 then 0x90 else 0x80,
          if b.toNat = 0xF4 then 0x8F else 0xBF⟩ := by
        unfold start
        simp only [UInt8.lt_iff_toNat_lt, UInt8.reduceToNat, beq_iff_toNat]
        rw [if_neg (by omega), if_neg (by omega), if_neg (by omega),
          if_neg (by omega), if_pos hhigh]
      rw [hn]
      refine (decode?_of_start hstart _).trans ((decodeFrom?_more ?_ ?_ _).trans
        ((decodeFrom?_more hd.within.1 hd.within.2 _).trans
          (decodeFrom?_last he.within.1 he.within.2 rest)))
      · split_ifs with heq
        · exact UInt8.le_iff_toNat_le.mpr (hlong heq)
        · exact hc.within.1
      · split_ifs with heq
        · exact UInt8.le_iff_toNat_le.mpr (hbeyond heq)
        · exact hc.within.2

/-- A byte sequence is read as a text if it is the encoding of the text. -/
theorem decode?_eq_some_iff {text : List Char} :
    decode? bytes = some text ↔ encode text = bytes := by
  constructor
  · exact encode_of_decodeFrom? none [] rfl
  · rintro rfl
    induction text with
    | nil => rfl
    | cons c text ih =>
        rw [encode_cons, (coded_encodeChar c).decode?_append, ih,
          Char.ofNat_toNat]
        rfl

/-! ## The library's encoding -/

theorem encodeChar_eq_utf8EncodeChar (c : Char) :
    encodeChar c = String.utf8EncodeChar c := by
  have hvalid : c.toNat < 0xD800 ∨ 0xDFFF < c.toNat ∧ c.toNat < 0x110000 :=
    c.valid
  have hbyte : ∀ {k j : Nat}, k = j → k.toUInt8 = .ofNat j :=
    fun h => congrArg UInt8.ofNat h
  unfold encodeChar String.utf8EncodeChar
  simp only [show c.val.toNat = c.toNat from rfl, ← Nat.lt_succ_iff,
    Nat.reduceSucc]
  split_ifs with hone htwo hthree
  · rfl
  · rw [hbyte, hbyte] <;> omega
  · rw [hbyte, hbyte, hbyte] <;> omega
  · rw [hbyte, hbyte, hbyte, hbyte] <;> omega

/-- What the library takes for UTF-8 are the encodings of texts. -/
theorem isValidUTF8_iff :
    bytes.toByteArray.IsValidUTF8 ↔ ∃ text, encode text = bytes := by
  have hencode : ∀ text, text.utf8Encode = (encode text).toByteArray := by
    intro text
    rw [List.utf8Encode, encode, funext encodeChar_eq_utf8EncodeChar]
  constructor
  · rintro ⟨text, htext⟩
    rw [hencode] at htext
    exact ⟨text, by simpa using htext.symm⟩
  · rintro ⟨text, rfl⟩
    exact ⟨text, (hencode text).symm⟩

theorem decode?_eq_none_iff :
    decode? bytes = none ↔ ¬bytes.toByteArray.IsValidUTF8 := by
  rw [isValidUTF8_iff, not_exists, Option.eq_none_iff_forall_ne_some]
  exact forall_congr' fun text => not_congr decode?_eq_some_iff

end Concordance.Text.Utf8
