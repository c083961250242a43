import Mathlib.Algebra.GroupWithZero.Nat
import Mathlib.Tactic.SplitIfs
import Concordance.Rank.Quotient

/-!
# A share is never rounded past one, nor to nothing

A share is rounded three times: the count, the total, and their quotient. Each
time, the multiple that is taken is one of the two between which the quotient
lies, so a multiple that was on one side stays there (`roundDiv_le`,
`le_roundDiv`). The unit of the multiples depends on the quotient, but powers of
two are multiples of every unit that is in use below them. Hence rounding does
not carry a quotient across a power of two, and it keeps the order of quotients:
either both are rounded to the same unit, or a power of two is between them.

So the rounded count is at most the rounded total if the count is at most the
total, and then their quotient is at most one.
-/

namespace Concordance.Rank

/-! ## Rounding to a whole number -/

theorem roundDiv_le {n d m : Nat} (hd : 0 < d) (h : n ≤ d * m) :
    roundDiv n d ≤ m := by
  have hn := Nat.div_add_mod n d
  have hmod := Nat.mod_lt n hd
  have hq : n / d ≤ m := Nat.div_le_of_le_mul h
  rcases Nat.eq_or_lt_of_le hq with heq | hlt
  · -- Then nothing is left over that could be rounded up.
    rw [heq] at hn
    have hr : n % d = 0 := by omega
    unfold roundDiv
    dsimp only
    rw [hr, if_pos (by omega)]
    exact hq
  · unfold roundDiv
    dsimp only
    split_ifs <;> omega

theorem le_roundDiv {n d m : Nat} (hd : 0 < d) (h : d * m ≤ n) :
    m ≤ roundDiv n d := by
  have hq : m ≤ n / d := by
    rw [Nat.le_div_iff_mul_le hd, Nat.mul_comm]
    exact h
  unfold roundDiv
  dsimp only
  split_ifs <;> omega

theorem roundDiv_mono {n m d : Nat} (hd : 0 < d) (h : n ≤ m) :
    roundDiv n d ≤ roundDiv m d := by
  have hn := Nat.div_add_mod n d
  have hm := Nat.div_add_mod m d
  have hmod := Nat.mod_lt n hd
  rcases Nat.eq_or_lt_of_le (Nat.div_le_div_right (c := d) h) with heq | hlt
  · rw [heq] at hn
    unfold roundDiv
    dsimp only
    rw [heq]
    split_ifs <;> omega
  · calc roundDiv n d ≤ n / d + 1 :=
          roundDiv_le hd (by rw [Nat.mul_add, Nat.mul_one]; omega)
      _ ≤ m / d := hlt
      _ ≤ roundDiv m d := le_roundDiv hd (by omega)

/-! ## Rounding to significant digits -/

section

variable {n m d k : Nat}

/-- The unit to which `n / d` is rounded goes into the power of two below it. -/
theorem exists_unit (n d : Nat) : ∃ e ≤ (n / d).log2,
    significantDiv n d = roundDiv n (d * 2 ^ e) * 2 ^ e :=
  ⟨(n / d).log2 + 1 - precision, by unfold precision; omega, rfl⟩

theorem significantDiv_le_pow (hd : 0 < d) (h : n ≤ d * 2 ^ k) :
    significantDiv n d ≤ 2 ^ k := by
  obtain ⟨e, he, heq⟩ := exists_unit n d
  have hlog : (n / d).log2 ≤ k := by
    have hq : n / d < 2 ^ (k + 1) :=
      Nat.lt_of_le_of_lt (Nat.div_le_of_le_mul h)
        (Nat.pow_lt_pow_right (by decide) (Nat.lt_succ_self k))
    by_cases hzero : n / d = 0
    · rw [hzero]
      exact Nat.zero_le k
    · exact Nat.le_of_lt_succ ((Nat.log2_lt hzero).mpr hq)
  have hsplit : 2 ^ e * 2 ^ (k - e) = 2 ^ k := by
    rw [← Nat.pow_add, Nat.add_sub_cancel' (by omega)]
  rw [heq, ← hsplit, Nat.mul_comm]
  apply Nat.mul_le_mul_left
  apply roundDiv_le (Nat.mul_pos hd (Nat.two_pow_pos e))
  rwa [Nat.mul_assoc, hsplit]

theorem pow_le_significantDiv (hd : 0 < d) (h : d * 2 ^ k ≤ n) :
    2 ^ k ≤ significantDiv n d := by
  obtain ⟨e, he, heq⟩ := exists_unit n d
  have hq : 2 ^ k ≤ n / d := by
    rwa [Nat.le_div_iff_mul_le hd, Nat.mul_comm]
  have hne : n / d ≠ 0 := by
    have := Nat.two_pow_pos k
    omega
  have hlog : k ≤ (n / d).log2 := (Nat.le_log2 hne).mpr hq
  have hsplit : 2 ^ e * 2 ^ ((n / d).log2 - e) = 2 ^ (n / d).log2 := by
    rw [← Nat.pow_add, Nat.add_sub_cancel' he]
  have hbelow : d * 2 ^ (n / d).log2 ≤ n :=
    Nat.le_trans (Nat.mul_le_mul_left d (Nat.log2_self_le hne))
      (Nat.mul_div_le n d)
  calc 2 ^ k ≤ 2 ^ (n / d).log2 := Nat.pow_le_pow_right (by decide) hlog
    _ = 2 ^ ((n / d).log2 - e) * 2 ^ e := by rw [Nat.mul_comm, hsplit]
    _ ≤ roundDiv n (d * 2 ^ e) * 2 ^ e := by
        apply Nat.mul_le_mul_right
        apply le_roundDiv (Nat.mul_pos hd (Nat.two_pow_pos e))
        rwa [Nat.mul_assoc, hsplit]
    _ = significantDiv n d := heq.symm

/-- Rounding keeps the order of quotients. -/
theorem significantDiv_mono (hd : 0 < d) (h : n ≤ m) :
    significantDiv n d ≤ significantDiv m d := by
  have hq : n / d ≤ m / d := Nat.div_le_div_right h
  by_cases hlog : (n / d).log2 = (m / d).log2
  · unfold significantDiv
    rw [hlog]
    apply Nat.mul_le_mul_right
    exact roundDiv_mono (Nat.mul_pos hd (Nat.two_pow_pos _)) h
  · have hne : m / d ≠ 0 := by
      intro hzero
      rw [hzero, Nat.le_zero] at hq
      rw [hq, hzero] at hlog
      exact hlog rfl
    have hlt : (n / d).log2 < (m / d).log2 := by
      refine Nat.lt_of_le_of_ne ?_ hlog
      by_cases hzero : n / d = 0
      · rw [hzero]
        exact Nat.zero_le _
      · exact (Nat.le_log2 hne).mpr
          (Nat.le_trans (Nat.log2_self_le hzero) hq)
    have hn : n ≤ d * 2 ^ ((n / d).log2 + 1) := by
      have hlow := (Nat.div_lt_iff_lt_mul hd).mp
        (Nat.lt_log2_self (n := n / d))
      rw [Nat.mul_comm]
      exact Nat.le_of_lt hlow
    have hm : d * 2 ^ (m / d).log2 ≤ m :=
      Nat.le_trans (Nat.mul_le_mul_left d (Nat.log2_self_le hne))
        (Nat.mul_div_le m d)
    calc significantDiv n d ≤ 2 ^ ((n / d).log2 + 1) :=
          significantDiv_le_pow hd hn
      _ ≤ 2 ^ (m / d).log2 := Nat.pow_le_pow_right (by decide) hlt
      _ ≤ significantDiv m d := pow_le_significantDiv hd hm

end

/-! ## Shares -/

section

variable {count total : Nat}

theorem significantDiv_one_pos (h : 0 < count) : 0 < significantDiv count 1 :=
  pow_le_significantDiv (k := 0) Nat.one_pos (by omega)

/-- What is at most the whole has a share of at most one. -/
theorem share_le_one (h : count ≤ total) : share count total ≤ one := by
  unfold share
  split
  · exact Nat.zero_le one
  · next hne =>
      apply significantDiv_le_pow (k := 128)
        (significantDiv_one_pos (Nat.pos_of_ne_zero hne))
      exact Nat.mul_le_mul_right one (significantDiv_mono Nat.one_pos h)

/-- What is something has a share. -/
theorem share_pos (hcount : 0 < count) (htotal : 0 < total)
    (hlt : total < 2 ^ 64) : 0 < share count total := by
  have hrounded : significantDiv total 1 ≤ 2 ^ 64 :=
    significantDiv_le_pow Nat.one_pos (by omega)
  have hpos := significantDiv_one_pos hcount
  have hlarge : significantDiv total 1 * 2 ^ 64 ≤
      significantDiv count 1 * one :=
    calc significantDiv total 1 * 2 ^ 64 ≤ 2 ^ 64 * 2 ^ 64 :=
          Nat.mul_le_mul_right _ hrounded
      _ = 1 * one := by decide
      _ ≤ significantDiv count 1 * one := Nat.mul_le_mul_right one hpos
  have hshare := pow_le_significantDiv (significantDiv_one_pos htotal) hlarge
  unfold share
  rw [if_neg (Nat.pos_iff_ne_zero.mp htotal)]
  exact Nat.lt_of_lt_of_le (Nat.two_pow_pos 64) hshare

end

end Concordance.Rank
