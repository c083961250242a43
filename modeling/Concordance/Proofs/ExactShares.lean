import Mathlib.Tactic.ByContra
import Mathlib.Tactic.Ring
import Concordance.Proofs.RoundedShares
import Concordance.Rank.Hit

/-!
# Small counts are ranked by their exact shares

A share is rounded to 53 binary digits, so it differs from the exact quotient by
at most one part in 2^53 (`mul_significantDiv_le`, `le_mul_significantDiv`). Two
quotients of counts up to 2^26 that differ at all differ by more: brought to a
common denominator, their numerators are whole numbers below 2^52, and a whole
number below 2^52 and the next one are further apart than the two roundings can
bring them together. So rounding keeps different quotients apart; equal ones are
rounded alike; and since it never changes the order of two (`significantDiv_le`),
comparing shares is comparing the quotients themselves (`order_ofCounts`).
-/

namespace Concordance.Rank

variable {n m d e k : Nat}

/-! ## A quotient has many numerators -/

/-- What a quotient is rounded to does not depend on how it is reduced. -/
theorem roundDiv_mul_right (hk : 0 < k) :
    roundDiv (n * k) (d * k) = roundDiv n d := by
  have hbelow : 2 * (n % d * k) < d * k ↔ 2 * (n % d) < d := by
    rw [← Nat.mul_assoc]
    exact Nat.mul_lt_mul_right hk
  have habove : d * k < 2 * (n % d * k) ↔ d < 2 * (n % d) := by
    rw [← Nat.mul_assoc]
    exact Nat.mul_lt_mul_right hk
  simp only [roundDiv, Nat.mul_div_mul_right _ _ hk, Nat.mul_mod_mul_right,
    hbelow, habove]

theorem significantDiv_mul_right (hk : 0 < k) :
    significantDiv (n * k) (d * k) = significantDiv n d := by
  simp only [significantDiv, Nat.mul_div_mul_right _ _ hk, Nat.mul_right_comm d k,
    roundDiv_mul_right hk]

/-- Rounding keeps the order of quotients, whatever they are quotients of. -/
theorem significantDiv_le (hd : 0 < d) (he : 0 < e) (h : n * e ≤ m * d) :
    significantDiv n d ≤ significantDiv m e := by
  rw [← significantDiv_mul_right (n := n) he, ← significantDiv_mul_right (n := m) hd,
    Nat.mul_comm e d]
  exact significantDiv_mono (Nat.mul_pos hd he) h

/-! ## How far rounding goes -/

/-- Rounding goes down by at most half a divisor, or up by at most that. -/
theorem roundDiv_cases (n d : Nat) :
    roundDiv n d = n / d ∧ 2 * (n % d) ≤ d ∨
      roundDiv n d = n / d + 1 ∧ d ≤ 2 * (n % d) := by
  unfold roundDiv
  dsimp only
  split_ifs <;> omega

theorem mul_roundDiv_le (n d : Nat) : 2 * (d * roundDiv n d) ≤ 2 * n + d := by
  have hn := Nat.div_add_mod n d
  rcases roundDiv_cases n d with ⟨heq, -⟩ | ⟨heq, hup⟩
  · rw [heq]
    omega
  · rw [heq, Nat.mul_add, Nat.mul_one]
    omega

theorem le_mul_roundDiv (hd : 0 < d) : 2 * n ≤ 2 * (d * roundDiv n d) + d := by
  have hn := Nat.div_add_mod n d
  have hmod := Nat.mod_lt n hd
  rcases roundDiv_cases n d with ⟨heq, hdown⟩ | ⟨heq, -⟩
  · rw [heq]
    omega
  · rw [heq, Nat.mul_add, Nat.mul_one]
    omega

/-- The unit to which a quotient of enough digits is rounded is one part in 2^52
of it, or less. -/
theorem exists_small_unit (h : 2 ^ 52 ≤ n / d) : ∃ unit, 0 < unit ∧
    significantDiv n d = roundDiv n (d * unit) * unit ∧
    2 ^ 52 * (d * unit) ≤ n := by
  have hne : n / d ≠ 0 := by omega
  have hlog : 52 ≤ (n / d).log2 := (Nat.le_log2 hne).mpr h
  have hexp : (n / d).log2 + 1 - precision + 52 = (n / d).log2 := by
    unfold precision
    omega
  refine ⟨2 ^ ((n / d).log2 + 1 - precision), Nat.two_pow_pos _, rfl, ?_⟩
  calc 2 ^ 52 * (d * 2 ^ ((n / d).log2 + 1 - precision))
      = d * 2 ^ (n / d).log2 := by
        rw [Nat.mul_comm, Nat.mul_assoc, ← Nat.pow_add, hexp]
    _ ≤ d * (n / d) := Nat.mul_le_mul_left d (Nat.log2_self_le hne)
    _ ≤ n := Nat.mul_div_le n d

theorem mul_significantDiv_le (h : 2 ^ 52 ≤ n / d) :
    2 ^ 53 * (d * significantDiv n d) ≤ (2 ^ 53 + 1) * n := by
  obtain ⟨unit, -, heq, hunit⟩ := exists_small_unit h
  have hround := mul_roundDiv_le n (d * unit)
  rw [heq, Nat.mul_comm _ unit, ← Nat.mul_assoc d]
  omega

theorem le_mul_significantDiv (hd : 0 < d) (h : 2 ^ 52 ≤ n / d) :
    (2 ^ 53 - 1) * n ≤ 2 ^ 53 * (d * significantDiv n d) := by
  obtain ⟨unit, hpos, heq, hunit⟩ := exists_small_unit h
  have hround := le_mul_roundDiv (n := n) (Nat.mul_pos hd hpos)
  rw [heq, Nat.mul_comm _ unit, ← Nat.mul_assoc d]
  omega

/-- Quotients that are one part in 2^52 apart are rounded to different numbers. -/
theorem significantDiv_lt (he : 0 < e) (hn : 2 ^ 52 ≤ n / d)
    (hm : 2 ^ 52 ≤ m / e)
    (hgap : (2 ^ 53 + 1) * (n * e) < (2 ^ 53 - 1) * (m * d)) :
    significantDiv n d < significantDiv m e := by
  have hsmall : 2 ^ 53 * (d * e) * significantDiv n d ≤
      (2 ^ 53 + 1) * (n * e) :=
    calc 2 ^ 53 * (d * e) * significantDiv n d
        = 2 ^ 53 * (d * significantDiv n d) * e := by ring
      _ ≤ (2 ^ 53 + 1) * n * e :=
          Nat.mul_le_mul_right e (mul_significantDiv_le hn)
      _ = (2 ^ 53 + 1) * (n * e) := Nat.mul_assoc ..
  have hlarge : (2 ^ 53 - 1) * (m * d) ≤
      2 ^ 53 * (d * e) * significantDiv m e :=
    calc (2 ^ 53 - 1) * (m * d) = (2 ^ 53 - 1) * m * d :=
          (Nat.mul_assoc ..).symm
      _ ≤ 2 ^ 53 * (e * significantDiv m e) * d :=
          Nat.mul_le_mul_right d (le_mul_significantDiv he hm)
      _ = 2 ^ 53 * (d * e) * significantDiv m e := by ring
  exact Nat.lt_of_mul_lt_mul_left
    (Nat.lt_of_le_of_lt hsmall (Nat.lt_of_lt_of_le hgap hlarge))

/-! ## Shares of small counts -/

/-- A count that is something and not past 2^26. -/
def IsSmall (count : Nat) : Prop := 0 < count ∧ count ≤ 2 ^ 26

instance (count : Nat) : Decidable (IsSmall count) :=
  inferInstanceAs (Decidable (_ ∧ _))

section

variable {count total other whole : Nat}

/-- A count of no more digits than are kept is not rounded. -/
theorem significantDiv_one (h : count < 2 ^ 53) :
    significantDiv count 1 = count := by
  have hexp : count.log2 + 1 - precision = 0 := by
    by_cases hzero : count = 0
    · rw [hzero]
      rfl
    · have hlog := (Nat.log2_lt hzero).mpr h
      unfold precision
      omega
  simp only [significantDiv, Nat.div_one, hexp]
  simp [roundDiv, Nat.mod_one]

/-- A share of small counts is rounded only once. -/
theorem share_eq (hcount : IsSmall count) (htotal : IsSmall total) :
    share count total = significantDiv (count * one) total := by
  obtain ⟨-, hcount⟩ := hcount
  obtain ⟨hpos, htotal⟩ := htotal
  rw [share, if_neg (by omega), significantDiv_one (by omega),
    significantDiv_one (by omega)]

/-- A share of small counts has all the digits that are kept. -/
theorem le_share (hcount : IsSmall count) (htotal : IsSmall total) :
    2 ^ 52 ≤ count * one / total := by
  rw [Nat.le_div_iff_mul_le htotal.1]
  calc 2 ^ 52 * total ≤ 2 ^ 52 * 2 ^ 26 := Nat.mul_le_mul_left _ htotal.2
    _ ≤ 1 * one := by decide
    _ ≤ count * one := Nat.mul_le_mul_right one hcount.1

section

variable (hcount : IsSmall count) (htotal : IsSmall total)
  (hother : IsSmall other) (hwhole : IsSmall whole)
include hcount htotal hother hwhole

theorem share_le_of_le (h : count * whole ≤ other * total) :
    share count total ≤ share other whole := by
  rw [share_eq hcount htotal, share_eq hother hwhole]
  apply significantDiv_le htotal.1 hwhole.1
  rw [Nat.mul_right_comm, Nat.mul_right_comm other]
  exact Nat.mul_le_mul_right one h

theorem share_lt_of_lt (h : count * whole < other * total) :
    share count total < share other whole := by
  rw [share_eq hcount htotal, share_eq hother hwhole]
  apply significantDiv_lt hwhole.1 (le_share hcount htotal)
    (le_share hother hwhole)
  have hlarge : other * total ≤ 2 ^ 26 * 2 ^ 26 :=
    Nat.mul_le_mul hother.2 htotal.2
  -- The two products are whole numbers: if not the same, then one apart.
  have hgap : (2 ^ 53 + 1) * (count * whole) <
      (2 ^ 53 - 1) * (other * total) := by omega
  rw [Nat.mul_right_comm, Nat.mul_right_comm other,
    ← Nat.mul_assoc _ (count * whole), ← Nat.mul_assoc _ (other * total)]
  exact Nat.mul_lt_mul_of_pos_right hgap (Nat.two_pow_pos 128)

theorem share_lt_iff : share count total < share other whole ↔
    count * whole < other * total := by
  constructor
  · intro h
    by_contra hge
    have hle := share_le_of_le hother hwhole hcount htotal (Nat.le_of_not_lt hge)
    omega
  · exact share_lt_of_lt hcount htotal hother hwhole

theorem share_eq_iff : share count total = share other whole ↔
    count * whole = other * total := by
  have hlt := share_lt_iff hcount htotal hother hwhole
  have hgt := share_lt_iff hother hwhole hcount htotal
  omega

theorem compare_share : compare (share count total) (share other whole) =
    compare (count * whole) (other * total) := by
  have hlt := share_lt_of_lt hcount htotal hother hwhole
  have heq := share_eq_iff hcount htotal hother hwhole
  have hgt := share_lt_of_lt hother hwhole hcount htotal
  rcases Nat.lt_trichotomy (count * whole) (other * total) with h | h | h
  · rw [Nat.compare_eq_lt.mpr h, Nat.compare_eq_lt.mpr (hlt h)]
  · rw [Nat.compare_eq_eq.mpr h, Nat.compare_eq_eq.mpr (heq.mpr h)]
  · rw [Nat.compare_eq_gt.mpr h, Nat.compare_eq_gt.mpr (hgt h)]

end

end

end Concordance.Rank

namespace Concordance.Hit

open Rank (IsSmall)

/-- Small counts are ranked by the exact quotients, the larger first; only where
these are equal by the counts, and then by the locations. -/
theorem order_ofCounts {count total other whole : Nat} (hcount : IsSmall count)
    (htotal : IsSmall total) (hother : IsSmall other) (hwhole : IsSmall whole)
    (here there : Location) :
    (Rank.share count total < Rank.share other whole ↔
      count * whole < other * total) ∧
    (Rank.share count total = Rank.share other whole ↔
      count * whole = other * total) ∧
    order (ofCounts count total here) (ofCounts other whole there) =
      ((compare (other * total) (count * whole)).then <|
        (compare other count).then <|
          (compare (caseless here) (caseless there)).then <|
            compare here there) ∧
    (count * whole ≠ other * total →
      order (ofCounts count total here) (ofCounts other whole there) =
        compare (other * total) (count * whole)) := by
  have horder : order (ofCounts count total here) (ofCounts other whole there) =
      ((compare (other * total) (count * whole)).then <|
        (compare other count).then <|
          (compare (caseless here) (caseless there)).then <|
            compare here there) := by
    rw [← Rank.compare_share hother hwhole hcount htotal]
    rfl
  refine ⟨Rank.share_lt_iff hcount htotal hother hwhole,
    Rank.share_eq_iff hcount htotal hother hwhole, horder, fun hne => ?_⟩
  rw [horder]
  rcases Nat.lt_or_gt_of_ne hne with hlt | hgt
  · rw [Nat.compare_eq_gt.mpr hlt]
    rfl
  · rw [Nat.compare_eq_lt.mpr hgt]
    rfl

/-- Two shares above one that could not be closer: over the common denominator
their numerators are one apart. The hit of the smaller count ranks first. -/
theorem order_closest :
    IsSmall (2 ^ 26 - 2) ∧ IsSmall (2 ^ 26 - 1) ∧ IsSmall (2 ^ 26) ∧
    (2 ^ 26 - 1) * (2 ^ 26 - 1) = 2 ^ 26 * (2 ^ 26 - 2) + 1 ∧
    Rank.share (2 ^ 26) (2 ^ 26 - 1) < Rank.share (2 ^ 26 - 1) (2 ^ 26 - 2) ∧
    order (ofCounts (2 ^ 26 - 1) (2 ^ 26 - 2) "b.txt")
      (ofCounts (2 ^ 26) (2 ^ 26 - 1) "a.txt") = .lt := by
  have hlow : IsSmall (2 ^ 26 - 2) := by decide
  have hmid : IsSmall (2 ^ 26 - 1) := by decide
  have hhigh : IsSmall (2 ^ 26) := by decide
  obtain ⟨-, -, -, horder⟩ :=
    order_ofCounts hmid hlow hhigh hmid "b.txt" "a.txt"
  obtain ⟨hlt, -⟩ := order_ofCounts hhigh hmid hmid hlow "a.txt" "b.txt"
  refine ⟨hlow, hmid, hhigh, by decide, hlt.mpr (by decide), ?_⟩
  rw [horder (by decide)]
  decide

end Concordance.Hit
