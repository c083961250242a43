/-!
# Rounded quotients

A quotient of two counts is kept to 53 significant binary digits. To round a
quotient means to take the nearest multiple of a unit, and of two nearest
ones the even multiple (`roundDiv`); to keep it to 53 digits means to choose
the unit so that the multiple has 53 digits.

The quotients here are of counts below 2^65, so all of them are multiples of
2^-128 and are held as natural numbers of that unit. Comparing two of them
is comparing natural numbers.
-/

namespace Concordance.Rank

/-- `n / d` rounded to a whole number; halfway between two, the even one. -/
def roundDiv (n d : Nat) : Nat :=
  let q := n / d
  let r := n % d
  if 2 * r < d then q
  else if d < 2 * r then q + 1
  else if q % 2 = 0 then q
  else q + 1

/-- The number of binary digits that are kept. -/
def precision : Nat := 53

/-- `n / d` rounded to as many significant binary digits as are kept, for a
quotient that is a whole number of that many digits or zero. -/
def significantDiv (n d : Nat) : Nat :=
  let unit := Nat.pow 2 ((n / d).log2 + 1 - precision)
  roundDiv n (d * unit) * unit

/-- How many of the units of a share make one. -/
def one : Nat := Nat.pow 2 128

/-- `count / total` with both counts and the quotient rounded, in units of
2^-128, and zero where the total is. -/
def share (count total : Nat) : Nat :=
  if total = 0 then 0
  else significantDiv (significantDiv count 1 * one) (significantDiv total 1)

/-- `units` as a decimal number of eight places, rounded to the nearest and
halfway between two to the even one, in units of the last place. -/
def decimal (units : Nat) : Nat := roundDiv (units * 100000000) one

/-- The same number in the interchange form of 64 bits: eleven bits of
exponent above 52 bits of fraction. -/
def bits64 (units : Nat) : Nat :=
  if units = 0 then 0
  else
    let digits := units.log2
    let fraction := Nat.pow 2 52
    (digits + 1023 - 128) * fraction + (units / Nat.pow 2 (digits - 52) - fraction)

end Concordance.Rank
