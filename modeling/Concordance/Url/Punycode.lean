/-!
# Punycode

A label of a domain name outside ASCII is written in letters, digits and
hyphens: first its ASCII characters as they are, and then, behind a hyphen,
where the other characters are to be inserted. These are written in the order
of their code points, each as the number of steps from the one before, where
a step goes to the next place in the label and, behind the last place, to the
next code point. The numbers have digits of 36 values, with a changing
threshold that marks the last digit, so that small numbers are short.
-/

namespace Concordance.Url.Punycode

def digitChar (digit : Nat) : Char :=
  if digit < 26 then Char.ofNat ('a'.toNat + digit) else Char.ofNat ('0'.toNat + digit - 26)

def digitValue? (c : Char) : Option Nat :=
  if 'a' ≤ c ∧ c ≤ 'z' then some (c.toNat - 'a'.toNat)
  else if 'A' ≤ c ∧ c ≤ 'Z' then some (c.toNat - 'A'.toNat)
  else if '0' ≤ c ∧ c ≤ '9' then some (c.toNat - '0'.toNat + 26)
  else none

/-- The threshold of a digit: one below it is the last of its number. `place` is the place of the digit. -/
def threshold (bias place : Nat) : Nat := max 1 (min 26 (36 * (place + 1) - bias))

/-- How many times a number is divided until it is small, and what is left. -/
def shrink : (fuel times delta : Nat) → Nat × Nat
  | 0, times, delta => (times, delta)
  | fuel + 1, times, delta => if delta > 455 then shrink fuel (times + 1) (delta / 35) else (times, delta)

/-- The bias after a number was written at a length, the first number being scaled down more. -/
def adapt (delta length : Nat) (isFirst : Bool) : Nat :=
  let scaled := if isFirst then delta / 700 else delta / 2
  let (times, rest) := shrink 8 0 (scaled + scaled / length)
  36 * times + 36 * rest / (rest + 38)

/-! ## Writing -/

/-- The digits of a number from a place on. Each divides what is left by at least ten. -/
def digits (bias : Nat) : (fuel place number : Nat) → List Char
  | 0, _, _ => []
  | fuel + 1, place, number =>
    let t := threshold bias place
    if number < t then [digitChar number]
    else digitChar (t + (number - t) % (36 - t)) :: digits bias fuel (place + 1) ((number - t) / (36 - t))

structure Writing where
  /-- Steps since the last character written. -/
  delta : Nat
  bias : Nat
  /-- How many characters are written. -/
  written : Nat
  isFirst : Bool
  output : List Char

/-- Goes past one character of the label while those of code point `code` are written. -/
def Writing.pass (code : Nat) (w : Writing) (c : Char) : Writing :=
  if c.toNat < code then { w with delta := w.delta + 1 }
  else if c.toNat = code then
    { delta := 0, bias := adapt w.delta (w.written + 1) w.isFirst, written := w.written + 1
      isFirst := false, output := w.output ++ digits w.bias 32 0 w.delta }
  else w

/-- Writes the characters of the given code points, which rise and are all above `last`. -/
def Writing.run (label : List Char) (w : Writing) (last : Nat) : List Nat → Writing
  | [] => w
  | code :: codes =>
    let w := { w with delta := w.delta + (code - last) * (w.written + 1) }
    let w := label.foldl (Writing.pass code) w
    Writing.run label { w with delta := w.delta + 1 } (code + 1) codes

/-- Puts a number into a rising list, once. -/
def insertCode (code : Nat) : List Nat → List Nat
  | [] => [code]
  | first :: rest =>
    if code < first then code :: first :: rest
    else if code = first then first :: rest else first :: insertCode code rest

/-- A label in letters, digits and hyphens. -/
def encode (label : List Char) : List Char :=
  let basic := label.filter fun c => c.toNat < 0x80
  let codes := ((label.filter fun c => c.toNat ≥ 0x80).map Char.toNat).foldr insertCode []
  let begun := if basic.isEmpty then [] else basic ++ ['-']
  (Writing.run label ⟨0, 72, basic.length, true, begun⟩ 0x80 codes).output

/-! ## Reading -/

structure Reading where
  /-- The number under way, with its place and the weight of that place. -/
  number : Nat
  place : Nat
  weight : Nat
  /-- The code point and the place of the last character inserted. -/
  code : Nat
  index : Nat
  bias : Nat
  isFirst : Bool
  label : List Char

/-- Inserts the character that a complete number tells. -/
def Reading.insert? (r : Reading) (number : Nat) : Option Reading :=
  let length := r.label.length + 1
  let steps := r.index + number
  let code := r.code + steps / length
  let index := steps % length
  if code.isValidChar then
    some { number := 0, place := 0, weight := 1, code, index := index + 1
           bias := adapt number length r.isFirst, isFirst := false
           label := r.label.take index ++ Char.ofNat code :: r.label.drop index }
  else none

/-- Reads digits up to the end of a label. -/
def Reading.run? (r : Reading) : List Char → Option (List Char)
  | [] => if r.place = 0 then some r.label else none
  | c :: rest =>
    (digitValue? c).bind fun digit =>
      let number := r.number + digit * r.weight
      let t := threshold r.bias r.place
      if digit < t then (r.insert? number).bind fun r => r.run? rest
      else Reading.run? { r with number, place := r.place + 1, weight := r.weight * (36 - t) } rest

/-- The label that was written in letters, digits and hyphens, if it was. -/
def decode? (text : List Char) : Option (List Char) :=
  let reversed := text.reverse
  let (basic, extended) :=
    if '-' ∈ text then
      (((reversed.dropWhile (· ≠ '-')).drop 1).reverse, (reversed.takeWhile (· ≠ '-')).reverse)
    else ([], text)
  Reading.run? ⟨0, 0, 1, 0x80, 0, 72, true, basic⟩ extended

end Concordance.Url.Punycode
