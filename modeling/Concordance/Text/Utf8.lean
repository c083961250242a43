/-!
# UTF-8

Reading bytes as text. A byte sequence is well formed when it is the
shortest encoding of Unicode scalar values: no overlong form, no surrogate,
nothing above U+10FFFF. `decode?` accepts exactly these sequences.
`decodeLossy` reads any bytes, with a replacement character for each maximal
piece that could have begun a character but did not complete it.

Both read one byte at a time. Between two bytes all that matters is the
character under way: the bits read so far, how many bytes are missing, and
the range in which the next one has to lie.
-/

namespace Concordance.Text.Utf8

/-- A character of which at least one byte is still to come. -/
structure Pending where
  /-- The bits read so far. -/
  bits : Nat
  /-- How many bytes are missing after the next one. -/
  further : Nat
  /-- The range of the next byte. It is narrower than that of continuation
  bytes only where that keeps out overlong forms, surrogates and values above
  the last code point. -/
  least : UInt8
  most : UInt8

/-- What one byte does where no character is under way. -/
inductive Start where
  | char (c : Char)
  | pending (p : Pending)
  | invalid

def start (b : UInt8) : Start :=
  if b < 0x80 then .char (Char.ofNat b.toNat)
  else if b < 0xC2 then .invalid
  else if b < 0xE0 then .pending ⟨b.toNat % 32, 0, 0x80, 0xBF⟩
  else if b < 0xF0 then
    .pending ⟨b.toNat % 16, 1, if b == 0xE0 then 0xA0 else 0x80, if b == 0xED then 0x9F else 0xBF⟩
  else if b < 0xF5 then
    .pending ⟨b.toNat % 8, 2, if b == 0xF0 then 0x90 else 0x80, if b == 0xF4 then 0x8F else 0xBF⟩
  else .invalid

/-- What one byte does to a character under way: completes it, brings it
closer to its end, or does not belong to it. -/
def Pending.next (p : Pending) (b : UInt8) : Start :=
  if p.least ≤ b && b ≤ p.most then
    let bits := p.bits * 64 + b.toNat % 64
    match p.further with
    | 0 => .char (Char.ofNat bits)
    | further + 1 => .pending ⟨bits, further, 0x80, 0xBF⟩
  else .invalid

/-- Reads on with the character `under way`, if there is one. -/
def decodeFrom? : (underWay : Option Pending) → List UInt8 → Option (List Char)
  | none, [] => some []
  | some _, [] => none
  | underWay, b :: rest =>
    match underWay.elim (start b) (·.next b) with
    | .char c => (decodeFrom? none rest).map (c :: ·)
    | .pending p => decodeFrom? (some p) rest
    | .invalid => none

/-- The characters of a byte sequence, or `none` when it is not well formed. -/
def decode? (bytes : List UInt8) : Option (List Char) := decodeFrom? none bytes

/-- Reads on with the character `under way`. A byte that does not belong to it
ends it as a broken piece and is then read as a first byte. -/
def decodeLossyFrom : (underWay : Option Pending) → List UInt8 → List Char
  | none, [] => []
  | some _, [] => ['\uFFFD']
  | none, b :: rest =>
    match start b with
    | .char c => c :: decodeLossyFrom none rest
    | .pending p => decodeLossyFrom (some p) rest
    | .invalid => '\uFFFD' :: decodeLossyFrom none rest
  | some q, b :: rest =>
    match q.next b with
    | .char c => c :: decodeLossyFrom none rest
    | .pending p => decodeLossyFrom (some p) rest
    | .invalid =>
      '\uFFFD' ::
        match start b with
        | .char c => c :: decodeLossyFrom none rest
        | .pending p => decodeLossyFrom (some p) rest
        | .invalid => '\uFFFD' :: decodeLossyFrom none rest

/-- The characters of a byte sequence, with U+FFFD for each broken piece. -/
def decodeLossy (bytes : List UInt8) : List Char := decodeLossyFrom none bytes

/-- The encoding of one character. -/
def encodeChar (c : Char) : List UInt8 :=
  let n := c.toNat
  if n < 0x80 then [n.toUInt8]
  else if n < 0x800 then [(0xC0 + n / 64).toUInt8, (0x80 + n % 64).toUInt8]
  else if n < 0x10000 then
    [(0xE0 + n / 4096).toUInt8, (0x80 + n / 64 % 64).toUInt8, (0x80 + n % 64).toUInt8]
  else
    [(0xF0 + n / 262144).toUInt8, (0x80 + n / 4096 % 64).toUInt8,
      (0x80 + n / 64 % 64).toUInt8, (0x80 + n % 64).toUInt8]

/-- The encoding of a text. -/
def encode (cs : List Char) : List UInt8 := cs.flatMap encodeChar

/-! ## Where a line feed stands

A byte below 0x80 is a character of its own, and it belongs to no character
under way. So well-formedness can be checked line by line. -/

theorem decode?_ascii {b : UInt8} (hb : b < 0x80) (rest : List UInt8) :
    decode? (b :: rest) = (decode? rest).map (Char.ofNat b.toNat :: ·) := by
  simp [decode?, decodeFrom?, start, hb]

end Concordance.Text.Utf8
