import Concordance.Text.Utf8

/-!
# Percent encoding

In an address a byte can be written as a percent sign and two hexadecimal
digits. Every part of an address has a set of characters that have to be
written like this; each set contains the ones before it. Characters outside
ASCII always are, byte by byte.
-/

namespace Concordance.Url

/-! ## Sets -/

/-- Control characters. -/
def isControl (c : Char) : Bool := c.toNat < 0x20 || c.toNat == 0x7F

def escapedInQuery (c : Char) : Bool := isControl c || c ∈ [' ', '"', '#', '<', '>']

/-- In the query of an address with a known scheme. -/
def escapedInWebQuery (c : Char) : Bool := escapedInQuery c || c = '\''

def escapedInPath (c : Char) : Bool :=
  isControl c || c ∈ [' ', '"', '<', '>', '\x60', '#', '?', '\x7b', '\x7d']

def escapedInUserInfo (c : Char) : Bool :=
  escapedInPath c || c ∈ ['/', ':', ';', '=', '@', '[', '\\', ']', '^', '|']

/-! ## Encoding -/

def upperHexDigit (n : Nat) : Char := "0123456789ABCDEF".toList.getD n '0'

def percentByte (b : UInt8) : List Char :=
  ['%', upperHexDigit (b.toNat / 16), upperHexDigit (b.toNat % 16)]

/-- Writes a text with the characters of a set, and all outside ASCII, as bytes. -/
def percentEncode (escaped : Char → Bool) (text : List Char) : List Char :=
  text.flatMap fun c =>
    if c.toNat ≥ 0x80 || escaped c then (Text.Utf8.encodeChar c).flatMap percentByte else [c]

/-! ## Decoding -/

def hexValue? (c : Char) : Option Nat :=
  if '0' ≤ c ∧ c ≤ '9' then some (c.toNat - '0'.toNat)
  else if 'a' ≤ c ∧ c ≤ 'f' then some (c.toNat - 'a'.toNat + 10)
  else if 'A' ≤ c ∧ c ≤ 'F' then some (c.toNat - 'A'.toNat + 10)
  else none

/-- The bytes that a text stands for. A percent sign without two digits stands for itself. -/
def percentDecode : List Char → List UInt8
  | [] => []
  | '%' :: a :: b :: rest =>
    match hexValue? a, hexValue? b with
    | some high, some low => (high * 16 + low).toUInt8 :: percentDecode rest
    | _, _ => (Text.Utf8.encodeChar '%') ++ percentDecode (a :: b :: rest)
  | c :: rest => Text.Utf8.encodeChar c ++ percentDecode rest

end Concordance.Url
