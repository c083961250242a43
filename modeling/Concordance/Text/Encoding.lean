import Concordance.Text.Blank
import Concordance.Text.Utf8

/-!
# Encodings of bytes received

A text that comes over the network may say in which encoding it is written.
Known are UTF-8, the two orders of UTF-16, and the western encoding of a byte
to a character, each under several labels. An unknown label is read as UTF-8.
A byte order mark at the front goes before any label and is no part of the
text. Reading never fails: what is not well formed becomes U+FFFD.
-/

namespace Concordance.Text

inductive Encoding where
  | utf8
  | utf16 (bigEndian : Bool)
  | western
deriving DecidableEq, Repr

namespace Encoding

def utf16Labels : List String :=
  ["csunicode", "iso-10646-ucs-2", "ucs-2", "unicode", "unicodefeff", "utf-16", "utf-16le"]

def utf16BigLabels : List String := ["unicodefffe", "utf-16be"]

def westernLabels : List String :=
  ["ansi_x3.4-1968", "ascii", "cp1252", "cp819", "csisolatin1", "ibm819", "iso-8859-1",
    "iso-ir-100", "iso8859-1", "iso88591", "iso_8859-1", "iso_8859-1:1987", "l1", "latin1",
    "us-ascii", "windows-1252", "x-cp1252"]

/-- The encoding of a label. Letter case and blanks around it do not matter. -/
def ofLabel (label : String) : Encoding :=
  let label := String.ofList ((trim label.toList).map Char.toLower)
  if label ∈ utf16Labels then utf16 false
  else if label ∈ utf16BigLabels then utf16 true
  else if label ∈ westernLabels then western
  else utf8

/-- The characters of the bytes from 0x80 to 0x9F in the western encoding. -/
def westernSigns : List Nat :=
  [0x20AC, 0x81, 0x201A, 0x0192, 0x201E, 0x2026, 0x2020, 0x2021, 0x02C6, 0x2030, 0x0160, 0x2039,
    0x0152, 0x8D, 0x017D, 0x8F, 0x90, 0x2018, 0x2019, 0x201C, 0x201D, 0x2022, 0x2013, 0x2014,
    0x02DC, 0x2122, 0x0161, 0x203A, 0x0153, 0x9D, 0x017E, 0x0178]

def westernChar (b : UInt8) : Char :=
  let n := b.toNat
  Char.ofNat (if 0x80 ≤ n ∧ n < 0xA0 then westernSigns.getD (n - 0x80) n else n)

/-- The units of two bytes each, without a single byte at the end. -/
def units (bigEndian : Bool) : List UInt8 → List Nat
  | a :: b :: rest =>
    (if bigEndian then a.toNat * 256 + b.toNat else b.toNat * 256 + a.toNat) :: units bigEndian rest
  | _ => []

def isHigh (unit : Nat) : Bool := 0xD800 ≤ unit && unit < 0xDC00
def isLow (unit : Nat) : Bool := 0xDC00 ≤ unit && unit < 0xE000

/-- The characters of units, two of which make up a character beyond U+FFFF. The last one may be
`cut` off in its middle. -/
def decodeUnits (cut : Bool) : (high? : Option Nat) → List Nat → List Char
  | none, [] => if cut then ['\uFFFD'] else []
  | some _, [] => ['\uFFFD']
  | none, unit :: rest =>
    if isHigh unit then decodeUnits cut (some unit) rest
    else (if isLow unit then '\uFFFD' else Char.ofNat unit) :: decodeUnits cut none rest
  | some high, unit :: rest =>
    if isLow unit then
      Char.ofNat (0x10000 + (high - 0xD800) * 0x400 + (unit - 0xDC00)) :: decodeUnits cut none rest
    else if isHigh unit then '\uFFFD' :: decodeUnits cut (some unit) rest
    else '\uFFFD' :: Char.ofNat unit :: decodeUnits cut none rest

/-- The text of bytes behind any byte order mark. -/
def decodePlain (bytes : List UInt8) : Encoding → List Char
  | utf8 => Utf8.decodeLossy bytes
  | utf16 bigEndian => decodeUnits (bytes.length % 2 = 1) none (units bigEndian bytes)
  | western => bytes.map westernChar

/-- The text of bytes that are said to be in an encoding. -/
def decode (encoding : Encoding) : List UInt8 → List Char
  | 0xEF :: 0xBB :: 0xBF :: rest => decodePlain rest utf8
  | 0xFE :: 0xFF :: rest => decodePlain rest (utf16 true)
  | 0xFF :: 0xFE :: rest => decodePlain rest (utf16 false)
  | bytes => decodePlain bytes encoding

end Encoding

end Concordance.Text
