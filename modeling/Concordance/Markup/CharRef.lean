import Concordance.Markup.ReferenceTable
import Concordance.Text.Matching

/-!
# Character references

In markup an ampersand begins a reference to a character, by number or by
name. A number is decimal or, after an `x`, hexadecimal; the semicolon behind
it may be missing. Of the names that fit, the longest counts, so a name that
may stand without its semicolon is also read as the beginning of a longer
word. In the value of an attribute it is not, where a letter, a digit or an
equals sign follows; so addresses with parameters survive.

Numbers that stand for no character give a replacement character, and those
from 128 to 159 mean the characters of an older code.
-/

namespace Concordance.Markup

open Text

/-! ## By number -/

/-- What the numbers from 128 on meant in an older code; zero where they meant nothing. -/
def olderCode : List Nat := [
  0x20AC, 0, 0x201A, 0x0192, 0x201E, 0x2026, 0x2020, 0x2021, 0x02C6, 0x2030, 0x0160, 0x2039, 0x0152,
  0, 0x017D, 0, 0, 0x2018, 0x2019, 0x201C, 0x201D, 0x2022, 0x2013, 0x2014, 0x02DC, 0x2122, 0x0161,
  0x203A, 0x0153, 0, 0x017E, 0x0178]

/-- The character of a number. -/
def numbered (n : Nat) : Char :=
  if n = 0 ∨ 0x10FFFF < n ∨ (0xD800 ≤ n ∧ n ≤ 0xDFFF) then '\uFFFD'
  else if 0x80 ≤ n ∧ n ≤ 0x9F then
    match olderCode.getD (n - 0x80) 0 with
    | 0 => Char.ofNat n
    | older => Char.ofNat older
  else Char.ofNat n

def digitValue? (base : Nat) (c : Char) : Option Nat :=
  let value :=
    if '0' ≤ c ∧ c ≤ '9' then c.toNat - '0'.toNat
    else if 'a' ≤ c ∧ c ≤ 'f' then c.toNat - 'a'.toNat + 10
    else if 'A' ≤ c ∧ c ≤ 'F' then c.toNat - 'A'.toNat + 10
    else base
  if value < base then some value else none

/-- The digits at the beginning of a text: how many, and the number they make. -/
def readNumber (base : Nat) : (count value : Nat) → List Char → Nat × Nat
  | count, value, [] => (count, value)
  | count, value, c :: rest =>
    match digitValue? base c with
    | some digit => readNumber base (count + 1) (value * base + digit) rest
    | none => (count, value)

/-- A number behind `before` characters of a reference, with its semicolon if there is one. -/
def numberedReference? (base before : Nat) (text : List Char) : Option (Nat × List Char) :=
  match readNumber base 0 0 text with
  | (0, _) => none
  | (count, value) =>
    let semicolon := if (text.drop count).head? = some ';' then 1 else 0
    some (before + count + semicolon, [numbered value])

/-! ## By name -/

/-- What a row of the table stands for. -/
def rowText (first second : Nat) : List Char :=
  if second = 0 then [Char.ofNat first] else [Char.ofNat first, Char.ofNat second]

/-- The names of characters, with what they stand for. -/
def references : List (List Char × List Char) :=
  referenceRows.map fun (name, first, second) => (name.toList, rowText first second)

/-- The longest name that a text begins with. -/
def longestName? (text : List Char) : Option (List Char × List Char) :=
  references.foldl (fun best row =>
    if row.1.isPrefixOf text ∧ best.all (fun found => found.1.length < row.1.length) then some row
    else best) none

/-- A name without its semicolon, where the text goes on as in an address. -/
def isPartOfAddress (name rest : List Char) : Bool :=
  name.getLast? != some ';' && rest.head?.any fun c => c = '=' || c.isAlphanum

def namedReference? (inAttribute : Bool) (text : List Char) : Option (Nat × List Char) :=
  match longestName? text with
  | none => none
  | some (name, meaning) =>
    if inAttribute && isPartOfAddress name (text.drop name.length) then none
    else some (1 + name.length, meaning)

/-! ## In a text -/

/-- The reference at the beginning of a text: its length and what it stands for. -/
def reference? (inAttribute : Bool) : List Char → Option (Nat × List Char)
  | '&' :: '#' :: 'x' :: rest => numberedReference? 16 3 rest
  | '&' :: '#' :: 'X' :: rest => numberedReference? 16 3 rest
  | '&' :: '#' :: rest => numberedReference? 10 2 rest
  | '&' :: rest => namedReference? inAttribute rest
  | _ => none

/-- A text with every reference replaced by what it stands for. -/
def decodeReferences (inAttribute : Bool) (text : List Char) : List Char :=
  replaceMatches (reference? inAttribute) text

end Concordance.Markup
