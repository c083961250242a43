/-!
# JSON documents

The texts that are written to files are JSON documents of a few kinds:
objects, lists, texts, whole numbers, and numbers of eight decimal places.
A document is laid out with two blanks of indentation for each level, one
member or element to a line, and without a final line feed; an empty object
or list is written in two characters. The compact form has no blanks at all.

In a text, the quotation mark, the backslash and the control characters
below U+0020 are escaped, and all other characters stand for themselves.
-/

namespace Concordance.Json

inductive Document where
  | number (n : Nat)
  /-- So many units of the eighth decimal place. -/
  | decimal (units : Nat)
  | text (s : String)
  | list (elements : List Document)
  | object (members : List (String × Document))

/-! ## Texts and numbers -/

def hexDigit (n : Nat) : Char := "0123456789abcdef".toList.getD n '0'

def escapeChar (c : Char) : List Char :=
  if c = '"' then ['\\', '"']
  else if c = '\\' then ['\\', '\\']
  else if c = '\x08' then ['\\', 'b']
  else if c = '\t' then ['\\', 't']
  else if c = '\n' then ['\\', 'n']
  else if c = '\x0c' then ['\\', 'f']
  else if c = '\r' then ['\\', 'r']
  else if c.toNat < 0x20 then
    ['\\', 'u', '0', '0', hexDigit (c.toNat / 16), hexDigit (c.toNat % 16)]
  else [c]

/-- A text between quotation marks. -/
def quote (s : String) : List Char := '"' :: s.toList.flatMap escapeChar ++ ['"']

/-- The decimal digits of a number. -/
def digits (n : Nat) : List Char := Nat.toDigits 10 n

/-- A number of eight decimal places, given in units of the last one. -/
def decimalDigits (units : Nat) : List Char :=
  let fraction := digits (units % 100000000)
  digits (units / 100000000) ++ '.' :: List.replicate (8 - fraction.length) '0' ++ fraction

/-! ## Layout -/

/-- A new line with the indentation of `level`. -/
def newLine (level : Nat) : List Char := '\n' :: List.replicate (2 * level) ' '

/-- Items between brackets, one to a line, inside a document of `level`. -/
def bracket (level : Nat) (opening closing : Char) : List (List Char) → List Char
  | [] => [opening, closing]
  | item :: items =>
    opening :: (newLine (level + 1) ++ item ++
      items.flatMap fun item => ',' :: newLine (level + 1) ++ item) ++ newLine level ++ [closing]

mutual

/-- A document inside one of `level`, with indentation. -/
def Document.layout (level : Nat) : Document → List Char
  | number n => digits n
  | decimal units => decimalDigits units
  | text s => quote s
  | list elements => bracket level '[' ']' (layoutElements (level + 1) elements)
  | object members => bracket level '\x7b' '\x7d' (layoutMembers (level + 1) members)

def Document.layoutElements (level : Nat) : List Document → List (List Char)
  | [] => []
  | element :: elements => element.layout level :: layoutElements level elements

def Document.layoutMembers (level : Nat) : List (String × Document) → List (List Char)
  | [] => []
  | (key, value) :: members =>
    (quote key ++ ':' :: ' ' :: value.layout level) :: layoutMembers level members

end

/-- Items between brackets on one line. -/
def bracketCompact (opening closing : Char) (items : List (List Char)) : List Char :=
  opening :: (items.intersperse [',']).flatten ++ [closing]

mutual

def Document.compactChars : Document → List Char
  | number n => digits n
  | decimal units => decimalDigits units
  | text s => quote s
  | list elements => bracketCompact '[' ']' (compactElements elements)
  | object members => bracketCompact '\x7b' '\x7d' (compactMembers members)

def Document.compactElements : List Document → List (List Char)
  | [] => []
  | element :: elements => element.compactChars :: compactElements elements

def Document.compactMembers : List (String × Document) → List (List Char)
  | [] => []
  | (key, value) :: members =>
    (quote key ++ ':' :: value.compactChars) :: compactMembers members

end

/-- A document as it is written to a file. -/
def Document.pretty (document : Document) : String := .ofList (document.layout 0)

/-- A document on one line. -/
def Document.compact (document : Document) : String := .ofList document.compactChars

end Concordance.Json
