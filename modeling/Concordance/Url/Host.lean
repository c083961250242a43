import Concordance.Url.Basic
import Concordance.Url.Domain

/-!
# Hosts

A host is a domain name or the number of a machine. A number of four bytes is
written with dots in up to four parts, each decimal, octal or hexadecimal,
where the last part fills all bytes that are left; whatever ends in a number
has to be one. A number of sixteen bytes is written between square brackets
in eight groups of hexadecimal digits, of which one run of zeros may be left
out and the last two may be written with dots.

In an address with a scheme of its own kind a host is any text without
characters that would end it.
-/

namespace Concordance.Url

/-! ## Four bytes -/

/-- A part of a number with dots: its value, as far as it has one. -/
inductive Ipv4Part where
  | value (n : Nat)
  | tooLarge
  | notANumber
deriving DecidableEq

def readDigits (base : Nat) (text : List Char) : Ipv4Part :=
  let digits := text.map fun c => (hexValue? c).filter (· < base)
  if digits.all Option.isSome then
    let n := digits.foldl (fun n digit => n * base + digit.getD 0) 0
    if n ≤ 0xFFFFFFFF then .value n else .tooLarge
  else .notANumber

def ipv4Part : List Char → Ipv4Part
  | [] => .notANumber
  | '0' :: 'x' :: rest => readDigits 16 rest
  | '0' :: 'X' :: rest => readDigits 16 rest
  | '0' :: c :: rest => readDigits 8 (c :: rest)
  | text => readDigits 10 text

/-- The parts of a name between dots, without an empty one at the end. -/
def dotParts (name : List Char) : List (List Char) :=
  let parts := name.splitOnP (· == '.')
  if parts.length > 1 && parts.getLast? == some [] then parts.dropLast else parts

def endsInNumber (name : List Char) : Bool :=
  match (dotParts name).getLast? with
  | none => false
  | some last => (!last.isEmpty && last.all Char.isDigit) || ipv4Part last != .notANumber

/-- The number of four bytes whose last part fills what `parts` leave. -/
def ipv4Number? (parts : List Nat) : Option Nat :=
  match parts.getLast? with
  | none => none
  | some last =>
    let first := parts.dropLast
    if first.any (· > 255) || last ≥ Nat.pow 256 (4 - first.length) then none
    else some (first.zipIdx.foldl (fun n (byte, i) => n + byte * Nat.pow 256 (3 - i)) last)

def ipv4? (name : List Char) : Except Fault Nat :=
  let parts := (dotParts name).map ipv4Part
  let values := parts.filterMap fun
    | .value n => some n
    | _ => none
  if parts.length > 4 || values.length ≠ parts.length then .error .invalidIpv4
  else match ipv4Number? values with
    | some n => .ok n
    | none => .error .invalidIpv4

/-- A number of four bytes, byte by byte. -/
def ipv4Text (n : Nat) : List Char :=
  ['.'].intercalate ([n / 0x1000000, n / 0x10000 % 256, n / 256 % 256, n % 256].map (Nat.toDigits 10))

/-! ## Sixteen bytes -/

def hexNumber? (text : List Char) : Option Nat :=
  if text.isEmpty || text.length > 4 then none
  else text.foldlM (fun n c => (hexValue? c).map (n * 16 + ·)) 0

/-- A byte in decimal, without leading zeros. -/
def decimalByte? (text : List Char) : Option Nat :=
  if text.isEmpty || !text.all Char.isDigit || (text.length > 1 && text.head? == some '0') then none
  else
    let n := text.foldl (fun n c => n * 10 + (c.toNat - '0'.toNat)) 0
    if n ≤ 255 then some n else none

/-- The two groups that four bytes with dots make. -/
def dottedGroups? (text : List Char) : Option (List Nat) :=
  match (text.splitOnP (· == '.')).map decimalByte? with
  | [some a, some b, some c, some d] => some [a * 256 + b, c * 256 + d]
  | _ => none

/-- Groups between colons. Only the last may have dots. -/
def groups? : List (List Char) → Option (List Nat)
  | [] => some []
  | [last] => if '.' ∈ last then dottedGroups? last else (hexNumber? last).map ([·])
  | first :: rest => (hexNumber? first).bind fun n => (groups? rest).map (n :: ·)

/-- Groups of which none is empty; no text has no groups. -/
def groupRun? (text : List Char) : Option (List Nat) :=
  if text.isEmpty then some [] else groups? (text.splitOnP (· == ':'))

/-- Splits a text at the first pair of colons. -/
def splitAtGap? : List Char → Option (List Char × List Char)
  | [] => none
  | ':' :: ':' :: rest => some ([], rest)
  | c :: rest => (splitAtGap? rest).map fun (before, after) => (c :: before, after)

/-- The eight groups of a number of sixteen bytes. -/
def ipv6Groups? (text : List Char) : Option (List Nat) :=
  match splitAtGap? text with
  | none => (groupRun? text).filter (·.length = 8)
  | some (before, after) =>
    if '.' ∈ before then none
    else match groupRun? before, groupRun? after with
      | some first, some last =>
        let given := first.length + last.length
        if given ≤ 7 then some (first ++ List.replicate (8 - given) 0 ++ last) else none
      | _, _ => none

/-- The number of zeros that a list begins with. -/
def zeroRun (groups : List Nat) : Nat := (groups.takeWhile (· = 0)).length

/-- The place and length of the first longest run of at least two zeros. -/
def longestGap? (groups : List Nat) : Option (Nat × Nat) :=
  (List.range groups.length).foldl (fun best i =>
    let run := zeroRun (groups.drop i)
    if run ≥ 2 ∧ best.all (fun found => found.2 < run) then some (i, run) else best) none

def hexText (n : Nat) : List Char := Nat.toDigits 16 n

def ipv6Text (groups : List Nat) : List Char :=
  let join (groups : List Nat) : List Char := [':'].intercalate (groups.map hexText)
  match longestGap? groups with
  | none => join groups
  | some (i, run) => join (groups.take i) ++ ':' :: ':' :: join (groups.drop (i + run))

def bracketed? (host : List Char) : Except Fault (List Char) :=
  match host.getLast? with
  | some ']' =>
    match ipv6Groups? (host.drop 1).dropLast with
    | some groups => .ok ('[' :: ipv6Text groups ++ [']'])
    | none => .error .invalidIpv6
  | _ => .error .invalidIpv6

/-! ## Any host -/

/-- The form of a host on the web. -/
def webHost? (host : List Char) : Except Fault (List Char) :=
  if host.head? = some '[' then bracketed? host
  else match asciiDomain? (percentDecode host) with
    | none => .error .invalidDomainName
    | some [] => .error .emptyHost
    | some domain =>
      if endsInNumber domain then (ipv4? domain).map ipv4Text else .ok domain

/-- The characters that no host holds as they are. -/
def endsHost (c : Char) : Bool :=
  c ∈ ['\x00', '\t', '\n', '\r', ' ', '#', '/', ':', '<', '>', '?', '@', '[', '\\', ']', '^', '|']

/-- The form of a host under a scheme that is not known. -/
def otherHost? (host : List Char) : Except Fault (List Char) :=
  if host.head? = some '[' then bracketed? host
  else if host.any endsHost then .error .invalidHostCharacter
  else .ok (percentEncode isControl host)

end Concordance.Url
