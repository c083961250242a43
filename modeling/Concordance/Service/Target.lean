/-!
# Targets of requests

A request names its target by a path with, perhaps, a query behind a question
mark; what stands behind a number sign is dropped. In front of the path there
may be a scheme with a host. A host without a scheme can only stand alone, and
then there is no path at all.

A target is refused when it is too long or has a character that has to be
written as a percent sign with digits. Characters outside ASCII are let
through as they are.
-/

namespace Concordance

structure Target where
  path : List Char
  query? : Option (List Char)
deriving DecidableEq, Repr

namespace Target

/-- The most bytes of a target. -/
def longest : Nat := 65534

/-- The most characters of a scheme. -/
def longestScheme : Nat := 64

/-! ## Paths -/

/-- Whether a character may stand in a path. -/
def isPathChar (c : Char) : Bool := '!' ≤ c && c ∉ ['#', '<', '>', '?', '\x60']

/-- Whether a character may stand in a query. -/
def isQueryChar (c : Char) : Bool := '!' ≤ c && c ∉ ['"', '#', '<', '>']

/-- Reads a path with its query. -/
def ofPath? (text : List Char) : Option Target :=
  let kept := text.takeWhile (· ≠ '#')
  let path := kept.takeWhile (· ≠ '?')
  let query? := match kept.dropWhile (· ≠ '?') with
    | _ :: query => some query
    | [] => none
  if path.all isPathChar && query?.all fun query => query.all isQueryChar then
    some ⟨if path = [] then ['/'] else path, query?⟩
  else none

/-! ## Hosts -/

/-- Whether a character means nothing but itself in a host or a user's name. -/
def isHostChar (c : Char) : Bool :=
  c.isAlphanum || c ∈ ['!', '$', '&', '\'', '(', ')', '*', '+', ',', '-', '.', ';', '=', '_', '~']

/-- What was seen of a host, with what may stand before it. -/
structure HostScan where
  /-- The colons since the user's name and the brackets ended. -/
  colons : Nat
  opened : Bool
  closed : Bool
  /-- A percent sign came since the user's name and the brackets ended. -/
  percent : Bool
  /-- The last character ended the user's name. -/
  atUser : Bool

namespace HostScan

def start : HostScan := ⟨0, false, false, false, false⟩

def next (scan : HostScan) (c : Char) : Option HostScan :=
  let scan := { scan with atUser := c = '@' }
  match c with
  | ':' => if scan.colons < 8 then some { scan with colons := scan.colons + 1 } else none
  | '[' => if scan.percent || scan.opened then none else some { scan with opened := true }
  | ']' =>
    if scan.opened && !scan.closed then some { scan with closed := true, colons := 0, percent := false }
    else none
  | '@' => some { scan with colons := 0, percent := false }
  | '%' => some { scan with percent := true }
  | c => if isHostChar c then some scan else none

/-- Whether a host can end here. -/
def isComplete (scan : HostScan) : Bool :=
  scan.opened == scan.closed && scan.colons ≤ 1 && !scan.atUser && !scan.percent

end HostScan

def isHost (text : List Char) : Bool := (text.foldlM HostScan.next .start).any HostScan.isComplete

/-- Whether a character ends a host. -/
def endsHost (c : Char) : Bool := c ∈ ['/', '?', '#']

/-! ## Targets -/

def isSchemeChar (c : Char) : Bool := c.isAlphanum || c ∈ ['+', '-', '.']

/-- The scheme of a target and what follows it, if it has one. -/
def splitScheme? (text : List Char) : Option (List Char × List Char) :=
  match text.dropWhile isSchemeChar with
  | ':' :: '/' :: '/' :: rest => some (text.takeWhile isSchemeChar, rest)
  | _ => none

/-- Reads what is not simply a path. -/
def ofHost? (text : List Char) : Option Target :=
  match splitScheme? text with
  | none => if isHost text then some ⟨[], none⟩ else none
  | some (scheme, rest) =>
    let host := rest.takeWhile (!endsHost ·)
    if scheme.length ≤ longestScheme && host ≠ [] && isHost host then
      ofPath? (rest.dropWhile (!endsHost ·))
    else none

/-- The target that a text names. -/
def parse? (text : String) : Option Target :=
  if text.utf8ByteSize > longest then none
  else match text.toList with
    | [] => none
    | ['*'] => some ⟨['*'], none⟩
    | '/' :: rest => ofPath? ('/' :: rest)
    | text => ofHost? text

end Target

end Concordance
