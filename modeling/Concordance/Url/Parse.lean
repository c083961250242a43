import Concordance.Text.Blank
import Concordance.Url.Host

/-!
# Reading addresses

An address is read leniently: control characters and blanks at both ends do
not count, nor do tabs and line ends anywhere; the known schemes take a
backslash for a slash and any number of slashes before the host; the port
that a scheme has anyway is dropped; steps of one dot go nowhere and steps of
two dots go back. Characters that may not stand in a part are written as
bytes.

A reference on a web page is read against the address of the page. It may be
an address of its own, or leave out any number of parts from the left: the
scheme, the host, the path, everything.
-/

namespace Concordance.Url

/-! ## Schemes -/

/-- What kind of address a scheme makes. -/
inductive Kind where
  /-- A known scheme whose addresses have a host. -/
  | web
  | file
  | other
deriving DecidableEq

def kindOf (scheme : List Char) : Kind :=
  if scheme = "file".toList then .file
  else if ["http", "https", "ws", "wss", "ftp"].any fun name => scheme = name.toList then .web
  else .other

def usualPort? (scheme : List Char) : Option Nat :=
  if scheme = "http".toList ∨ scheme = "ws".toList then some 80
  else if scheme = "https".toList ∨ scheme = "wss".toList then some 443
  else if scheme = "ftp".toList then some 21
  else none

def isSchemeChar (c : Char) : Bool := c.isAlphanum || c ∈ ['+', '-', '.']

/-- Splits a text at the colon behind a scheme, if it begins with one. -/
def splitScheme? (text : List Char) : Option (List Char × List Char) :=
  let scheme := text.takeWhile isSchemeChar
  match text.dropWhile isSchemeChar with
  | ':' :: rest => if scheme.head?.any Char.isAlpha then some (scheme.map Char.toLower, rest) else none
  | _ => none

/-! ## Steps -/

def isSlash (kind : Kind) (c : Char) : Bool := c = '/' || (c = '\\' && kind ≠ .other)

/-- A step as it is compared with dots. -/
def dots : List Char → List Char
  | '%' :: '2' :: 'e' :: rest => '.' :: dots rest
  | '%' :: '2' :: 'E' :: rest => '.' :: dots rest
  | c :: rest => c :: dots rest
  | [] => []

/-- Goes on from some steps by others. A dot or two at the end leave a slash there. -/
def walk (taken : List (List Char)) : List (List Char) → List (List Char)
  | [] => taken
  | name :: rest =>
    let ending := if rest.isEmpty then [[]] else []
    if dots name = ['.', '.'] then walk (taken.dropLast ++ ending) rest
    else if dots name = ['.'] then walk (taken ++ ending) rest
    else walk (taken ++ [name]) rest

/-- The steps that a text between slashes names. -/
def stepsOf (kind : Kind) (text : List Char) : List (List Char) :=
  (text.splitOnP (isSlash kind)).map (percentEncode escapedInPath)

/-- The path behind the first slash. -/
def rootPath (kind : Kind) (text : List Char) : Path := .steps (walk [] (stepsOf kind text))

/-! ## Authorities -/

/-- The user and the password before the last at sign. -/
def userInfo (text : List Char) : List Char :=
  let user := percentEncode escapedInUserInfo (text.takeWhile (· ≠ ':'))
  let password := percentEncode escapedInUserInfo ((text.dropWhile (· ≠ ':')).drop 1)
  if user.isEmpty && password.isEmpty then []
  else if password.isEmpty then user ++ ['@']
  else user ++ ':' :: password ++ ['@']

/-- Splits a text at its last at sign. -/
def splitUser (text : List Char) : Option (List Char) × List Char :=
  let reversed := text.reverse
  match reversed.dropWhile (· ≠ '@') with
  | [] => (none, text)
  | _ :: user => (some user.reverse, (reversed.takeWhile (· ≠ '@')).reverse)

/-- Splits a text at the colon before a port. Between square brackets colons do not count. -/
def splitPort (inside : Bool) : List Char → List Char × Option (List Char)
  | [] => ([], none)
  | c :: rest =>
    if c = ':' ∧ !inside then ([], some rest)
    else
      let (host, port?) := splitPort (if c = '[' then true else if c = ']' then false else inside) rest
      (c :: host, port?)

/-- The number of a port, if it has digits and is not the usual one. -/
def readPort? (usual? : Option Nat) (digits : List Char) : Except Fault (Option Nat) :=
  if !digits.all Char.isDigit then .error .invalidPort
  else
    let port := digits.foldl (fun n c => n * 10 + (c.toNat - '0'.toNat)) 0
    if port > 65535 then .error .invalidPort
    else .ok (if digits.isEmpty || some port == usual? then none else some port)

/-- The authority that a text names; `isLast` tells that nothing follows it. -/
def readAuthority? (scheme : List Char) (isLast : Bool) (text : List Char) : Except Fault Authority := do
  let (user?, rest) := splitUser text
  let (host, port?) := splitPort false rest
  let info := userInfo (user?.getD [])
  if host.isEmpty then
    if kindOf scheme ≠ .other || port?.isSome || !info.isEmpty || (user? = some [] && !isLast) then
      throw .emptyHost
  let host ← if kindOf scheme = .other then otherHost? host else webHost? host
  let port? ← match port? with
    | none => pure none
    | some digits => readPort? (usualPort? scheme) digits
  return ⟨info, host, port?⟩

/-- The address behind two slashes. -/
def afterSlashes? (scheme text : List Char) (query? : Option (List Char)) : Except Fault Url := do
  let kind := kindOf scheme
  let place := text.takeWhile fun c => !isSlash kind c
  let rest := text.dropWhile fun c => !isSlash kind c
  let authority ← readAuthority? scheme (rest.isEmpty && query?.isNone) place
  let path := if kind = .other && rest.isEmpty then .steps [] else rootPath kind (rest.drop 1)
  return ⟨scheme, some authority, path, query?⟩

/-! ## Files -/

def isDriveLetter : List Char → Bool
  | [c, d] => c.isAlpha && (d = ':' || d = '|')
  | _ => false

/-- Goes on from some steps by others, but never back over the letter of a drive. -/
def walkFiles (taken : List (List Char)) : List (List Char) → List (List Char)
  | [] => taken
  | name :: rest =>
    let ending := if rest.isEmpty then [[]] else []
    if dots name = ['.', '.'] then
      walkFiles ((if taken.length = 1 && taken.all isDriveLetter then taken else taken.dropLast) ++ ending) rest
    else if dots name = ['.'] then walkFiles (taken ++ ending) rest
    else
      match name, taken with
      | [c, '|'], [] => walkFiles [if c.isAlpha then [c, ':'] else name] rest
      | _, _ => walkFiles (taken ++ [name]) rest

/-- The path of a file. It does not begin with empty steps. -/
def filePath (text : List Char) : List (List Char) :=
  let steps := walkFiles [] (stepsOf .file (text.dropWhile (isSlash .file)))
  match steps.dropWhile (·.isEmpty) with
  | [] => [[]]
  | found => found

/-- The address of a file. Its host is dropped before the letter of a drive. -/
def fileUrl? (text : List Char) (query? : Option (List Char)) : Except Fault Url := do
  let scheme := "file".toList
  let noHost : Authority := ⟨[], [], none⟩
  match text with
  | a :: b :: rest =>
    let host := rest.takeWhile fun c => !isSlash .file c
    if !(isSlash .file a && isSlash .file b) || isDriveLetter host || host.isEmpty then
      let path := if isSlash .file a && isSlash .file b then rest else text
      return ⟨scheme, some noHost, .steps (filePath path), query?⟩
    let path := filePath (rest.drop host.length)
    let found ← webHost? host
    let dropped := found = "localhost".toList || path.head?.any isDriveLetter
    return ⟨scheme, some (if dropped then noHost else ⟨[], found, none⟩), .steps path, query?⟩
  | _ => return ⟨scheme, some noHost, .steps (filePath text), query?⟩

/-! ## References -/

/-- An address read against one of the same scheme, both with a host. -/
def relative? (base : Url) (text : List Char) (query? : Option (List Char)) : Except Fault Url :=
  let kind := kindOf base.scheme
  let names := match base.path with
    | .steps names => names
    | .plain _ => []
  let slashes := text.takeWhile (isSlash kind)
  match text with
  | [] => .ok { base with query? := query? <|> base.query? }
  | _ =>
    match slashes with
    | [] => .ok { base with path := .steps (walk names.dropLast (stepsOf kind text)), query? }
    | [_] => .ok { base with path := rootPath kind (text.drop 1), query? }
    | '/' :: '/' :: _ => afterSlashes? base.scheme (text.drop 2) query?
    | _ => afterSlashes? base.scheme (text.drop slashes.length) query?

/-- What is left of a text that counts in an address. -/
def significant (text : List Char) : List Char :=
  let trimmed := ((text.dropWhile (· ≤ ' ')).reverse.dropWhile (· ≤ ' ')).reverse
  (trimmed.filter fun c => !(c = '\t' || c = '\n' || c = '\r')).takeWhile (· ≠ '#')

/-- Splits a text at its first question mark. -/
def splitQuery (kind : Kind) (text : List Char) : List Char × Option (List Char) :=
  match text.dropWhile (· ≠ '?') with
  | [] => (text, none)
  | _ :: query =>
    let escaped := if kind = .other then escapedInQuery else escapedInWebQuery
    (text.takeWhile (· ≠ '?'), some (percentEncode escaped query))

/-- The path of an address without a host. Blanks at its end do not count. -/
def otherPath (text : List Char) : Path :=
  match text with
  | '/' :: rest => rootPath .other rest
  | _ => .plain (percentEncode isControl text)

def withoutFinalBlanks (url : Url) : Url :=
  match url.path, url.query? with
  | .plain text, none => { url with path := .plain (text.reverse.dropWhile (· = ' ')).reverse }
  | _, _ => url

/-- The address that a text is, or stands for against another. -/
def read? (base? : Option Url) (text : List Char) : Except Fault Url :=
  let text := significant text
  match splitScheme? text with
  | none =>
    match base? with
    | none => .error .relativeWithoutBase
    | some base =>
      let (text, query?) := splitQuery (kindOf base.scheme) text
      relative? base text query?
  | some (scheme, rest) =>
    let kind := kindOf scheme
    let (rest, query?) := splitQuery kind rest
    match kind with
    | .file => fileUrl? rest query?
    | .other =>
      match rest with
      | '/' :: '/' :: place => afterSlashes? scheme place query?
      | _ => .ok (withoutFinalBlanks ⟨scheme, none, otherPath rest, query?⟩)
    | .web =>
      let slashes := (rest.takeWhile (isSlash .web)).length
      match base?.filter fun base => base.scheme = scheme ∧ slashes < 2 with
      | some base => relative? base rest query?
      | none => afterSlashes? scheme (rest.drop slashes) query?

/-- The address that a text is. -/
def parse? (text : String) : Except Fault Url := read? none text.toList

/-- The address on the web to which a reference leads from a page, if it leads
to one. A page that is not itself on the web has no relative references. -/
def follow? (base : Url) (reference : List Char) : Option Url :=
  match read? (some base |>.filter Url.isHttp) reference with
  | .error _ => none
  | .ok url => if url.isHttp then some url else none

end Concordance.Url
