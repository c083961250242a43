import Concordance.Markup.CharRef

/-!
# Tokens of a page

The source text of a page is cut into tags, runs of text and document types.
Any text can be cut: a bracket that begins no tag is text, and a tag that the
page ends in is dropped. Comments leave no token.

How a text is cut depends on the element it stands in. In most places tags
and character references are looked for; the content of some elements is
plain up to the closing tag, with or without references; a script may hide
its closing tag in what looks like a comment; and after one old element all is
text to the end.

Names of tags and attributes are compared in small letters, and of two
attributes with one name the first counts. Tabs, line ends, form feeds and
spaces are the only blanks; the line ends of other systems were made line
feeds before.
-/

namespace Concordance.Markup

open Text

/-- The attributes of a tag, in order. -/
abbrev Attributes := List (String × String)

structure Tag where
  name : String
  attributes : Attributes
  selfClosing : Bool
deriving DecidableEq, Repr

/-- What a document type says, as far as the layout of the page depends on it. -/
structure DocumentType where
  name : List Char
  publicId? : Option (List Char)
  systemId? : Option (List Char)
  /-- It is not well formed. -/
  broken : Bool
deriving DecidableEq, Repr

inductive Token where
  | text (chars : List Char)
  /-- A null character where markup is looked for. -/
  | null
  | opening (tag : Tag)
  | closing (name : String)
  | documentType (type : DocumentType)
deriving DecidableEq, Repr

/-- What is looked for in the content of an element. -/
inductive ContentModel where
  | markup
  /-- Plain up to the closing tag of that name, but with character references. -/
  | references (name : String)
  | raw (name : String)
  | script
  | endless
deriving DecidableEq, Repr

/-! ## Characters -/

def isSpace (c : Char) : Bool := c ∈ ['\t', '\n', '\x0c', ' ']

/-- A letter made small, or the sign for a null character. -/
def nameChar (c : Char) : Char := if c = '\x00' then '\uFFFD' else c.toLower

/-- A text with a sign for each null character. -/
def visibleNulls (text : List Char) : List Char := text.map fun c => if c = '\x00' then '\uFFFD' else c

/-- A text whose lines end with line feeds only. -/
def unixLines : List Char → List Char
  | [] => []
  | '\r' :: '\n' :: rest => '\n' :: unixLines rest
  | '\r' :: rest => '\n' :: unixLines rest
  | c :: rest => c :: unixLines rest

/-- Whether a text begins with a pattern of small letters, in any letter case. -/
def beginsWith : (pattern text : List Char) → Bool
  | [], _ => true
  | _ :: _, [] => false
  | p :: pattern, c :: rest => p = c.toLower && beginsWith pattern rest

/-- Splits a text behind the first place where a matcher fits; all of it goes before if none does. -/
def splitBehind (matcher : Matcher) (text : List Char) : List Char :=
  match throughFirst matcher text with
  | some length => text.drop length
  | none => []

/-! ## Tags -/

/-- Takes in an attribute, unless its name is there already. -/
def addAttribute (found : Attributes) (name value : List Char) : Attributes :=
  let name := String.ofList (name.map nameChar)
  if found.any fun other => other.1 = name then found
  else found ++ [(name, String.ofList (visibleNulls (decodeReferences true value)))]

/-- The value behind an equals sign, and the rest. Nothing if the page ends in it. -/
def readValue? (text : List Char) : Option (List Char × List Char) :=
  match text.dropWhile isSpace with
  | [] => none
  | '>' :: rest => some ([], '>' :: rest)
  | quote :: rest =>
    if quote = '"' ∨ quote = '\'' then
      match rest.dropWhile (· ≠ quote) with
      | [] => none
      | _ :: after => some (rest.takeWhile (· ≠ quote), after)
    else
      let ends (c : Char) : Bool := isSpace c || c = '>'
      let text := quote :: rest
      some (text.takeWhile (!ends ·), text.dropWhile (!ends ·))

/-- Reads attributes up to the end of a tag: what they are, whether the tag closes itself, and the
rest. Nothing if the page ends in the tag. Each round takes at least one character. -/
def readAttributes? : (rounds : Nat) → Attributes → List Char → Option (Attributes × Bool × List Char)
  | 0, _, _ => none
  | rounds + 1, found, text =>
    match text.dropWhile isSpace with
    | [] => none
    | '>' :: rest => some (found, false, rest)
    | '/' :: '>' :: rest => some (found, true, rest)
    | '/' :: rest => readAttributes? rounds found rest
    | c :: rest =>
      let ends (c : Char) : Bool := isSpace c || c = '/' || c = '>' || c = '='
      let name := c :: rest.takeWhile (!ends ·)
      match (rest.dropWhile (!ends ·)).dropWhile isSpace with
      | '=' :: after =>
        match readValue? after with
        | none => none
        | some (value, after) => readAttributes? rounds (addAttribute found name value) after
      | after => readAttributes? rounds (addAttribute found name []) after

/-- Reads a tag from its name on, and the rest. Nothing if the page ends in it. -/
def readTag? (text : List Char) : Option (Tag × List Char) :=
  let ends (c : Char) : Bool := isSpace c || c = '/' || c = '>'
  let name := String.ofList ((text.takeWhile (!ends ·)).map nameChar)
  (readAttributes? (text.length + 1) [] (text.dropWhile (!ends ·))).map
    fun (attributes, selfClosing, rest) => (⟨name, attributes, selfClosing⟩, rest)

/-! ## Comments and document types -/

/-- What is left behind a comment, read from behind its first four characters. -/
def skipComment (text : List Char) : List Char :=
  match text with
  | '>' :: rest => rest
  | '-' :: '>' :: rest => rest
  | _ => splitBehind (fun rest => literally "-->".toList rest <|> literally "--!>".toList rest) text

/-- What is left behind the next closing bracket. -/
def skipBracket (text : List Char) : List Char := splitBehind (literally ['>']) text

/-- A quoted text, and the rest. The mark tells whether its end was found. -/
def readQuoted? (text : List Char) : Option (List Char × Bool × List Char) :=
  match text with
  | quote :: rest =>
    if quote = '"' ∨ quote = '\'' then
      let ends (c : Char) : Bool := c = quote || c = '>'
      let value := visibleNulls (rest.takeWhile (!ends ·))
      match rest.dropWhile (!ends ·) with
      | c :: after => if c = quote then some (value, true, after) else some (value, false, '>' :: after)
      | [] => some (value, false, [])
    else none
  | [] => none

/-- The identifiers behind the name of a document type. -/
def readIdentifiers (name text : List Char) : DocumentType :=
  let after := text.dropWhile isSpace
  if beginsWith "public".toList after then
    match readQuoted? ((after.drop 6).dropWhile isSpace) with
    | none => ⟨name, none, none, true⟩
    | some (publicId, false, _) => ⟨name, some publicId, none, true⟩
    | some (publicId, true, rest) =>
      match rest.dropWhile isSpace with
      | '>' :: _ => ⟨name, some publicId, none, false⟩
      | rest =>
        match readQuoted? rest with
        | none => ⟨name, some publicId, none, true⟩
        | some (systemId, complete, rest) =>
          ⟨name, some publicId, some systemId, !complete || rest.isEmpty⟩
  else if beginsWith "system".toList after then
    match readQuoted? ((after.drop 6).dropWhile isSpace) with
    | none => ⟨name, none, none, true⟩
    | some (systemId, complete, rest) => ⟨name, none, some systemId, !complete || rest.isEmpty⟩
  else ⟨name, none, none, after.head? ≠ some '>'⟩

/-- A document type, read from behind its keyword. -/
def readDocumentType (text : List Char) : DocumentType :=
  let ends (c : Char) : Bool := isSpace c || c = '>'
  match text.dropWhile isSpace with
  | [] => ⟨[], none, none, true⟩
  | '>' :: _ => ⟨[], none, none, true⟩
  | rest =>
    readIdentifiers ((rest.takeWhile (!ends ·)).map nameChar) (rest.dropWhile (!ends ·))

/-! ## Content without markup -/

/-- Whether a text begins with a name and something that ends the name of a tag. -/
def isNamed (name text : List Char) : Bool :=
  beginsWith name text &&
    ((text.drop name.length).head?.any fun c => isSpace c || c = '/' || c = '>')

/-- Whether a text begins with the closing tag of a name. -/
def closesElement (name : List Char) : List Char → Bool
  | '<' :: '/' :: rest => isNamed name rest
  | _ => false

/-- Splits a text before the closing tag of a name. -/
def splitAtClosing (name : List Char) : List Char → List Char × List Char
  | [] => ([], [])
  | c :: rest =>
    if closesElement name (c :: rest) then ([], c :: rest)
    else
      let (before, after) := splitAtClosing name rest
      (c :: before, after)

/-- How deep a script has gone into what looks like a comment. -/
inductive ScriptState where
  | plain
  | inComment
  /-- In what looks like a script inside a comment. -/
  | inInnerScript
deriving DecidableEq

/-- The state of a script once it has got to a place where `rest` follows and `dashes` went before. -/
def ScriptState.next (state : ScriptState) (dashes : Nat) (rest : List Char) : ScriptState :=
  let script := "script".toList
  match state, rest with
  | .plain, _ => if (literally "<!--".toList rest).isSome then .inComment else .plain
  | state, '>' :: _ => if dashes ≥ 2 then .plain else state
  | .inComment, '<' :: inner => if isNamed script inner then .inInnerScript else .inComment
  | .inInnerScript, _ => if closesElement script rest then .inComment else .inInnerScript
  | state, _ => state

/-- Splits a script before its closing tag. -/
def splitScript (state : ScriptState) (dashes : Nat) : List Char → List Char × List Char
  | [] => ([], [])
  | c :: rest =>
    if state ≠ .inInnerScript && closesElement "script".toList (c :: rest) then ([], c :: rest)
    else
      let (before, after) :=
        splitScript (state.next dashes (c :: rest)) (if c = '-' then dashes + 1 else 0) rest
      (c :: before, after)

/-! ## One token -/

/-- The token that a bracket begins, if it leaves one, and the rest. `foreign` tells that the text
stands in an element of another vocabulary. -/
def bracketToken (foreign : Bool) : List Char → Option Token × List Char
  | '/' :: '>' :: rest => (none, rest)
  | '/' :: c :: rest =>
    if c.isAlpha then
      match readTag? (c :: rest) with
      | some (tag, rest) => (some (.closing tag.name), rest)
      | none => (none, [])
    else (none, skipBracket (c :: rest))
  | '/' :: [] => (some (.text ['<', '/']), [])
  | '!' :: '-' :: '-' :: rest => (none, skipComment rest)
  | '!' :: rest =>
    if beginsWith "doctype".toList rest then
      (some (.documentType (readDocumentType (rest.drop 7))), skipBracket rest)
    else if foreign && (literally "[CDATA[".toList rest).isSome then
      let content := rest.drop 7
      let after := splitBehind (literally "]]>".toList) content
      let closed := (throughFirst (literally "]]>".toList) content).isSome
      let length := content.length - after.length - if closed then 3 else 0
      (some (.text (visibleNulls (content.take length))), after)
    else (none, skipBracket rest)
  | '?' :: rest => (none, skipBracket rest)
  | c :: rest =>
    if c.isAlpha then
      match readTag? (c :: rest) with
      | some (tag, rest) => (some (.opening tag), rest)
      | none => (none, [])
    else (some (.text ['<']), c :: rest)
  | [] => (some (.text ['<']), [])

/-- A run of text as a token, unless it is empty. -/
def textToken? (text : List Char) : Option Token := if text.isEmpty then none else some (.text text)

/-- The next token of a text that is not empty, if it leaves one, and the rest. -/
def nextToken (model : ContentModel) (foreign : Bool) (text : List Char) : Option Token × List Char :=
  let plain (split : List Char × List Char) (decode : List Char → List Char) : Option Token × List Char :=
    match split with
    | ([], '<' :: rest) => bracketToken false rest
    | (content, rest) => (textToken? (visibleNulls (decode content)), rest)
  match model with
  | .markup =>
    match text with
    | '<' :: rest => bracketToken foreign rest
    | '\x00' :: rest => (some .null, rest)
    | _ =>
      let ends (c : Char) : Bool := c = '<' || c = '\x00'
      (textToken? (decodeReferences false (text.takeWhile (!ends ·))), text.dropWhile (!ends ·))
  | .references name => plain (splitAtClosing name.toList text) (decodeReferences false)
  | .raw name => plain (splitAtClosing name.toList text) id
  | .script => plain (splitScript .plain 0 text) id
  | .endless => (textToken? (visibleNulls text), [])

end Concordance.Markup
