/-!
# Replacing what matches

A matcher looks at the beginning of a text and says how long a match there
is, if there is one, and what is to stand in its place. Replacing goes through
a text from left to right: a match is replaced as a whole and the search goes
on behind it, so matches do not overlap and what was put in is never looked
at again; a character at which no match begins stays.
-/

namespace Concordance.Text

/-- The length of a match at the beginning of a text. -/
abbrev Matcher := List Char → Option Nat

/-- Replaces matches in a text, where the first `skip` characters belong to a match already replaced. -/
def replaceFrom (matcher : List Char → Option (Nat × List Char)) : (skip : Nat) → List Char → List Char
  | _, [] => []
  | skip + 1, _ :: rest => replaceFrom matcher skip rest
  | 0, c :: rest =>
    match matcher (c :: rest) with
    | some (length, replacement) => replacement ++ replaceFrom matcher (length - 1) rest
    | none => c :: replaceFrom matcher 0 rest

/-- Replaces matches in a text by what the matcher says. -/
def replaceMatches (matcher : List Char → Option (Nat × List Char)) (text : List Char) : List Char :=
  replaceFrom matcher 0 text

/-- Replaces each match in a text by what is made of the matched characters. -/
def replaceEach (matcher : Matcher) (meaning : List Char → List Char) (text : List Char) :
    List Char :=
  replaceMatches
    (fun rest => (matcher rest).map fun length => (length, meaning (rest.take length))) text

/-- Takes matches out of a text. -/
def removeMatches (matcher : Matcher) (text : List Char) : List Char :=
  replaceMatches (fun rest => (matcher rest).map (·, [])) text

/-- The number of characters up to the end of the first match anywhere in a text. -/
def throughFirst (matcher : Matcher) : Matcher
  | [] => matcher []
  | c :: rest =>
    match matcher (c :: rest) with
    | some length => some length
    | none => (throughFirst matcher rest).map (· + 1)

/-- Matches the given characters. -/
def literally (pattern : List Char) : Matcher := fun text =>
  if pattern.isPrefixOf text then some pattern.length else none

/-- Matches one matcher and then another. -/
def followedBy (first second : Matcher) : Matcher := fun text =>
  (first text).bind fun length => (second (text.drop length)).map (length + ·)

end Concordance.Text
