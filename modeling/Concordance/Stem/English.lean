import Concordance.Stem.Suffix

/-!
# Stemming English words

Words that differ only in their inflection or derivation should be found
together, so the index holds stems. A stem need not be a word: `apples` and
`apple` share the stem `appl`.

A word of at most two letters is its own stem, and so are a few irregular
words, which are listed. All others lose their suffixes in a fixed series of
steps: plural and third person, past and participle, a final y, and then
three tables of derivational suffixes, from the outermost inwards, before a
final e or double l is dropped.
-/

namespace Concordance.Stem

/-- Words whose stems follow no rule. -/
def irregular : List (String × String) := [
  ("skis", "ski"), ("skies", "sky"), ("dying", "die"), ("lying", "lie"), ("tying", "tie"),
  ("idly", "idl"), ("gently", "gentl"), ("ugly", "ugli"), ("early", "earli"), ("only", "onli"),
  ("singly", "singl"), ("sky", "sky"), ("news", "news"), ("howe", "howe"), ("atlas", "atlas"),
  ("cosmos", "cosmos"), ("bias", "bias"), ("andes", "andes")]

/-- Words that are complete once the plural is gone. -/
def singulars : List String :=
  ["inning", "outing", "canning", "herring", "earring", "proceed", "exceed", "succeed"]

/-- Drops the s of a plural or a third person. -/
def dropPlural (word : List Char) : List Char :=
  if let some stem := stripSuffix? "sses" word then stem ++ ['s', 's']
  else if let some stem := stripSuffix? "ied" word <|> stripSuffix? "ies" word then
    if 2 ≤ stem.length then stem ++ ['i'] else stem ++ ['i', 'e']
  else if ("us".toList.isSuffixOf word) || ("ss".toList.isSuffixOf word) then word
  else if let some stem := stripSuffix? "s" word then
    if stem.dropLast.any isVowel then stem else word
  else word

/-- Repairs a word that has lost its past or participle ending: gives back an e
that went with it, or undoes the doubling of a consonant. -/
def repairEnd (regions : Regions) (stem : List Char) : List Char :=
  let ends (suffixes : List String) : Bool := suffixes.any (·.toList.isSuffixOf stem)
  if ends ["at", "bl", "iz"] then stem ++ ['e']
  else if ends ["bb", "dd", "ff", "gg", "mm", "nn", "pp", "rr", "tt"] then stem.dropLast
  else if stem.length = regions.first && endsShort stem then stem ++ ['e']
  else stem

/-- Drops the ending of a past form or a participle. -/
def dropParticiple (regions : Regions) (word : List Char) : List Char :=
  let cut (stem : List Char) : List Char :=
    if stem.any isVowel then repairEnd regions stem else word
  let agree (stem : List Char) : List Char :=
    if regions.first ≤ stem.length then stem ++ ['e', 'e'] else word
  if let some stem := stripSuffix? "eedly" word then agree stem
  else if let some stem := stripSuffix? "ingly" word then cut stem
  else if let some stem := stripSuffix? "edly" word then cut stem
  else if let some stem := stripSuffix? "eed" word then agree stem
  else if let some stem := stripSuffix? "ing" word then cut stem
  else if let some stem := stripSuffix? "ed" word then cut stem
  else word

/-- Writes i for a final y behind a consonant that does not begin the word. -/
def softenY (word : List Char) : List Char :=
  match word.reverse with
  | y :: c :: b :: rest =>
    if (y == 'y' || y == 'Y') && !isVowel c then (b :: rest).reverse ++ [c, 'i'] else word
  | _ => word

/-- The letters after which an adverb loses its ending. -/
def adverbLetters : List Char := "cdeghkmnrt".toList

def derivationRules : List SuffixRule := [
  ⟨"ational", "ate", .first⟩, ⟨"fulness", "ful", .first⟩, ⟨"iveness", "ive", .first⟩,
  ⟨"ization", "ize", .first⟩, ⟨"ousness", "ous", .first⟩,
  ⟨"biliti", "ble", .first⟩, ⟨"lessli", "less", .first⟩, ⟨"tional", "tion", .first⟩,
  ⟨"alism", "al", .first⟩, ⟨"aliti", "al", .first⟩, ⟨"ation", "ate", .first⟩,
  ⟨"entli", "ent", .first⟩, ⟨"fulli", "ful", .first⟩, ⟨"iviti", "ive", .first⟩,
  ⟨"ousli", "ous", .first⟩,
  ⟨"abli", "able", .first⟩, ⟨"alli", "al", .first⟩, ⟨"anci", "ance", .first⟩,
  ⟨"ator", "ate", .first⟩, ⟨"enci", "ence", .first⟩, ⟨"izer", "ize", .first⟩,
  ⟨"bli", "ble", .first⟩, ⟨"ogi", "og", .firstAfter ['l']⟩,
  ⟨"li", "", .firstAfter adverbLetters⟩]

def adjectiveRules : List SuffixRule := [
  ⟨"ational", "ate", .first⟩, ⟨"tional", "tion", .first⟩,
  ⟨"alize", "al", .first⟩, ⟨"ative", "", .second⟩, ⟨"icate", "ic", .first⟩,
  ⟨"iciti", "ic", .first⟩,
  ⟨"ical", "ic", .first⟩, ⟨"ness", "", .first⟩, ⟨"ful", "", .first⟩]

def nounRules : List SuffixRule := [
  ⟨"ement", "", .second⟩,
  ⟨"able", "", .second⟩, ⟨"ance", "", .second⟩, ⟨"ence", "", .second⟩, ⟨"ible", "", .second⟩,
  ⟨"ment", "", .second⟩,
  ⟨"ant", "", .second⟩, ⟨"ate", "", .second⟩, ⟨"ent", "", .second⟩,
  ⟨"ion", "", .secondAfter ['s', 't']⟩, ⟨"ism", "", .second⟩, ⟨"iti", "", .second⟩,
  ⟨"ive", "", .second⟩, ⟨"ize", "", .second⟩, ⟨"ous", "", .second⟩,
  ⟨"al", "", .second⟩, ⟨"er", "", .second⟩, ⟨"ic", "", .second⟩]

/-- Drops a final e, or one of two final ls. -/
def dropFinal (regions : Regions) (word : List Char) : List Char :=
  match stripSuffix? "e" word with
  | some stem =>
    if regions.second ≤ stem.length || (regions.first ≤ stem.length && !endsShort stem) then stem
    else word
  | none =>
    match stripSuffix? "l" word with
    | some stem => if regions.second ≤ stem.length && endsIn ['l'] stem then stem else word
    | none => word

/-- The steps behind the first, for a word that has lost its plural. -/
def dropDerivation (regions : Regions) (word : List Char) : List Char :=
  let word := softenY (dropParticiple regions word)
  let word := applyRules regions word derivationRules
  let word := applyRules regions word adjectiveRules
  let word := applyRules regions word nounRules
  dropFinal regions word

/-- The stem of a word in lower case. -/
def stem (word : List Char) : List Char :=
  match irregular.find? (·.1.toList == word) with
  | some (_, stem) => stem.toList
  | none =>
    if word.length < 3 then word
    else
      let marked := markY word
      let regions := Regions.ofWord marked
      let singular := dropPlural marked
      if singulars.any (·.toList == singular) then unmarkY singular
      else unmarkY (dropDerivation regions singular)

end Concordance.Stem
