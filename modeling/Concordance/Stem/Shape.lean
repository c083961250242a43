/-!
# The shape of an English word

Stemming cuts suffixes off a word, but only where enough of the word is left.
How much is enough is told by vowels and consonants alone. The letters
a, e, i, o, u and y are vowels; all others are consonants, whatever their
script. A y that begins the word or follows a vowel acts as a consonant, and
is written `Y` while the word is being stemmed.

The word has two regions. The first begins behind the first consonant that
follows a vowel, the second is found in the same way inside the first. A
suffix may be cut off only if it lies in the region that its rule names.
-/

namespace Concordance.Stem

def isVowel (c : Char) : Bool :=
  c == 'a' || c == 'e' || c == 'i' || c == 'o' || c == 'u' || c == 'y'

/-- Writes `Y` for a y that follows a vowel. -/
def markConsonantY : List Char → List Char
  | [] => []
  | [c] => [c]
  | c :: d :: rest =>
    if isVowel c && d == 'y' then c :: 'Y' :: markConsonantY rest
    else c :: markConsonantY (d :: rest)

/-- Writes `Y` for every y that acts as a consonant. -/
def markY : List Char → List Char
  | 'y' :: rest => markConsonantY ('Y' :: rest)
  | cs => markConsonantY cs

/-- Writes every `Y` as y again. -/
def unmarkY (cs : List Char) : List Char := cs.map fun c => if c == 'Y' then 'y' else c

/-- What stands behind the first consonant that follows a vowel. -/
def behindVowelConsonant (cs : List Char) : List Char :=
  ((cs.dropWhile (!isVowel ·)).dropWhile isVowel).drop 1

/-- Beginnings after which the first region starts at once. -/
def shortBeginnings : List (List Char) :=
  ["gener".toList, "commun".toList, "arsen".toList]

/-- The first region of a word. -/
def firstRegion (cs : List Char) : List Char :=
  match shortBeginnings.find? (·.isPrefixOf cs) with
  | some beginning => cs.drop beginning.length
  | none => behindVowelConsonant cs

/-- Where the regions of a word begin, counted from its start. They are found
once; when the word has been shortened, they may lie beyond its end. -/
structure Regions where
  first : Nat
  second : Nat

def Regions.ofWord (cs : List Char) : Regions :=
  let region := firstRegion cs
  { first := cs.length - region.length
    second := cs.length - (behindVowelConsonant region).length }

/-- Whether a word ends in a short syllable: a vowel between two consonants of
which the last is none of w, x and `Y`, or a vowel and a consonant that are
the whole word. -/
def endsShort (cs : List Char) : Bool :=
  match cs.reverse with
  | [c, v] => !isVowel c && isVowel v
  | c :: v :: b :: _ =>
    !isVowel c && c != 'w' && c != 'x' && c != 'Y' && isVowel v && !isVowel b
  | _ => false

end Concordance.Stem
