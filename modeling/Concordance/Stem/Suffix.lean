import Concordance.Stem.Shape

/-!
# Suffix rules

A step of stemming looks at the end of the word. Of the suffixes that the
step knows, the longest one that fits is taken. If its rule may be applied,
the suffix is replaced; if not, the step leaves the word as it is, and no
shorter suffix is tried.
-/

namespace Concordance.Stem

/-- What must stand in front of a suffix for its rule to be applied. -/
inductive Guard where
  /-- So much that the suffix lies in the first region. -/
  | first
  /-- So much that the suffix lies in the second region. -/
  | second
  /-- So much that the suffix lies in the first region, and last one of these letters. -/
  | firstAfter (letters : List Char)
  /-- So much that the suffix lies in the second region, and last one of these letters. -/
  | secondAfter (letters : List Char)

/-- Whether the last letter of `stem` is one of `letters`. -/
def endsIn (letters stem : List Char) : Bool :=
  match stem.getLast? with
  | some c => letters.contains c
  | none => false

def Guard.holds (regions : Regions) (stem : List Char) : Guard → Bool
  | first => regions.first ≤ stem.length
  | second => regions.second ≤ stem.length
  | firstAfter letters => regions.first ≤ stem.length && endsIn letters stem
  | secondAfter letters => regions.second ≤ stem.length && endsIn letters stem

structure SuffixRule where
  suffix : String
  replacement : String
  guard : Guard

/-- The word without `suffix`, if it ends so. -/
def stripSuffix? (suffix : String) (word : List Char) : Option (List Char) :=
  if suffix.toList.isSuffixOf word then some (word.take (word.length - suffix.toList.length))
  else none

/-- Applies the first rule whose suffix fits. The rules of a step are listed
from the longest suffix to the shortest. -/
def applyRules (regions : Regions) (word : List Char) : List SuffixRule → List Char
  | [] => word
  | rule :: rules =>
    match stripSuffix? rule.suffix word with
    | none => applyRules regions word rules
    | some stem => if rule.guard.holds regions stem then stem ++ rule.replacement.toList else word

end Concordance.Stem
