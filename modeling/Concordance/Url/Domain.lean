import Concordance.Text.Composition
import Concordance.Url.DomainTable
import Concordance.Url.Percent
import Concordance.Url.Punycode

/-!
# Domain names

A domain name may be written in any script and any letter case. Its one form
in an address is found by putting for each character what it stands for,
composing the result, and writing every label outside ASCII in Punycode. A
name with a character that has no place in domain names has no form, nor has
one with a label that begins with an accent or whose Punycode is not that of
a label already in its final form.
-/

namespace Concordance.Url

/-- The ASCII characters that may not stand in a domain name. -/
def isForbiddenInDomain (c : Char) : Bool :=
  isControl c || c ∈ [' ', '%', '#', '/', ':', '<', '>', '?', '@', '[', '\\', ']', '^', '|']

def isAscii (text : List Char) : Bool := text.all fun c => c.toNat < 0x80

/-- Whether joiners stand only behind a character that lets them. -/
def joinersFit : (before : Option Char) → List Char → Bool
  | _, [] => true
  | before, c :: rest =>
    (!(c = '\u200C' || c = '\u200D') || before.any fun b => Text.combiningClass b = 9) &&
      joinersFit (some c) rest

/-- Whether a label outside ASCII is in its final form. -/
def isFinalLabel (label : List Char) : Bool :=
  label.all isDomainChar && Text.composed label == label && !(label.head?.any isMark) &&
    joinersFit none label

/-- The form of one label, all of whose characters are already final. -/
def asciiLabel? (label : List Char) : Option (List Char) :=
  match label with
  | 'x' :: 'n' :: '-' :: '-' :: code =>
    (Punycode.decode? code).bind fun decoded =>
      if isAscii label && !isAscii decoded && isFinalLabel decoded then some label else none
  | _ =>
    if isAscii label then some label
    else if isFinalLabel label then some ("xn--".toList ++ Punycode.encode label)
    else none

/-- The characters that a text stands for in a domain name. -/
def domainText? : List Char → Option (List Char)
  | [] => some []
  | c :: rest => (domainChar? c).bind fun first => (domainText? rest).map (first ++ ·)

/-- The forms of labels. -/
def asciiLabels? : List (List Char) → Option (List (List Char))
  | [] => some []
  | label :: rest => (asciiLabel? label).bind fun first => (asciiLabels? rest).map (first :: ·)

/-- The form of a domain name, given as bytes. -/
def asciiDomain? (name : List UInt8) : Option (List Char) :=
  (Text.Utf8.decode? name).bind fun text =>
    (domainText? text).bind fun mapped =>
      let composed := if isAscii mapped then mapped else Text.composed mapped
      (asciiLabels? (composed.splitOnP (· == '.'))).bind fun labels =>
        let domain := ['.'].intercalate labels
        if domain.any isForbiddenInDomain then none else some domain

end Concordance.Url
