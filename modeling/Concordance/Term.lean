import Concordance.SortedMap
import Concordance.Stem.English
import Concordance.Text.Words

/-!
# Terms

What the index holds are terms: the stems of the words of a text. A
location is the name of a document, the path of a file or the address of a
page.
-/

namespace Concordance

abbrev Term := String

abbrev Location := String

/-- The stems of the words of a text, in order and with repetitions. -/
def stems (text : List Char) : List (List Char) := (Text.words (Text.clean text)).map Stem.stem

/-- The terms of a text, in order and with repetitions. -/
def terms (text : String) : List Term := (stems text.toList).map String.ofList

/-- The terms of a text, each once. -/
def termSet (text : String) : SortedSet Term := SortedSet.ofList (terms text)

end Concordance
