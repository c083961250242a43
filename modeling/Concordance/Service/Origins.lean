import Concordance.Text.Blank

/-!
# Who may read answers

A browser lets a page of another origin read an answer only if the answer
allows that origin. A setting lists the allowed origins, separated by commas.
Items that cannot be written into a header are passed over. Without the
setting, or with nothing usable in it, every origin is allowed. An asterisk
cannot stand in the list, whatever else does.
-/

namespace Concordance

inductive Origins where
  | any
  | listed (origins : List String)
deriving DecidableEq, Repr

/-- Why a setting cannot be used. -/
inductive OriginsFault where
  | wildcardListed
deriving DecidableEq, Repr

def OriginsFault.message : OriginsFault → String
  | wildcardListed =>
    "Wildcard origin (\x60*\x60) cannot be passed to \x60AllowOrigin::list\x60. Use \x60AllowOrigin::any()\x60 instead"

namespace Origins

/-- Whether a text can be written into a header. -/
def isHeaderText (text : String) : Bool :=
  text.toList.all fun c => c = '\t' || (' ' ≤ c && c ≠ '\x7F')

/-- The items of a setting, if there is one. -/
def itemsOf (setting? : Option String) : List String :=
  setting?.elim [] fun setting => (setting.splitToList (· == ',')).map Text.trimBlanks

/-- The origins that a setting allows, given which items can be written into a header. -/
def ofSettingWith (writable : String → Bool) (setting? : Option String) : Except OriginsFault Origins :=
  match (itemsOf setting?).filter writable with
  | [] => .ok any
  | items => if "*" ∈ items then .error .wildcardListed else .ok (listed items)

/-- The origins that a setting allows. -/
def ofSetting (setting? : Option String) : Except OriginsFault Origins :=
  ofSettingWith isHeaderText setting?

/-- What an answer to a page of an origin says about who may read it. -/
def allowed? (origins : Origins) (origin? : Option String) : Option String :=
  match origins with
  | any => some "*"
  | listed items => origin?.filter (· ∈ items)

end Origins

end Concordance
