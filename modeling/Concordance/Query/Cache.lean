import Concordance.Query.Answers

/-!
# Answers that many threads fill

Beside the answers, the cache knows which queries are being searched right
now. A thread that wants a query asks for a claim in one step: it gets the
answer, or it gets the claim and has to search, or it learns that another
thread holds the claim. Who holds a claim ends it in one step, with an answer
or, after a failed search, without.
-/

namespace Concordance

structure QueryCache where
  answers : Answers
  /-- The keys of which the claim is held. -/
  searching : List String

/-- What comes of asking for a claim. -/
inductive Claim where
  | cached (hits : List Hit)
  | claimed
  | busy

namespace QueryCache

def empty : QueryCache := ⟨.empty, []⟩

/-- Asks for the claim on a key. -/
def claim (cache : QueryCache) (key : String) : QueryCache × Claim :=
  match cache.answers.get? key with
  | some hits => (cache, .cached hits)
  | none =>
    if key ∈ cache.searching then (cache, .busy)
    else ({ cache with searching := key :: cache.searching }, .claimed)

/-- Ends a claim with an answer. -/
def fill (cache : QueryCache) (key : String) (hits : List Hit) : QueryCache :=
  ⟨cache.answers.insert key hits, cache.searching.erase key⟩

/-- Ends a claim without an answer. -/
def release (cache : QueryCache) (key : String) : QueryCache :=
  { cache with searching := cache.searching.erase key }

end QueryCache

end Concordance
