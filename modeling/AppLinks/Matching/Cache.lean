import AppLinks.Matching.LinkSet
import AppLinks.Wildcard.Token

/-!
# Caches of compiled wildcards

A cache remembers how every wildcard compiled, failures too, so that each is compiled and reported
once. Its key holds all that the outcome depends on: the text, whether case counts, and the lists
behind those tokens that are not built in. One cache may serve many link sets.
-/

namespace AppLinks

structure CacheKey where
  wildcard : String
  caseSensitive : Bool
  lists : List (Option (List String))
  deriving DecidableEq, Repr

def CacheKey.of (w : String) (r : Rules) : CacheKey where
  wildcard := w
  caseSensitive := r.caseSensitive
  lists := Token.customLists r.substitutions w

/-- What is known, the newest first; every key once. -/
structure PatternCache where
  entries : List (CacheKey × Except PatternError Pattern) := []

namespace PatternCache

def empty : PatternCache := {}

instance : EmptyCollection PatternCache := ⟨empty⟩
instance : Inhabited PatternCache := ⟨empty⟩

def size (c : PatternCache) : Nat := c.entries.length

def isEmpty (c : PatternCache) : Bool := c.entries.isEmpty

def get? (c : PatternCache) (k : CacheKey) : Option (Except PatternError Pattern) :=
  c.entries.lookup k

def add (c : PatternCache) (k : CacheKey) (p : Except PatternError Pattern) : PatternCache :=
  ⟨(k, p) :: c.entries⟩

/-- How a wildcard compiles, from memory if it is known. -/
def compile (w : String) (r : Rules) : Step PatternCache (Except PatternError Pattern) := do
  let k := CacheKey.of w r
  match (← Step.get).get? k with
  | some p => pure p
  | none =>
    let p ← compileReporting w r
    Step.set ((← Step.get).add k p)
    pure p

def clear : Step PatternCache Unit := Step.set empty

end PatternCache

/-- Compiles a wildcard at its first question only. -/
def Tester.cached : Tester PatternCache := fun w r text => do
  return takes (← PatternCache.compile w r) text

end AppLinks
