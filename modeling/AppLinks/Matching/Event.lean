import AppLinks.Text.Quoted
import AppLinks.Wildcard.Pattern

/-!
# What happens while matching

The events that matching reports besides its answer, and the line that each is logged as.
-/

namespace AppLinks

inductive Event where
  | compiled (wildcard : String) (pattern : Pattern)
  | neverMatches (wildcard : String) (error : PatternError)
  /-- The component of this index decided about the apps. -/
  | decided (index : Nat) (appIds : List String) (excluded : Bool)
  deriving DecidableEq, Repr

def Event.line : Event → String
  | .compiled w p => "DEBUG: compiled wildcard " ++ Text.quote w ++ " -> " ++ p.source
  | .neverMatches w e =>
    "WARN: wildcard " ++ Text.quote w ++ " never matches: " ++ e.message
  | .decided i ids excluded =>
    "DEBUG: component " ++ toString i ++ " of " ++ Text.quoteList ids ++
      if excluded then " excluded" else " matched"

/-- Whether the line that an event is logged as warns. -/
def Event.isWarning (e : Event) : Bool :=
  "WARN: ".toList.isPrefixOf e.line.toList

end AppLinks
