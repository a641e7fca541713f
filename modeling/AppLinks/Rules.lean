import AppLinks.Document.Basic

/-!
# Rules in force

The flags and lists under which a component's wildcards are read. A flag is the component's own,
or the rule set's, or the link set's, the first that is given; with none of them it holds.
-/

namespace AppLinks

structure Rules where
  caseSensitive : Bool := true
  /-- Inherited like the other flag; matching compares decoded text under either value. -/
  percentEncoded : Bool := true
  substitutions : Substitutions := .empty
  deriving DecidableEq, Inhabited

namespace Rules

/-- The first of three flags that is given. -/
def inherit (flag : Defaults → Option Bool) (own : Option Bool)
    (ruleSet linkSet : Option Defaults) : Bool :=
  (own <|> ruleSet.bind flag <|> linkSet.bind flag).getD true

def resolve (c : Component) (ruleSet linkSet : Option Defaults) (s : Option Substitutions) :
    Rules where
  caseSensitive := inherit Defaults.caseSensitive c.caseSensitive ruleSet linkSet
  percentEncoded := inherit Defaults.percentEncoded c.percentEncoded ruleSet linkSet
  substitutions := s.getD .empty

end Rules

end AppLinks
