import AppLinks.Matching.Step

/-!
# Testing wildcards

A tester says whether a wildcard under given rules takes a text. The direct one compiles the
wildcard every time; one that fails to compile takes nothing.
-/

namespace AppLinks

/-- Answers for a wildcard, the rules it is read under and a text. -/
abbrev Tester (σ : Type) := String → Rules → String → Step σ Bool

/-- Compiles a wildcard and reports how that went. -/
def compileReporting {σ : Type} (w : String) (r : Rules) : Step σ (Except PatternError Pattern) :=
  match Pattern.compile w r with
  | .ok p => do
    Step.report (.compiled w p)
    pure (.ok p)
  | .error e => do
    Step.report (.neverMatches w e)
    pure (.error e)

/-- Whether a compiled wildcard takes a text. -/
def takes (p : Except PatternError Pattern) (text : String) : Bool :=
  match p with
  | .ok p => p.accepts text
  | .error _ => false

/-- Compiles for every question. -/
def Tester.direct {σ : Type} : Tester σ := fun w r text => do
  return takes (← compileReporting w r) text

end AppLinks
