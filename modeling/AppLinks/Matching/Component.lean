import AppLinks.Matching.Tester
import AppLinks.Url.View

/-!
# Matching components

A component makes demands on a URL in a fixed order: on the path, on the items of the query, on the
fragment. They are looked into one by one until one is not met. A component whose demands are all
met decides, for the apps or, as an exclusion, against them.
-/

namespace AppLinks

/-- What a component decides about a URL. -/
inductive Decision where
  | matched
  | excluded
  /-- Some demand is not met, and the next component is to decide. -/
  | undetermined
  deriving DecidableEq, Repr

/-! ## Demands -/

inductive Demand where
  /-- The wildcard has to take the text. -/
  | fits (wildcard text : String)
  /-- Something is asked for that the URL does not have. -/
  | missing
  deriving DecidableEq, Repr

namespace QueryConstraint

def demandOn (v : UrlView) (e : String × String) : Demand :=
  match v.value? e.1 with
  | some text => .fits e.2 text
  | none => .missing

def demands (v : UrlView) : QueryConstraint → List Demand
  | .name n => if (v.item? n).isSome then [] else [.missing]
  | .values ws => ws.toList.map (demandOn v)

end QueryConstraint

def Component.demands (c : Component) (v : UrlView) : List Demand :=
  (c.path.map fun w => Demand.fits (relative w) v.relativePath).toList ++
    (c.query.map (·.demands v)).getD [] ++
    (c.fragment.map fun w => Demand.fits w v.fragment).toList

/-- Whether all demands are met; the first that is not ends the search. -/
def Demand.allMet {σ : Type} (test : Tester σ) (r : Rules) : List Demand → Step σ Bool
  | [] => pure true
  | .missing :: _ => pure false
  | .fits w text :: ds => do
    if ← test w r text then allMet test r ds else pure false

/-! ## Decisions -/

namespace Component

/-- What a component decides when its demands are met. -/
def verdict (c : Component) : Decision :=
  if c.isExclusion then .excluded else .matched

def decide {σ : Type} (test : Tester σ) (r : Rules) (v : UrlView) (c : Component) :
    Step σ Decision := do
  return if ← Demand.allMet test r (c.demands v) then c.verdict else .undetermined

end Component

end AppLinks
