import AppLinks.Matching.Component

/-!
# Matching rule sets and link sets

The first component of a rule set that decides, decides for the rule set; without one the rule set
does not match. A link set answers with the identifiers of all its rule sets that match, in their
order, and keeps one that comes twice.
-/

namespace AppLinks

variable {σ : Type}

/-! ## Rule sets -/

/-- What a rule set's components inherit. -/
structure Setting where
  ruleSet : Option Defaults := none
  linkSet : Option Defaults := none
  substitutions : Option Substitutions := none

def Setting.rules (s : Setting) (c : Component) : Rules :=
  Rules.resolve c s.ruleSet s.linkSet s.substitutions

/-- Whether the components, of which the first has the given index, decide for the apps. -/
def Component.anyMatches (test : Tester σ) (s : Setting) (ids : List String) (v : UrlView) :
    Nat → List Component → Step σ Bool
  | _, [] => pure false
  | i, c :: cs => do
    match ← c.decide test (s.rules c) v with
    | .undetermined => anyMatches test s ids v (i + 1) cs
    | .matched =>
      Step.report (.decided i ids false)
      pure true
    | .excluded =>
      Step.report (.decided i ids true)
      pure false

/-- Whether a rule set matches, under what its link set gives. -/
def RuleSet.holds (test : Tester σ) (defaults : Option Defaults)
    (substitutions : Option Substitutions) (v : UrlView) (r : RuleSet) : Step σ Bool :=
  Component.anyMatches test ⟨r.defaults, defaults, substitutions⟩ r.appIds v 0 r.components

/-! ## Link sets -/

namespace LinkSet

def collect (test : Tester σ) (l : LinkSet) (v : UrlView) : List RuleSet → Step σ (List String)
  | [] => pure []
  | r :: rs => do
    let found ← r.holds test l.defaults l.substitutions v
    let ids ← collect test l v rs
    return if found then r.appIds ++ ids else ids

/-- The identifiers that a link set ties to a URL. -/
def appIdsBy (test : Tester σ) (l : LinkSet) (u : Url) : Step σ (List String) :=
  l.collect test u.view l.details

/-- The identifiers that a link set ties to a URL, nothing being remembered. -/
def appIds (l : LinkSet) (u : Url) : Step Unit (List String) :=
  l.appIdsBy Tester.direct u

end LinkSet

/-- The identifiers that a document ties to a URL; none without a link section. -/
def Document.appIds (d : Document) (u : Url) : Step Unit (List String) :=
  match d.applinks with
  | some l => l.appIds u
  | none => pure []

end AppLinks
