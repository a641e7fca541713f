import AppLinks.NameMap
import AppLinks.RelativePath

/-!
# Association documents

A document ties URLs to app identifiers. Its link section holds rule sets, tried in order; a rule
set holds the identifiers it stands for and components, tried in order; a component constrains the
path, the query and the fragment of a URL by wildcards. Flags may be set on a component, for a
rule set or for the whole section.
-/

namespace AppLinks

/-- The lists that the tokens of wildcards stand for, by name. -/
abbrev Substitutions := NameMap (List String)

/-- The flags of a rule set or a link section; one that is missing is inherited. -/
structure Defaults where
  caseSensitive : Option Bool := none
  percentEncoded : Option Bool := none
  deriving DecidableEq, Inhabited

/-- What a component asks of the query. -/
inductive QueryConstraint where
  /-- An item of this name, with any value or none. -/
  | name (n : String)
  /-- For every name, an item whose value fits the wildcard. -/
  | values (wildcards : NameMap String)
  deriving DecidableEq

/-- Constraints on a URL; one that is missing is met by every URL. -/
structure Component where
  path : Option String := none
  fragment : Option String := none
  query : Option QueryConstraint := none
  exclude : Option Bool := none
  comment : Option String := none
  caseSensitive : Option Bool := none
  percentEncoded : Option Bool := none
  deriving DecidableEq, Inhabited

structure RuleSet where
  appIds : List String
  components : List Component := []
  defaults : Option Defaults := none
  deriving DecidableEq, Inhabited

structure LinkSet where
  details : List RuleSet := []
  defaults : Option Defaults := none
  substitutions : Option Substitutions := none
  deriving DecidableEq, Inhabited

/-- A section that only lists apps. -/
structure AppList where
  apps : List String
  deriving DecidableEq, Inhabited

structure Document where
  applinks : Option LinkSet := none
  webcredentials : Option AppList := none
  appclips : Option AppList := none
  deriving DecidableEq, Inhabited

/-! ## Defaults -/

namespace Defaults

def isCaseSensitive (d : Defaults) : Bool := d.caseSensitive.getD true

def isPercentEncoded (d : Defaults) : Bool := d.percentEncoded.getD true

def caseInsensitive : Defaults := { caseSensitive := some false }

end Defaults

/-! ## Components -/

namespace Component

def onPath (wildcard : String) : Component := { path := some wildcard }

def onFragment (wildcard : String) : Component := { fragment := some wildcard }

def withFragment (c : Component) (wildcard : String) : Component :=
  { c with fragment := some wildcard }

def withQuery (c : Component) (q : QueryConstraint) : Component := { c with query := some q }

/-- The same constraints as an exclusion. -/
def excluding (c : Component) : Component := { c with exclude := some true }

def withCase (c : Component) (sensitive : Bool) : Component :=
  { c with caseSensitive := some sensitive }

/-- A component whose URLs are kept out. -/
def isExclusion (c : Component) : Bool := c.exclude == some true

end Component

def QueryConstraint.wildcards : QueryConstraint → List String
  | .name _ => []
  | .values ws => ws.values

/-- The wildcards of a component in the order in which they are tried: the path's without its
root, those of the query in the order of their names, the fragment's. -/
def Component.wildcards (c : Component) : List String :=
  (c.path.map relative).toList ++ (c.query.map (·.wildcards)).getD [] ++ c.fragment.toList

/-! ## Link sets -/

namespace LinkSet

def withDefaults (l : LinkSet) (d : Defaults) : LinkSet := { l with defaults := some d }

def withSubstitution (l : LinkSet) (name : String) (values : List String) : LinkSet :=
  { l with substitutions := some ((l.substitutions.getD .empty).insert name values) }

def append (l : LinkSet) (r : RuleSet) : LinkSet := { l with details := l.details ++ [r] }

end LinkSet

/-- The link section, empty when the document has none. -/
def Document.linkSet (d : Document) : LinkSet := d.applinks.getD {}

end AppLinks
