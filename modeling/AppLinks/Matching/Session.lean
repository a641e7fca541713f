import AppLinks.Matching.Cache

/-!
# Sessions

A session answers requests about one link set and remembers compiled wildcards between them. All
wildcards may be compiled ahead; that tells which of them never match, and where they stand.
-/

namespace AppLinks

/-- A wildcard that does not compile, and the place of its component. -/
structure PatternFailure where
  ruleSet : Nat
  component : Nat
  wildcard : String
  error : PatternError
  deriving DecidableEq, Repr

namespace LinkSet

/-! ## Compiling ahead -/

/-- A wildcard of a link set, where it stands and the rules it is read under. -/
structure Occurrence where
  ruleSet : Nat
  component : Nat
  wildcard : String
  rules : Rules

def occurrencesIn (l : LinkSet) (r : RuleSet × Nat) (c : Component × Nat) : List Occurrence :=
  let s : Setting := ⟨r.1.defaults, l.defaults, l.substitutions⟩
  c.1.wildcards.map fun w => ⟨r.2, c.2, w, s.rules c.1⟩

/-- Every wildcard of a link set, in its order. -/
def occurrences (l : LinkSet) : List Occurrence :=
  l.details.zipIdx.flatMap fun r => r.1.components.zipIdx.flatMap (l.occurrencesIn r)

def Occurrence.failure (o : Occurrence) (e : PatternError) : PatternFailure :=
  ⟨o.ruleSet, o.component, o.wildcard, e⟩

def compileAll : List Occurrence → Step PatternCache (List PatternFailure)
  | [] => pure []
  | o :: os => do
    let p ← PatternCache.compile o.wildcard o.rules
    let fs ← compileAll os
    match p with
    | .ok _ => pure fs
    | .error e => pure (o.failure e :: fs)

/-- Compiles every wildcard and tells which never match. -/
def precompile (l : LinkSet) : Step PatternCache (List PatternFailure) :=
  compileAll l.occurrences

/-! ## Requests -/

inductive Request where
  | appIds (u : Url)
  | precompile
  | clear

inductive Answer where
  | appIds (ids : List String)
  | failures (fs : List PatternFailure)
  | cleared
  deriving DecidableEq, Repr

def answer (l : LinkSet) : Request → Step PatternCache Answer
  | .appIds u => do return .appIds (← l.appIdsBy Tester.cached u)
  | .precompile => do return .failures (← l.precompile)
  | .clear => do
    PatternCache.clear
    return .cleared

end LinkSet

end AppLinks
