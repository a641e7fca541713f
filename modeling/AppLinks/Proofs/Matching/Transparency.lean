import AppLinks.Matching.Cache
import AppLinks.Proofs.Matching.Evaluation
import AppLinks.Proofs.Wildcard.Reading

/-!
# A cache shows only in time

The key of a wildcard holds all that its compilation takes from the rules: the search for tokens
visits every token that the compiler resolves, so the lists behind the names that are not built in
decide what each of them is resolved to.  Hence every entry of a cache that is reached by requests
is what compiling afresh gives for any request with its key (`Faithful`), and no answer tells
whether it came from memory.

    CacheKey.of w r = CacheKey.of w' r' → compile w r = compile w' r'     (compile_eq_of_key_eq)
    ((qs.mapM answer) .empty).value = qs.map Request.uncached             (answers_eq_uncached)
-/

namespace AppLinks

/-! ## Keys -/

theorem Element.resolve_congr {s s' : Substitutions} {e : Element}
    (h : ∀ name, e = .token name → Item.ofToken? s name = Item.ofToken? s' name) (n : Nat) :
    e.resolve s n = e.resolve s' n := by
  cases e with
  | token name =>
    simp only [resolve]
    rw [h name rfl]
  | one => rfl
  | run => rfl
  | unclosed rest => rfl
  | literal c => rfl

/-- Compiling looks up the tokens that the search finds and no others. -/
theorem Element.resolveFrom_congr {s s' : Substitutions} {n : Nat} {es : List Element}
    (h : ∀ t ∈ (search n es).tokens, Item.ofToken? s t.name = Item.ofToken? s' t.name) :
    resolveFrom s n es = resolveFrom s' n es := by
  induction es generalizing n with
  | nil => rfl
  | cons e es ih =>
    -- an open token ends both the search and the compilation
    by_cases hopen : ∃ rest, e = .unclosed rest
    · obtain ⟨rest, rfl⟩ := hopen
      rfl
    · have hrest : ∀ t ∈ (search (n + e.size) es).tokens, t ∈ (search n (e :: es)).tokens := by
        intro t ht
        cases e with
        | token name => exact List.mem_cons_of_mem _ ht
        | unclosed rest => exact absurd ⟨rest, rfl⟩ hopen
        | one => exact ht
        | run => exact ht
        | literal c => exact ht
      have hhead : e.resolve s n = e.resolve s' n := by
        apply resolve_congr
        rintro name rfl
        exact h ⟨n, name⟩ List.mem_cons_self
      unfold resolveFrom
      rw [hhead, ih fun t ht => h t (hrest t ht)]

/-- Equal lists for the names that are not built in give every token one meaning. -/
theorem ofToken?_eq_of_customLists {s s' : Substitutions} {w : String}
    (h : Token.customLists s w = Token.customLists s' w) :
    ∀ t ∈ (Token.find w).tokens, Item.ofToken? s t.name = Item.ofToken? s' t.name := by
  intro t ht
  unfold Item.ofToken?
  cases hb : Item.builtin? t.name with
  | some i => rfl
  | none =>
    have hmem : t ∈ (Token.find w).tokens.filter fun t => !Token.isBuiltin t.name := by
      rw [List.mem_filter]
      exact ⟨ht, by simp [Token.isBuiltin, hb]⟩
    have hlist : s.get? t.name = s'.get? t.name := List.map_inj_left.mp h t hmem
    rw [hlist]

/-- A key decides how its wildcard compiles. -/
theorem compile_eq_of_key_eq {w w' : String} {r r' : Rules}
    (h : CacheKey.of w r = CacheKey.of w' r') : Pattern.compile w r = Pattern.compile w' r' := by
  have hw : w = w' := congrArg CacheKey.wildcard h
  subst hw
  have hcase : r.caseSensitive = r'.caseSensitive := congrArg CacheKey.caseSensitive h
  have hlists : Token.customLists r.substitutions w = Token.customLists r'.substitutions w :=
    congrArg CacheKey.lists h
  have hresolve : Element.resolveFrom r.substitutions 0 (Element.scan w) =
      Element.resolveFrom r'.substitutions 0 (Element.scan w) := by
    apply Element.resolveFrom_congr
    rw [← Element.find_eq_search]
    exact ofToken?_eq_of_customLists hlists
  unfold Pattern.compile
  rw [hresolve, hcase]

/-! ## Reachable caches -/

namespace PatternCache

/-- Every entry is what compiling afresh gives for every request with its key. -/
def Faithful (c : PatternCache) : Prop :=
  ∀ w r p, c.get? (CacheKey.of w r) = some p → p = Pattern.compile w r

theorem get?_add (c : PatternCache) (k k' : CacheKey) (p : Except PatternError Pattern) :
    (c.add k p).get? k' = if k' = k then some p else c.get? k' := by
  unfold get? add
  rw [List.lookup_cons]
  split
  · next h => rw [if_pos (eq_of_beq h)]
  · next h => rw [if_neg (beq_eq_false_iff_ne.mp h)]

theorem get?_eq_none_iff (c : PatternCache) (k : CacheKey) :
    c.get? k = none ↔ ∀ e ∈ c.entries, e.1 ≠ k := by
  unfold get?
  rw [List.lookup_eq_none_iff]
  refine forall₂_congr fun e _ => ?_
  rw [bne_iff_ne, ne_comm]

theorem faithful_empty : Faithful empty := by
  intro w r p h
  cases h

theorem Faithful.add {c : PatternCache} (h : c.Faithful) (w : String) (r : Rules) :
    (c.add (CacheKey.of w r) (Pattern.compile w r)).Faithful := by
  intro w' r' p hp
  rw [get?_add] at hp
  split at hp
  · next hk =>
    cases hp
    exact compile_eq_of_key_eq hk.symm
  · exact h w' r' p hp

theorem compile_of_hit {c : PatternCache} {w : String} {r : Rules}
    {p : Except PatternError Pattern} (h : c.get? (CacheKey.of w r) = some p) :
    compile w r c = ⟨p, c, []⟩ := by
  unfold compile
  rw [Step.get_bind_apply]
  simp only [h]
  rfl

theorem compile_of_miss {c : PatternCache} {w : String} {r : Rules}
    (h : c.get? (CacheKey.of w r) = none) :
    compile w r c = ⟨Pattern.compile w r, c.add (CacheKey.of w r) (Pattern.compile w r),
      [.ofCompiling w (Pattern.compile w r)]⟩ := by
  unfold compile
  rw [Step.get_bind_apply]
  simp only [h]
  rw [Step.bind_apply, compileReporting_apply]
  rfl

theorem yields_compile (w : String) (r : Rules) :
    Yields Faithful (compile w r) (Pattern.compile w r) := by
  intro c hc
  cases h : c.get? (CacheKey.of w r) with
  | some p =>
    rw [compile_of_hit h]
    exact ⟨hc w r p h, hc⟩
  | none =>
    rw [compile_of_miss h]
    exact ⟨rfl, hc.add w r⟩

theorem yields_clear : Yields Faithful clear () :=
  fun _ _ => ⟨rfl, faithful_empty⟩

end PatternCache

theorem cached_gives : Tester.Gives PatternCache.Faithful Tester.cached freshAnswers :=
  fun w r _ => (PatternCache.yields_compile w r).bind (yields_pure _)

theorem Tester.value_cached {c : PatternCache} (hc : c.Faithful) (w : String) (r : Rules)
    (text : String) : (Tester.cached w r text c).value = freshAnswers w r text :=
  (cached_gives w r text c hc).1

/-! ## Runs on a shared cache -/

namespace PatternCache

/-- What may be asked of a cache; every request brings its own rules. -/
inductive Request where
  | compile (wildcard : String) (rules : Rules)
  | test (wildcard : String) (rules : Rules) (text : String)
  | ruleSet (r : RuleSet) (defaults : Option Defaults) (substitutions : Option Substitutions)
      (v : UrlView)
  | clear

inductive Answer where
  | compiled (p : Except PatternError Pattern)
  | taken (b : Bool)
  | holds (b : Bool)
  | cleared

def answer : Request → Step PatternCache Answer
  | .compile w r => do return .compiled (← compile w r)
  | .test w r text => do return .taken (← Tester.cached w r text)
  | .ruleSet r defaults substitutions v => do
    return .holds (← r.holds Tester.cached defaults substitutions v)
  | .clear => do
    clear
    return .cleared

/-- The answer when nothing is remembered. -/
def Request.uncached : Request → Answer
  | .compile w r => .compiled (Pattern.compile w r)
  | .test w r text => .taken ((Tester.direct w r text : Step Unit Bool) ()).value
  | .ruleSet r defaults substitutions v =>
    .holds (r.holds Tester.direct defaults substitutions v ()).value
  | .clear => .cleared

theorem yields_answer (q : Request) : Yields Faithful (answer q) q.uncached := by
  cases q with
  | compile w r => exact (yields_compile w r).bind (yields_pure _)
  | test w r text =>
    show Yields Faithful _ (Answer.taken _)
    rw [Tester.value_direct]
    exact (cached_gives w r text).bind (yields_pure _)
  | ruleSet r defaults substitutions v =>
    have hdirect := (yields_holds (direct_gives _) defaults substitutions v r).value_unit
    show Yields Faithful _ (Answer.holds _)
    rw [hdirect]
    exact (yields_holds cached_gives defaults substitutions v r).bind (yields_pure _)
  | clear => exact yields_clear.bind (yields_pure _)

/-- The cache after some requests. -/
def reached (qs : List Request) : PatternCache := ((qs.mapM answer) empty).state

theorem faithful_reached (qs : List Request) : (reached qs).Faithful :=
  (yields_mapM qs (fun q _ => yields_answer q) empty faithful_empty).2

/-! ## Top theorem -/

/-- **No run tells a shared cache from none**, and requests with one key compile alike. -/
theorem answers_eq_uncached (qs : List Request) :
    ((qs.mapM answer) empty).value = qs.map Request.uncached ∧
      ∀ w w' r r', CacheKey.of w r = CacheKey.of w' r' →
        Pattern.compile w r = Pattern.compile w' r' := by
  constructor
  · have hrun := yields_mapM qs (fun q _ => yields_answer q)
    exact (hrun empty faithful_empty).1
  · intro w w' r r' h
    exact compile_eq_of_key_eq h

/-- Two maps and two flags with one key: what is built in or not asked for does not count. -/
theorem compile_under_one_key :
    CacheKey.of "$(lang)/$(food)"
        { percentEncoded := false, substitutions := .ofList [("food", ["pizza"])] } =
      CacheKey.of "$(lang)/$(food)"
        { substitutions := .ofList [("food", ["pizza"]), ("lang", ["x"]), ("tea", [])] } ∧
    Pattern.compile "$(lang)/$(food)"
        { percentEncoded := false, substitutions := .ofList [("food", ["pizza"])] } =
      Pattern.compile "$(lang)/$(food)"
        { substitutions := .ofList [("food", ["pizza"]), ("lang", ["x"]), ("tea", [])] } := by
  have hkey : CacheKey.of "$(lang)/$(food)"
        { percentEncoded := false, substitutions := .ofList [("food", ["pizza"])] } =
      CacheKey.of "$(lang)/$(food)"
        { substitutions := .ofList [("food", ["pizza"]), ("lang", ["x"]), ("tea", [])] } := by
    decide +kernel
  exact ⟨hkey, (answers_eq_uncached []).2 _ _ _ _ hkey⟩

end PatternCache

end AppLinks
