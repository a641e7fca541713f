import Mathlib.Data.List.Forall2
import AppLinks.Matching.LinkSet

/-!
# What matching evaluates to

`Yields I x a`: from every state in `I` the step `x` answers `a` and ends in `I` again.  A tester
that yields what `m` says makes every level of matching yield a closed form over `m`, whatever is
remembered between the questions and wherever the search breaks off.  Where components decide in
the same steps, whole rule sets and link sets do.

    Gives I test m → Yields I (c.decide test r v) (if c.meets m r v then c.verdict else
      .undetermined)                                                           (yields_decide)
    Gives I test m → Yields I (l.appIdsBy test u) (l.idsBy m u.view)           (yields_appIdsBy)
-/

namespace AppLinks

/-! ## Steps with an invariant -/

namespace Step

variable {σ α β : Type}

theorem bind_apply (x : Step σ α) (f : α → Step σ β) (s : σ) :
    (x >>= f) s = ⟨(f (x s).value (x s).state).value, (f (x s).value (x s).state).state,
      (x s).events ++ (f (x s).value (x s).state).events⟩ := rfl

theorem get_bind_apply (f : σ → Step σ α) (s : σ) : (Step.get >>= f) s = f s s := rfl

end Step

/-- From every state in `I` the step answers `a` and keeps `I`. -/
def Yields {σ α : Type} (I : σ → Prop) (x : Step σ α) (a : α) : Prop :=
  ∀ s, I s → (x s).value = a ∧ I (x s).state

section
variable {σ α β : Type} {I : σ → Prop}

theorem yields_pure (a : α) : Yields I (pure a : Step σ α) a :=
  fun _ hs => ⟨rfl, hs⟩

theorem yields_report (e : Event) : Yields I (Step.report e) () :=
  fun _ hs => ⟨rfl, hs⟩

theorem Yields.bind {x : Step σ α} {f : α → Step σ β} {a : α} {b : β} (hx : Yields I x a)
    (hf : Yields I (f a) b) : Yields I (x >>= f) b := by
  intro s hs
  obtain ⟨hvalue, hstate⟩ := hx s hs
  have h := hf (x s).state hstate
  rw [Step.value_bind, Step.state_bind, hvalue]
  exact h

/-- A run answers each request as it is answered alone. -/
theorem yields_mapM {f : α → Step σ β} {g : α → β} (as : List α)
    (h : ∀ a ∈ as, Yields I (f a) (g a)) : Yields I (as.mapM f) (as.map g) := by
  induction as with
  | nil => exact yields_pure []
  | cons a as ih =>
    rw [List.mapM_cons, List.map_cons]
    refine (h a List.mem_cons_self).bind ((ih ?_).bind (yields_pure _))
    exact fun b hb => h b (List.mem_cons_of_mem _ hb)

end

/-! ## Closed forms -/

/-- Answers for a wildcard, the rules it is read under and a text, nothing being remembered. -/
abbrev Answers := String → Rules → String → Bool

/-- The tester answers as `m` does. -/
def Tester.Gives {σ : Type} (I : σ → Prop) (test : Tester σ) (m : Answers) : Prop :=
  ∀ w r text, Yields I (test w r text) (m w r text)

def Demand.met (m : Answers) (r : Rules) : Demand → Bool
  | .fits w text => m w r text
  | .missing => false

namespace Component

/-- Whether all demands of a component are met. -/
def meets (m : Answers) (r : Rules) (v : UrlView) (c : Component) : Bool :=
  (c.demands v).all (Demand.met m r)

theorem verdict_ne_undetermined (c : Component) : c.verdict ≠ .undetermined := by
  unfold verdict
  split <;> exact nofun

end Component

/-- Whether the first component whose demands are met is no exclusion. -/
def Setting.firstIncludes (m : Answers) (s : Setting) (v : UrlView) (cs : List Component) :
    Bool :=
  (cs.find? fun c => c.meets m (s.rules c) v).any fun c => !c.isExclusion

/-- What a link set sets for the components of one of its rule sets. -/
def LinkSet.setting (l : LinkSet) (r : RuleSet) : Setting :=
  ⟨r.defaults, l.defaults, l.substitutions⟩

/-- The identifiers of the rule sets that match. -/
def LinkSet.idsBy (m : Answers) (l : LinkSet) (v : UrlView) : List String :=
  (l.details.filter fun r => (l.setting r).firstIncludes m v r.components).flatMap (·.appIds)

/-! ## Levels of matching -/

section
variable {σ : Type} {I : σ → Prop} {test : Tester σ} {m : Answers}

theorem yields_allMet (h : Tester.Gives I test m) (r : Rules) (ds : List Demand) :
    Yields I (Demand.allMet test r ds) (ds.all (Demand.met m r)) := by
  induction ds with
  | nil => exact yields_pure true
  | cons d ds ih =>
    cases d with
    | missing => exact yields_pure false
    | fits w text =>
      rw [List.all_cons]
      refine (h w r text).bind ?_
      cases hm : m w r text with
      | true => simpa [Demand.met, hm] using ih
      | false => simpa [Demand.met, hm] using yields_pure false

theorem yields_decide (h : Tester.Gives I test m) (r : Rules) (v : UrlView) (c : Component) :
    Yields I (c.decide test r v) (if c.meets m r v then c.verdict else .undetermined) :=
  (yields_allMet h r (c.demands v)).bind (yields_pure _)

theorem yields_anyMatches (h : Tester.Gives I test m) (s : Setting) (ids : List String)
    (v : UrlView) (i : Nat) (cs : List Component) :
    Yields I (Component.anyMatches test s ids v i cs) (s.firstIncludes m v cs) := by
  induction cs generalizing i with
  | nil => exact yields_pure false
  | cons c cs ih =>
    refine (yields_decide h (s.rules c) v c).bind ?_
    unfold Setting.firstIncludes
    rw [List.find?_cons]
    cases hmeets : c.meets m (s.rules c) v with
    | false => exact ih (i + 1)
    | true =>
      unfold Component.verdict
      cases hex : c.isExclusion with
      | false =>
        simp only [Option.any_some, hex]
        exact (yields_report _).bind (yields_pure true)
      | true =>
        simp only [Option.any_some, hex]
        exact (yields_report _).bind (yields_pure false)

theorem yields_holds (h : Tester.Gives I test m) (defaults : Option Defaults)
    (substitutions : Option Substitutions) (v : UrlView) (r : RuleSet) :
    Yields I (r.holds test defaults substitutions v)
      (Setting.firstIncludes m ⟨r.defaults, defaults, substitutions⟩ v r.components) :=
  yields_anyMatches h _ r.appIds v 0 r.components

theorem yields_collect (h : Tester.Gives I test m) (l : LinkSet) (v : UrlView)
    (rs : List RuleSet) :
    Yields I (l.collect test v rs)
      ((rs.filter fun r => (l.setting r).firstIncludes m v r.components).flatMap (·.appIds)) := by
  induction rs with
  | nil => exact yields_pure []
  | cons r rs ih =>
    refine (yields_holds h l.defaults l.substitutions v r).bind (ih.bind ?_)
    rw [List.filter_cons]
    unfold LinkSet.setting
    cases Setting.firstIncludes m ⟨r.defaults, l.defaults, l.substitutions⟩ v r.components with
    | true => exact yields_pure _
    | false => exact yields_pure _

/-- A link set answers with the identifiers of the rule sets that match, whatever tests them. -/
theorem yields_appIdsBy (h : Tester.Gives I test m) (l : LinkSet) (u : Url) :
    Yields I (l.appIdsBy test u) (l.idsBy m u.view) :=
  yields_collect h l u.view l.details

end

/-! ## Levels that agree -/

/-- Where components decide in the same steps one after the other, so do the lists. -/
theorem Component.anyMatches_congr {σ : Type} {test : Tester σ} {s s' : Setting} {v v' : UrlView}
    {cs cs' : List Component}
    (h : List.Forall₂ (fun c c' => c.decide test (s.rules c) v = c'.decide test (s'.rules c') v')
      cs cs') (ids : List String) (i : Nat) :
    anyMatches test s ids v i cs = anyMatches test s' ids v' i cs' := by
  induction h generalizing i with
  | nil => rfl
  | cons hc _ ih =>
    unfold anyMatches
    rw [hc, ih (i + 1)]

theorem LinkSet.collect_congr {σ : Type} {test : Tester σ} {l l' : LinkSet} {v v' : UrlView}
    {rs rs' : List RuleSet}
    (h : List.Forall₂ (fun r r' => r.appIds = r'.appIds ∧
      r.holds test l.defaults l.substitutions v = r'.holds test l'.defaults l'.substitutions v')
      rs rs') : l.collect test v rs = l'.collect test v' rs' := by
  induction h with
  | nil => rfl
  | cons hr _ ih =>
    unfold collect
    rw [hr.1, hr.2, ih]

/-! ## Testing directly -/

/-- Compiles afresh and asks the pattern. -/
def freshAnswers : Answers := fun w r text => takes (Pattern.compile w r) text

/-- What is reported of a compilation. -/
def Event.ofCompiling (w : String) : Except PatternError Pattern → Event
  | .ok p => .compiled w p
  | .error e => .neverMatches w e

theorem compileReporting_apply {σ : Type} (w : String) (r : Rules) (s : σ) :
    compileReporting w r s =
      ⟨Pattern.compile w r, s, [.ofCompiling w (Pattern.compile w r)]⟩ := by
  unfold compileReporting
  cases Pattern.compile w r with
  | ok p => rfl
  | error e => rfl

theorem yields_compileReporting {σ : Type} {I : σ → Prop} (w : String) (r : Rules) :
    Yields I (compileReporting w r) (Pattern.compile w r) := by
  intro s hs
  rw [compileReporting_apply]
  exact ⟨rfl, hs⟩

theorem direct_gives {σ : Type} (I : σ → Prop) : Tester.Gives I Tester.direct freshAnswers :=
  fun w r _ => (yields_compileReporting w r).bind (yields_pure _)

/-- The value of a step that remembers nothing. -/
theorem Yields.value_unit {α : Type} {x : Step Unit α} {a : α}
    (h : Yields (fun _ => True) x a) : (x ()).value = a :=
  (h () trivial).1

theorem Tester.value_direct (w : String) (r : Rules) (text : String) :
    (Tester.direct w r text ()).value = freshAnswers w r text :=
  (direct_gives _ w r text).value_unit

theorem LinkSet.value_appIds (l : LinkSet) (u : Url) :
    (l.appIds u ()).value = l.idsBy freshAnswers u.view :=
  (yields_appIdsBy (direct_gives _) l u).value_unit

end AppLinks
