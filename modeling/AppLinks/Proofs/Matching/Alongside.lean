import AppLinks.Matching.LinkSet
import AppLinks.Proofs.Matching.Evaluation

/-!
# Two testers side by side

Matching asks its tester questions and goes on as it is answered.  So two testers that answer alike
are asked the same questions, and what the two may do differently at one question, in the events
they report and the states they leave, they may do differently in the course of a whole run.

    (∀ w r text, Alongside I C (test w r text) (test' w r text)) →
      Alongside I C (qs.mapM (·.ask test)) (qs.mapM (·.ask test'))         (alongside_asked)
-/

namespace AppLinks

/-! ## Steps side by side -/

/-- What two steps side by side may do: one goes from `s` to `s'` and reports `es`, the other from
`t` to `t'` and reports `fs`. -/
structure Courses (σ τ : Type) where
  May : (s : σ) → (es : List Event) → (s' : σ) → (t : τ) → (fs : List Event) → (t' : τ) → Prop
  rest : ∀ s t, May s [] s t [] t
  follow : ∀ {s es s' es' s'' t fs t' fs' t''}, May s es s' t fs t' →
    May s' es' s'' t' fs' t'' → May s (es ++ es') s'' t (fs ++ fs') t''
  decided : ∀ s t i ids excluded,
    May s [.decided i ids excluded] s t [.decided i ids excluded] t

/-- From every pair of states in `I` the steps answer alike, keep `I` and do what they may. -/
def Alongside {σ τ α : Type} (I : σ → τ → Prop) (C : Courses σ τ) (x : Step σ α)
    (y : Step τ α) : Prop :=
  ∀ s t, I s t → (x s).value = (y t).value ∧ I (x s).state (y t).state ∧
    C.May s (x s).events (x s).state t (y t).events (y t).state

section
variable {σ τ α β : Type} {I : σ → τ → Prop} {C : Courses σ τ}

theorem alongside_pure (a : α) : Alongside I C (pure a : Step σ α) (pure a : Step τ α) :=
  fun s t h => ⟨rfl, h, C.rest s t⟩

theorem alongside_decided (i : Nat) (ids : List String) (excluded : Bool) :
    Alongside I C (Step.report (.decided i ids excluded))
      (Step.report (.decided i ids excluded)) :=
  fun s t h => ⟨rfl, h, C.decided s t i ids excluded⟩

theorem Alongside.bind {x : Step σ α} {y : Step τ α} {f : α → Step σ β} {g : α → Step τ β}
    (h : Alongside I C x y) (hnext : ∀ a, Alongside I C (f a) (g a)) :
    Alongside I C (x >>= f) (y >>= g) := by
  intro s t hst
  obtain ⟨hvalue, hI, hmay⟩ := h s t hst
  obtain ⟨hvalue', hI', hmay'⟩ := hnext (y t).value _ _ hI
  rw [Step.bind_apply, Step.bind_apply, hvalue]
  exact ⟨hvalue', hI', C.follow hmay hmay'⟩

theorem alongside_mapM {f : α → Step σ β} {g : α → Step τ β} (as : List α)
    (h : ∀ a ∈ as, Alongside I C (f a) (g a)) : Alongside I C (as.mapM f) (as.mapM g) := by
  induction as with
  | nil => exact alongside_pure []
  | cons a as ih =>
    have hrest : Alongside I C (as.mapM f) (as.mapM g) :=
      ih fun b hb => h b (List.mem_cons_of_mem _ hb)
    rw [List.mapM_cons, List.mapM_cons]
    exact (h a List.mem_cons_self).bind fun b => hrest.bind fun bs => alongside_pure _

end

/-! ## Levels of matching -/

section
variable {σ τ : Type} {I : σ → τ → Prop} {C : Courses σ τ} {test : Tester σ} {test' : Tester τ}
  (h : ∀ w r text, Alongside I C (test w r text) (test' w r text))

include h

theorem alongside_allMet (r : Rules) (ds : List Demand) :
    Alongside I C (Demand.allMet test r ds) (Demand.allMet test' r ds) := by
  induction ds with
  | nil => exact alongside_pure true
  | cons d ds ih =>
    cases d with
    | missing => exact alongside_pure false
    | fits w text =>
      refine (h w r text).bind fun b => ?_
      cases b with
      | true => exact ih
      | false => exact alongside_pure false

theorem alongside_decide (r : Rules) (v : UrlView) (c : Component) :
    Alongside I C (c.decide test r v) (c.decide test' r v) :=
  (alongside_allMet h r (c.demands v)).bind fun _ => alongside_pure _

theorem alongside_anyMatches (s : Setting) (ids : List String) (v : UrlView) (i : Nat)
    (cs : List Component) :
    Alongside I C (Component.anyMatches test s ids v i cs)
      (Component.anyMatches test' s ids v i cs) := by
  induction cs generalizing i with
  | nil => exact alongside_pure false
  | cons c cs ih =>
    refine (alongside_decide h (s.rules c) v c).bind fun d => ?_
    cases d with
    | undetermined => exact ih (i + 1)
    | matched => exact (alongside_decided i ids false).bind fun _ => alongside_pure true
    | excluded => exact (alongside_decided i ids true).bind fun _ => alongside_pure false

theorem alongside_holds (defaults : Option Defaults) (substitutions : Option Substitutions)
    (v : UrlView) (r : RuleSet) :
    Alongside I C (r.holds test defaults substitutions v)
      (r.holds test' defaults substitutions v) :=
  alongside_anyMatches h _ r.appIds v 0 r.components

theorem alongside_collect (l : LinkSet) (v : UrlView) (rs : List RuleSet) :
    Alongside I C (l.collect test v rs) (l.collect test' v rs) := by
  induction rs with
  | nil => exact alongside_pure []
  | cons r rs ih =>
    refine (alongside_holds h l.defaults l.substitutions v r).bind fun found => ?_
    exact ih.bind fun ids => alongside_pure _

theorem alongside_appIdsBy (l : LinkSet) (u : Url) :
    Alongside I C (l.appIdsBy test u) (l.appIdsBy test' u) :=
  alongside_collect h l u.view l.details

end

/-! ## Runs -/

/-- A question that is put to a tester, alone or in the course of matching; every one brings its
own rules. -/
inductive Question where
  | test (wildcard : String) (rules : Rules) (text : String)
  | ruleSet (r : RuleSet) (defaults : Option Defaults) (substitutions : Option Substitutions)
      (v : UrlView)
  | appIds (l : LinkSet) (u : Url)

namespace Question

inductive Answer where
  | holds (b : Bool)
  | appIds (ids : List String)
  deriving DecidableEq, Repr

def ask {σ : Type} (test : Tester σ) : Question → Step σ Answer
  | .test w r text => do return .holds (← test w r text)
  | .ruleSet r defaults substitutions v => do return .holds (← r.holds test defaults substitutions v)
  | .appIds l u => do return .appIds (← l.appIdsBy test u)

end Question

theorem alongside_ask {σ τ : Type} {I : σ → τ → Prop} {C : Courses σ τ} {test : Tester σ}
    {test' : Tester τ} (h : ∀ w r text, Alongside I C (test w r text) (test' w r text))
    (q : Question) : Alongside I C (q.ask test) (q.ask test') := by
  cases q with
  | test w r text => exact (h w r text).bind fun _ => alongside_pure _
  | ruleSet r defaults substitutions v =>
    exact (alongside_holds h defaults substitutions v r).bind fun _ => alongside_pure _
  | appIds l u => exact (alongside_appIdsBy h l u).bind fun _ => alongside_pure _

/-- Two testers that go side by side at every question do so in every run. -/
theorem alongside_asked {σ τ : Type} {I : σ → τ → Prop} {C : Courses σ τ} {test : Tester σ}
    {test' : Tester τ} (h : ∀ w r text, Alongside I C (test w r text) (test' w r text))
    (qs : List Question) :
    Alongside I C (qs.mapM (Question.ask test)) (qs.mapM (Question.ask test')) :=
  alongside_mapM qs fun q _ => alongside_ask h q

end AppLinks
