import AppLinks.Proofs.Matching.Satisfaction
import AppLinks.Proofs.Matching.Transparency
import AppLinks.Proofs.Wildcard.Case

/-!
# Ignoring case decides no less

A component asks the same questions under both flags: which item of the query is looked at is a
matter of its exact name, and only the wildcards are read otherwise.  A wildcard that takes a text
with regard to case takes it without, so all demands that are met stay met, and a component that
decides with regard to case decides the same without.

    m.Le r m' r' → c.meets m r v = true → c.meets m' r' v = true                  (meets_mono)
    c.meets freshAnswers r v = true ↔ the rest of c is met ∧ q.FoundIn r v.items
                                                                     (meets_iff_foundIn)
-/

namespace AppLinks

/-! ## Answers that grow -/

/-- Whatever `m` says yes to under `r`, `m'` says yes to under `r'`. -/
def Answers.Le (m : Answers) (r : Rules) (m' : Answers) (r' : Rules) : Prop :=
  ∀ w text, m w r text = true → m' w r' text = true

theorem freshAnswers_le {r : Rules} (hcase : r.caseSensitive = true) :
    Answers.Le freshAnswers r freshAnswers { r with caseSensitive := false } := by
  intro w text h
  rw [fits_iff] at h ⊢
  obtain ⟨p, hp, htext⟩ := h
  obtain ⟨p', hp', hwiden⟩ := Pattern.compile_loose hcase hp
  exact ⟨p', hp', hwiden text htext⟩

section
variable {m m' : Answers} {r r' : Rules}

theorem Demand.met_mono (h : Answers.Le m r m' r') {d : Demand} (hd : d.met m r = true) :
    d.met m' r' = true := by
  cases d with
  | fits w text => exact h w text hd
  | missing => cases hd

namespace Component

theorem meets_mono (h : Answers.Le m r m' r') {c : Component} {v : UrlView}
    (hc : c.meets m r v = true) : c.meets m' r' v = true := by
  have hall : ∀ d ∈ c.demands v, d.met m r = true := List.all_eq_true.mp hc
  exact List.all_eq_true.mpr fun d hd => Demand.met_mono h (hall d hd)

/-! ## Decisions -/

/-- What a component decides by given answers. -/
def decision (m : Answers) (r : Rules) (v : UrlView) (c : Component) : Decision :=
  if c.meets m r v then c.verdict else .undetermined

theorem decision_ne_undetermined_iff (m : Answers) (r : Rules) (v : UrlView) (c : Component) :
    c.decision m r v ≠ .undetermined ↔ c.meets m r v = true := by
  unfold decision
  split
  · next h => exact iff_of_true c.verdict_ne_undetermined h
  · next h => exact iff_of_false (fun hne => hne rfl) h

/-- A decision that is reached is kept where more is met. -/
theorem decision_mono (h : Answers.Le m r m' r') {c : Component} {v : UrlView} {d : Decision}
    (hd : d ≠ .undetermined) (hc : c.decision m r v = d) : c.decision m' r' v = d := by
  subst hc
  have hmeets : c.meets m r v = true := (decision_ne_undetermined_iff m r v c).mp hd
  unfold decision
  rw [if_pos hmeets, if_pos (meets_mono h hmeets)]

theorem value_decide (c : Component) (r : Rules) (v : UrlView) :
    (c.decide Tester.direct r v ()).value = c.decision freshAnswers r v :=
  (yields_decide (direct_gives _) r v c).value_unit

theorem value_decide_cached (c : Component) (r : Rules) (v : UrlView)
    (qs : List PatternCache.Request) :
    (c.decide Tester.cached r v (PatternCache.reached qs)).value = c.decision freshAnswers r v :=
  (yields_decide cached_gives r v c _ (PatternCache.faithful_reached qs)).1

/-- Of the query nothing counts but the items of exactly the names that are asked for. -/
theorem meets_iff_foundIn (c : Component) (r : Rules) (v : UrlView) :
    c.meets freshAnswers r v = true ↔
      ({ c with query := none } : Component).meets freshAnswers r v = true ∧
        ∀ q, c.query = some q → q.FoundIn r v.items := by
  have hquery : ((c.query.map (·.demands v)).getD []).all (Demand.met freshAnswers r) = true ↔
      ∀ q, c.query = some q → q.FoundIn r v.items := by
    cases c.query with
    | none => simp
    | some q => simpa using q.met_demands_iff r v
  unfold meets demands
  simp only [List.all_append, Bool.and_eq_true, hquery, Option.map_none, Option.getD_none,
    List.all_nil, and_true]
  exact and_right_comm

end Component

end

/-! ## Top theorem -/

/-- **Ignoring case only widens a component**: what it decides with regard to case it decides
without, from any cache; every wildcard then takes no less; and under either flag the items of the
query are found by their exact names. -/
theorem Component.decide_widens (c : Component) (v : UrlView) (r : Rules) :
    let strict : Rules := { r with caseSensitive := true }
    let loose : Rules := { r with caseSensitive := false }
    (∀ d, d ≠ .undetermined → (c.decide Tester.direct strict v ()).value = d →
      (c.decide Tester.direct loose v ()).value = d) ∧
    (∀ d, d ≠ .undetermined → ∀ qs qs' : List PatternCache.Request,
      (c.decide Tester.cached strict v (PatternCache.reached qs)).value = d →
        (c.decide Tester.cached loose v (PatternCache.reached qs')).value = d) ∧
    (∀ w p, Pattern.compile w strict = .ok p → ∃ p', Pattern.compile w loose = .ok p' ∧
      ∀ text, p.accepts text = true → p'.accepts text = true) ∧
    ∀ r' : Rules, (c.decide Tester.direct r' v ()).value ≠ .undetermined ↔
      (({ c with query := none } : Component).decide Tester.direct r' v ()).value ≠
          .undetermined ∧
        ∀ q, c.query = some q → q.FoundIn r' v.items := by
  intro strict loose
  have hle : Answers.Le freshAnswers strict freshAnswers loose := freshAnswers_le rfl
  refine ⟨?_, ?_, fun w p => Pattern.compile_loose rfl, ?_⟩
  · intro d hd hstrict
    rw [value_decide] at hstrict ⊢
    exact decision_mono hle hd hstrict
  · intro d hd qs qs' hstrict
    rw [value_decide_cached] at hstrict ⊢
    exact decision_mono hle hd hstrict
  · intro r'
    rw [value_decide, value_decide, decision_ne_undetermined_iff, decision_ne_undetermined_iff]
    exact c.meets_iff_foundIn r' v

/-- An exclusion with a class, and an item whose name differs from the one asked for by case. -/
theorem Component.decide_widens_exclusion :
    let c : Component :=
      { path := some "/buy/$(upper)*", query := some (.values (.ofList [("Id", "a?")])),
        fragment := some "top", exclude := some true }
    let v : UrlView :=
      { path := "/buy/Qx", query := some [⟨"id", some "zz"⟩, ⟨"Id", some "ab"⟩],
        fragment := "top" }
    let loose : Rules := { caseSensitive := false }
    (c.decide Tester.direct {} v ()).value = .excluded ∧
      (c.decide Tester.cached {} v (PatternCache.reached [])).value = .excluded ∧
      Pattern.compile "$(upper)*" {} = .ok ⟨true, [.anyOf .upper, .run]⟩ ∧
      (c.decide Tester.direct loose v ()).value = .excluded ∧
      (c.decide Tester.cached loose v (PatternCache.reached [.test "top" loose "x"])).value =
        .excluded ∧
      ∃ p', Pattern.compile "$(upper)*" loose = .ok p' ∧
        ∀ text, Pattern.accepts ⟨true, [.anyOf .upper, .run]⟩ text = true →
          p'.accepts text = true := by
  intro c v loose
  have hdirect : (c.decide Tester.direct {} v ()).value = .excluded := by decide +kernel
  have hcached : (c.decide Tester.cached {} v (PatternCache.reached [])).value = .excluded := by
    decide +kernel
  have hcompile : Pattern.compile "$(upper)*" {} = .ok ⟨true, [.anyOf .upper, .run]⟩ :=
    (Pattern.compile_eq_ok_iff _ _ _).mpr ⟨_, rfl, by decide, rfl⟩
  obtain ⟨hwiden, hwiden', hpatterns, -⟩ := c.decide_widens v {}
  exact ⟨hdirect, hcached, hcompile, hwiden _ (by decide) hdirect,
    hwiden' _ (by decide) _ _ hcached, hpatterns _ _ hcompile⟩

end AppLinks
