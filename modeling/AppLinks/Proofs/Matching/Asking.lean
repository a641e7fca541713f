import AppLinks.Matching.Session
import AppLinks.Proofs.Matching.Evaluation

/-!
# What a session asks for

`Keeps I E x`: from every state in `I` the step `x` ends in `I` again and reports nothing but events
in `E`.  Matching and compiling ahead ask for the wildcards that stand in the link set, under the
rules of their components, and for no others, so what is kept when these are asked for is kept by
every request.

    (∀ w r, l.Asks w r → Keeps I E (PatternCache.compile w r)) → Keeps I E (l.answer q)
                                                                            (keeps_answer)
-/

namespace AppLinks

/-! ## Steps that keep an invariant -/

/-- From every state in `I` the step ends in `I` again and reports only events in `E`. -/
def Keeps {σ α : Type} (I : σ → Prop) (E : Event → Prop) (x : Step σ α) : Prop :=
  ∀ s, I s → I (x s).state ∧ ∀ e ∈ (x s).events, E e

section
variable {σ α β : Type} {I : σ → Prop} {E : Event → Prop}

theorem keeps_pure (a : α) : Keeps I E (pure a : Step σ α) := by
  intro s hs
  exact ⟨hs, fun e he => absurd he List.not_mem_nil⟩

theorem keeps_report {e : Event} (h : E e) : Keeps I E (Step.report e) := by
  intro s hs
  refine ⟨hs, ?_⟩
  intro d hd
  have hde : d = e := List.mem_singleton.mp hd
  rw [hde]
  exact h

theorem Keeps.bind {x : Step σ α} {f : α → Step σ β} (hx : Keeps I E x)
    (hf : ∀ a, Keeps I E (f a)) : Keeps I E (x >>= f) := by
  intro s hs
  obtain ⟨hstate, hevents⟩ := hx s hs
  obtain ⟨hstate', hevents'⟩ := hf (x s).value (x s).state hstate
  rw [Step.state_bind, Step.events_bind]
  refine ⟨hstate', ?_⟩
  intro e he
  rcases List.mem_append.mp he with he | he
  · exact hevents e he
  · exact hevents' e he

/-- What each step of a run keeps, the run keeps. -/
theorem keeps_mapM {f : α → Step σ β} (as : List α) (h : ∀ a ∈ as, Keeps I E (f a)) :
    Keeps I E (as.mapM f) := by
  induction as with
  | nil => exact keeps_pure []
  | cons a as ih =>
    rw [List.mapM_cons]
    have hrest : Keeps I E (as.mapM f) := ih fun b hb => h b (List.mem_cons_of_mem _ hb)
    exact (h a List.mem_cons_self).bind fun b => hrest.bind fun bs => keeps_pure _

end

/-! ## Wildcards of a component -/

theorem QueryConstraint.mem_wildcards_of_mem_demands {q : QueryConstraint} {v : UrlView}
    {w text : String} (h : Demand.fits w text ∈ q.demands v) : w ∈ q.wildcards := by
  cases q with
  | name n =>
    have hif : Demand.fits w text ∈ if (v.item? n).isSome then [] else [Demand.missing] := h
    by_cases hitem : (v.item? n).isSome = true
    · rw [if_pos hitem] at hif
      exact absurd hif List.not_mem_nil
    · rw [if_neg hitem] at hif
      cases List.mem_singleton.mp hif
  | values ws =>
    obtain ⟨e, he, hd⟩ := List.mem_map.mp h
    unfold demandOn at hd
    split at hd
    · cases hd
      exact List.mem_map_of_mem he
    · cases hd

/-- A component asks about no wildcards but its own. -/
theorem Component.mem_wildcards_of_mem_demands {c : Component} {v : UrlView} {w text : String}
    (h : Demand.fits w text ∈ c.demands v) : w ∈ c.wildcards := by
  unfold demands at h
  unfold wildcards
  rcases List.mem_append.mp h with h | hfragment
  · apply List.mem_append_left
    rcases List.mem_append.mp h with hpath | hquery
    · apply List.mem_append_left
      obtain ⟨w', hw', rfl, rfl⟩ : ∃ w', c.path = some w' ∧ relative w' = w ∧
          v.relativePath = text := by simpa using hpath
      rw [hw']
      exact List.mem_singleton_self _
    · apply List.mem_append_right
      cases hq : c.query with
      | none => simp [hq] at hquery
      | some q =>
        rw [hq] at hquery
        exact QueryConstraint.mem_wildcards_of_mem_demands hquery
  · apply List.mem_append_right
    obtain ⟨w', hw', rfl, rfl⟩ : ∃ w', c.fragment = some w' ∧ w' = w ∧ v.fragment = text := by
      simpa using hfragment
    rw [hw']
    exact List.mem_singleton_self _

/-- The wildcard stands in the link set, in a component that is read under the rules. -/
def LinkSet.Asks (l : LinkSet) (w : String) (r : Rules) : Prop :=
  ∃ rs ∈ l.details, ∃ c ∈ rs.components, w ∈ c.wildcards ∧ r = (l.setting rs).rules c

/-! ## Levels of matching -/

section
variable {σ : Type} {I : σ → Prop} {E : Event → Prop} {test : Tester σ}

theorem keeps_allMet {r : Rules} {ds : List Demand}
    (h : ∀ w text, .fits w text ∈ ds → Keeps I E (test w r text)) :
    Keeps I E (Demand.allMet test r ds) := by
  induction ds with
  | nil => exact keeps_pure true
  | cons d ds ih =>
    have hrest : Keeps I E (Demand.allMet test r ds) :=
      ih fun w text hmem => h w text (List.mem_cons_of_mem _ hmem)
    cases d with
    | missing => exact keeps_pure false
    | fits w text =>
      refine (h w text List.mem_cons_self).bind fun b => ?_
      cases b with
      | true => exact hrest
      | false => exact keeps_pure false

theorem keeps_decide {r : Rules} {c : Component}
    (h : ∀ w ∈ c.wildcards, ∀ text, Keeps I E (test w r text)) (v : UrlView) :
    Keeps I E (c.decide test r v) := by
  have hdemands : Keeps I E (Demand.allMet test r (c.demands v)) :=
    keeps_allMet fun w text hmem => h w (Component.mem_wildcards_of_mem_demands hmem) text
  exact hdemands.bind fun b => keeps_pure _

theorem keeps_anyMatches {s : Setting} {ids : List String} {cs : List Component}
    (hE : ∀ i excluded, E (.decided i ids excluded))
    (h : ∀ c ∈ cs, ∀ w ∈ c.wildcards, ∀ text, Keeps I E (test w (s.rules c) text))
    (v : UrlView) (i : Nat) : Keeps I E (Component.anyMatches test s ids v i cs) := by
  induction cs generalizing i with
  | nil => exact keeps_pure false
  | cons c cs ih =>
    refine (keeps_decide (h c List.mem_cons_self) v).bind fun d => ?_
    cases d with
    | undetermined => exact ih (fun b hb => h b (List.mem_cons_of_mem _ hb)) (i + 1)
    | matched => exact (keeps_report (hE i false)).bind fun _ => keeps_pure true
    | excluded => exact (keeps_report (hE i true)).bind fun _ => keeps_pure false

theorem keeps_collect {l : LinkSet} (hE : ∀ i ids excluded, E (.decided i ids excluded))
    (h : ∀ w r, l.Asks w r → ∀ text, Keeps I E (test w r text)) (v : UrlView)
    {rs : List RuleSet} (hrs : ∀ r ∈ rs, r ∈ l.details) : Keeps I E (l.collect test v rs) := by
  induction rs with
  | nil => exact keeps_pure []
  | cons r rs ih =>
    have hrest : Keeps I E (l.collect test v rs) :=
      ih fun r' hr' => hrs r' (List.mem_cons_of_mem _ hr')
    have hholds : Keeps I E (r.holds test l.defaults l.substitutions v) := by
      refine keeps_anyMatches (hE · r.appIds ·) ?_ v 0
      intro c hc w hw
      exact h w _ ⟨r, hrs r List.mem_cons_self, c, hc, hw, rfl⟩
    exact hholds.bind fun b => hrest.bind fun ids => keeps_pure _

theorem keeps_appIdsBy {l : LinkSet} (hE : ∀ i ids excluded, E (.decided i ids excluded))
    (h : ∀ w r, l.Asks w r → ∀ text, Keeps I E (test w r text)) (u : Url) :
    Keeps I E (l.appIdsBy test u) :=
  keeps_collect hE h u.view fun _ hr => hr

end

/-! ## Requests -/

namespace LinkSet

section
variable {I : PatternCache → Prop} {E : Event → Prop}

/-- An occurrence stands in a component, at its indices, and is read under its rules. -/
theorem mem_occurrences_iff {l : LinkSet} {o : Occurrence} :
    o ∈ l.occurrences ↔
      ∃ rs c, l.details[o.ruleSet]? = some rs ∧ rs.components[o.component]? = some c ∧
        o.wildcard ∈ c.wildcards ∧ o.rules = (l.setting rs).rules c := by
  constructor
  · intro h
    obtain ⟨⟨rs, i⟩, hrs, h⟩ := List.mem_flatMap.mp h
    obtain ⟨⟨c, j⟩, hc, h⟩ := List.mem_flatMap.mp h
    obtain ⟨w, hw, rfl⟩ := List.mem_map.mp h
    exact ⟨rs, c, List.mem_zipIdx_iff_getElem?.mp hrs, List.mem_zipIdx_iff_getElem?.mp hc, hw, rfl⟩
  · obtain ⟨i, j, w, r⟩ := o
    rintro ⟨rs, c, hi, hj, hw, hr⟩
    refine List.mem_flatMap.mpr ⟨(rs, i), List.mem_zipIdx_iff_getElem?.mpr hi, ?_⟩
    refine List.mem_flatMap.mpr ⟨(c, j), List.mem_zipIdx_iff_getElem?.mpr hj, ?_⟩
    exact List.mem_map.mpr ⟨w, hw, congrArg (Occurrence.mk i j w) hr.symm⟩

theorem asks_of_mem_occurrences {l : LinkSet} {o : Occurrence} (h : o ∈ l.occurrences) :
    l.Asks o.wildcard o.rules := by
  obtain ⟨rs, c, hi, hj, hw, hr⟩ := mem_occurrences_iff.mp h
  exact ⟨rs, List.mem_of_getElem? hi, c, List.mem_of_getElem? hj, hw, hr⟩

/-- Every wildcard that is asked for is an occurrence. -/
theorem exists_occurrence_of_asks {l : LinkSet} {w : String} {r : Rules} (h : l.Asks w r) :
    ∃ o ∈ l.occurrences, o.wildcard = w ∧ o.rules = r := by
  obtain ⟨rs, hrs, c, hc, hw, rfl⟩ := h
  obtain ⟨i, hi⟩ := List.getElem?_of_mem hrs
  obtain ⟨j, hj⟩ := List.getElem?_of_mem hc
  exact ⟨⟨i, j, w, (l.setting rs).rules c⟩, mem_occurrences_iff.mpr ⟨rs, c, hi, hj, hw, rfl⟩,
    rfl, rfl⟩

theorem keeps_compileAll {os : List Occurrence}
    (h : ∀ o ∈ os, Keeps I E (PatternCache.compile o.wildcard o.rules)) :
    Keeps I E (compileAll os) := by
  induction os with
  | nil => exact keeps_pure []
  | cons o os ih =>
    have hrest : Keeps I E (compileAll os) := ih fun o' ho' => h o' (List.mem_cons_of_mem _ ho')
    refine (h o List.mem_cons_self).bind fun p => hrest.bind fun fs => ?_
    cases p with
    | ok p => exact keeps_pure _
    | error e => exact keeps_pure _

theorem keeps_precompile {l : LinkSet}
    (h : ∀ w r, l.Asks w r → Keeps I E (PatternCache.compile w r)) :
    Keeps I E l.precompile :=
  keeps_compileAll fun _ ho => h _ _ (asks_of_mem_occurrences ho)

theorem keeps_cached {w : String} {r : Rules} (h : Keeps I E (PatternCache.compile w r))
    (text : String) : Keeps I E (Tester.cached w r text) :=
  h.bind fun _ => keeps_pure _

/-- What asking for the link set's own wildcards keeps is kept by every request; clearing begins
anew. -/
theorem keeps_answer {l : LinkSet} (hE : ∀ i ids excluded, E (.decided i ids excluded))
    (h : ∀ w r, l.Asks w r → Keeps I E (PatternCache.compile w r)) (q : Request)
    (hclear : q = .clear → I .empty) : Keeps I E (l.answer q) := by
  cases q with
  | appIds u =>
    have hmatch : Keeps I E (l.appIdsBy Tester.cached u) :=
      keeps_appIdsBy hE (fun w r hasks text => keeps_cached (h w r hasks) text) u
    exact hmatch.bind fun ids => keeps_pure _
  | precompile => exact (keeps_precompile h).bind fun fs => keeps_pure _
  | clear =>
    have hset : Keeps I E PatternCache.clear := by
      intro s _
      exact ⟨hclear rfl, fun e he => absurd he List.not_mem_nil⟩
    exact hset.bind fun _ => keeps_pure _

end

end LinkSet

end AppLinks
