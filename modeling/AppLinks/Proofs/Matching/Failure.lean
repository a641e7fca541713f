import Mathlib.Data.List.Basic
import AppLinks.Proofs.Matching.Satisfaction
import AppLinks.Proofs.Matching.Session

/-!
# Wildcards that never match

A wildcard that does not compile takes no text, so a component that holds one is never satisfied
and never decides, whatever else it asks for.  Compiling ahead names these wildcards in the order
of the places where they stand, and the components it names may be deleted.

    F = the failures of all places, place by place                (occurrences_failures_eq)
    c.meets freshAnswers r v = true → every wildcard of c compiles under r  (compiles_of_meets)
    (l.without F).idsBy freshAnswers v = l.idsBy freshAnswers v              (idsBy_without)
-/

namespace AppLinks

/-! ## Places -/

/-- What of a component a wildcard constrains. -/
inductive Slot where
  | path
  | query (name : String)
  | fragment
  deriving DecidableEq

/-- The path comes first, then the query by its names, then the fragment. -/
inductive Slot.Before : Slot → Slot → Prop
  | pathQuery (n : String) : Before .path (.query n)
  | pathFragment : Before .path .fragment
  | queryQuery {m n : String} : m < n → Before (.query m) (.query n)
  | queryFragment (n : String) : Before (.query n) .fragment

/-- Where a wildcard stands in a link set. -/
structure Place where
  ruleSet : Nat
  component : Nat
  slot : Slot

/-- Rule set by rule set, in it component by component, in it slot by slot. -/
inductive Place.Before : Place → Place → Prop
  | ruleSet {p q : Place} : p.ruleSet < q.ruleSet → Before p q
  | component {p q : Place} : p.ruleSet = q.ruleSet → p.component < q.component → Before p q
  | slot {p q : Place} : p.ruleSet = q.ruleSet → p.component = q.component →
      p.slot.Before q.slot → Before p q

def QueryConstraint.wildcardFor? : QueryConstraint → String → Option String
  | .name _, _ => none
  | .values ws, n => ws.get? n

/-- The wildcard in a slot; the path's is without its root. -/
def Component.wildcardAt? (c : Component) : Slot → Option String
  | .path => c.path.map relative
  | .query n => c.query.bind (·.wildcardFor? n)
  | .fragment => c.fragment

/-- The failure at a place: there is a wildcard, and it does not compile under the rules of its
component. -/
def LinkSet.failureAt? (l : LinkSet) (p : Place) : Option PatternFailure := do
  let rs ← l.details[p.ruleSet]?
  let c ← rs.components[p.component]?
  let w ← c.wildcardAt? p.slot
  match Pattern.compile w (l.rulesFor rs c) with
  | .ok _ => none
  | .error e => some ⟨p.ruleSet, p.component, w, e⟩

/-! ## Slots in order -/

def QueryConstraint.slots : QueryConstraint → List Slot
  | .name _ => []
  | .values ws => ws.toList.map fun e => .query e.1

/-- The slots of a component that hold a wildcard. -/
def Component.slots (c : Component) : List Slot :=
  (c.path.map fun _ => Slot.path).toList ++ (c.query.map (·.slots)).getD [] ++
    (c.fragment.map fun _ => Slot.fragment).toList

theorem QueryConstraint.mem_slots_iff (q : QueryConstraint) (s : Slot) :
    s ∈ q.slots ↔ ∃ n, s = .query n ∧ (q.wildcardFor? n).isSome = true := by
  cases q with
  | name n => simp [slots, wildcardFor?]
  | values ws =>
    show s ∈ ws.toList.map (fun e => Slot.query e.1) ↔
      ∃ n, s = .query n ∧ (ws.get? n).isSome = true
    rw [List.mem_map]
    constructor
    · rintro ⟨e, he, rfl⟩
      exact ⟨e.1, rfl, by rw [(ws.get?_eq_some_iff e.1 e.2).mpr he]; rfl⟩
    · rintro ⟨n, rfl, hn⟩
      obtain ⟨w, hw⟩ := Option.isSome_iff_exists.mp hn
      exact ⟨(n, w), (ws.get?_eq_some_iff n w).mp hw, rfl⟩

theorem Component.mem_slots_iff (c : Component) (s : Slot) :
    s ∈ c.slots ↔ (c.wildcardAt? s).isSome = true := by
  have hquery : s ∈ (c.query.map (·.slots)).getD [] ↔
      ∃ n, s = .query n ∧ (c.query.bind (·.wildcardFor? n)).isSome = true := by
    cases c.query with
    | none => simp
    | some q => exact q.mem_slots_iff s
  unfold slots
  rw [List.mem_append, List.mem_append, hquery]
  cases s with
  | path => cases hp : c.path <;> simp [wildcardAt?, hp]
  | query n => simp [wildcardAt?]
  | fragment => cases hf : c.fragment <;> simp [wildcardAt?, hf]

theorem QueryConstraint.pairwise_slots (q : QueryConstraint) : q.slots.Pairwise Slot.Before := by
  cases q with
  | name n => exact List.Pairwise.nil
  | values ws => exact List.pairwise_map.mpr (ws.sorted.imp fun h => .queryQuery h)

theorem Component.pairwise_slots (c : Component) : c.slots.Pairwise Slot.Before := by
  have hquery : ((c.query.map (·.slots)).getD []).Pairwise Slot.Before := by
    cases c.query with
    | none => exact List.Pairwise.nil
    | some q => exact q.pairwise_slots
  have hmem : ∀ s ∈ (c.query.map (·.slots)).getD [], ∃ n, s = .query n := by
    intro s hs
    cases hq : c.query with
    | none => simp [hq] at hs
    | some q =>
      rw [hq] at hs
      obtain ⟨n, hn, -⟩ := (q.mem_slots_iff s).mp hs
      exact ⟨n, hn⟩
  unfold slots
  refine List.pairwise_append.mpr ⟨List.pairwise_append.mpr ⟨?_, hquery, ?_⟩, ?_, ?_⟩
  · cases c.path <;> simp
  · intro s hs t ht
    obtain ⟨n, rfl⟩ := hmem t ht
    obtain ⟨w, -, rfl⟩ := by simpa using hs
    exact .pathQuery n
  · cases c.fragment <;> simp
  · intro s hs t ht
    obtain ⟨w, -, rfl⟩ := by simpa using ht
    rcases List.mem_append.mp hs with hs | hs
    · obtain ⟨w', -, rfl⟩ := by simpa using hs
      exact .pathFragment
    · obtain ⟨n, rfl⟩ := hmem s hs
      exact .queryFragment n

/-- The wildcards of a component are those of its slots, slot by slot. -/
theorem Component.wildcards_eq_filterMap (c : Component) :
    c.wildcards = c.slots.filterMap c.wildcardAt? := by
  have hquery : (c.query.map (·.wildcards)).getD [] =
      ((c.query.map (·.slots)).getD []).filterMap c.wildcardAt? := by
    cases hq : c.query with
    | none => rfl
    | some q =>
      cases q with
      | name n => rfl
      | values ws =>
        show ws.values = (ws.toList.map fun e => Slot.query e.1).filterMap c.wildcardAt?
        rw [List.filterMap_map]
        refine (List.filterMap_eq_map_iff_forall_eq_some.mpr fun e he => ?_).symm
        show c.query.bind (·.wildcardFor? e.1) = some e.2
        rw [hq]
        exact (ws.get?_eq_some_iff e.1 e.2).mpr he
  unfold wildcards slots
  rw [List.filterMap_append, List.filterMap_append, hquery]
  congr 1
  · congr 1
    cases hp : c.path <;> simp [wildcardAt?, hp]
  · cases hf : c.fragment <;> simp [wildcardAt?, hf]

/-! ## Places in order -/

namespace LinkSet

/-- The places of a link set that hold a wildcard. -/
def places (l : LinkSet) : List Place :=
  l.details.zipIdx.flatMap fun r =>
    r.1.components.zipIdx.flatMap fun c => c.1.slots.map fun s => ⟨r.2, c.2, s⟩

theorem pairwise_zipIdx {α : Type} (as : List α) :
    as.zipIdx.Pairwise fun a b => a.2 < b.2 := by
  have h : (as.zipIdx.map (·.2)).Pairwise (· < ·) := by
    rw [List.zipIdx_map_snd]
    exact List.pairwise_lt_range' 1
  exact List.pairwise_map.mp h

theorem pairwise_places (l : LinkSet) : l.places.Pairwise Place.Before := by
  unfold places
  rw [List.pairwise_flatMap]
  constructor
  · intro r _
    rw [List.pairwise_flatMap]
    constructor
    · intro c _
      exact List.pairwise_map.mpr (c.1.pairwise_slots.imp fun h => .slot rfl rfl h)
    · refine (pairwise_zipIdx _).imp fun hlt p hp q hq => ?_
      obtain ⟨s, -, rfl⟩ := List.mem_map.mp hp
      obtain ⟨t, -, rfl⟩ := List.mem_map.mp hq
      exact .component rfl hlt
  · refine (pairwise_zipIdx _).imp fun hlt p hp q hq => ?_
    obtain ⟨c, -, hp⟩ := List.mem_flatMap.mp hp
    obtain ⟨d, -, hq⟩ := List.mem_flatMap.mp hq
    obtain ⟨s, -, rfl⟩ := List.mem_map.mp hp
    obtain ⟨t, -, rfl⟩ := List.mem_map.mp hq
    exact .ruleSet hlt

theorem failureAt?_of_getElem? {l : LinkSet} {rs : RuleSet} {c : Component} {i j : Nat}
    (hi : l.details[i]? = some rs) (hj : rs.components[j]? = some c) (s : Slot) :
    l.failureAt? ⟨i, j, s⟩ =
      (c.wildcardAt? s).bind fun w => Occurrence.failure? ⟨i, j, w, (l.setting rs).rules c⟩ := by
  unfold failureAt? Occurrence.failure?
  simp only [hi, hj, l.rules_setting rs c, Option.bind_eq_bind, Option.bind_some]
  rfl

theorem mem_places_of_failureAt? {l : LinkSet} {p : Place}
    (h : (l.failureAt? p).isSome = true) : p ∈ l.places := by
  obtain ⟨f, hf⟩ := Option.isSome_iff_exists.mp h
  obtain ⟨rs, hi, hf⟩ := Option.bind_eq_some_iff.mp hf
  obtain ⟨c, hj, hf⟩ := Option.bind_eq_some_iff.mp hf
  obtain ⟨w, hw, -⟩ := Option.bind_eq_some_iff.mp hf
  refine List.mem_flatMap.mpr ⟨(rs, p.ruleSet), List.mem_zipIdx_iff_getElem?.mpr hi, ?_⟩
  refine List.mem_flatMap.mpr ⟨(c, p.component), List.mem_zipIdx_iff_getElem?.mpr hj, ?_⟩
  exact List.mem_map.mpr ⟨p.slot, (c.mem_slots_iff p.slot).mpr (by rw [hw]; rfl), rfl⟩

/-- The wildcards that fail are found at their places, one after the other. -/
theorem occurrences_failures_eq (l : LinkSet) :
    l.occurrences.filterMap Occurrence.failure? = l.places.filterMap l.failureAt? := by
  unfold occurrences places
  rw [List.filterMap_flatMap, List.filterMap_flatMap]
  refine List.flatMap_congr fun r hr => ?_
  rw [List.filterMap_flatMap, List.filterMap_flatMap]
  refine List.flatMap_congr fun c hc => ?_
  unfold occurrencesIn
  rw [List.filterMap_map, List.filterMap_map, c.1.wildcards_eq_filterMap,
    List.filterMap_filterMap]
  refine List.filterMap_congr fun s _ => ?_
  exact (failureAt?_of_getElem? (List.mem_zipIdx_iff_getElem?.mp hr)
    (List.mem_zipIdx_iff_getElem?.mp hc) s).symm

end LinkSet

/-! ## Components that never decide -/

theorem QueryConstraint.mem_demands_of_mem_wildcards {q : QueryConstraint} {w : String}
    (h : w ∈ q.wildcards) (v : UrlView) :
    (∃ text, Demand.fits w text ∈ q.demands v) ∨ Demand.missing ∈ q.demands v := by
  cases q with
  | name n => cases h
  | values ws =>
    obtain ⟨e, he, rfl⟩ := List.mem_map.mp h
    have hmem : demandOn v e ∈ (QueryConstraint.values ws).demands v :=
      List.mem_map.mpr ⟨e, he, rfl⟩
    unfold demandOn at hmem
    cases hv : v.value? e.1 with
    | some text => exact Or.inl ⟨text, by simpa [hv] using hmem⟩
    | none => exact Or.inr (by simpa [hv] using hmem)

/-- Every wildcard of a component is asked about, unless something is missing. -/
theorem Component.mem_demands_of_mem_wildcards {c : Component} {w : String}
    (h : w ∈ c.wildcards) (v : UrlView) :
    (∃ text, Demand.fits w text ∈ c.demands v) ∨ Demand.missing ∈ c.demands v := by
  unfold wildcards at h
  unfold demands
  rcases List.mem_append.mp h with h | hfragment
  · rcases List.mem_append.mp h with hpath | hquery
    · obtain ⟨w', hw', rfl⟩ := by simpa using hpath
      exact Or.inl ⟨v.relativePath, by simp [hw']⟩
    · cases hq : c.query with
      | none => simp [hq] at hquery
      | some q =>
        rw [hq] at hquery
        have hdemand := q.mem_demands_of_mem_wildcards hquery v
        simp only [Option.map_some, Option.getD_some, List.mem_append]
        exact hdemand.imp (fun ⟨text, ht⟩ => ⟨text, Or.inl (Or.inr ht)⟩) fun hm =>
          Or.inl (Or.inr hm)
  · have hw : c.fragment = some w := by simpa using hfragment
    exact Or.inl ⟨v.fragment, by simp [hw]⟩

theorem Component.compiles_of_meets {c : Component} {r : Rules} {v : UrlView}
    (h : c.meets freshAnswers r v = true) {w : String} (hw : w ∈ c.wildcards) :
    ∃ p, Pattern.compile w r = .ok p := by
  have hall : ∀ d ∈ c.demands v, d.met freshAnswers r = true := List.all_eq_true.mp h
  rcases c.mem_demands_of_mem_wildcards hw v with ⟨text, ht⟩ | hm
  · obtain ⟨p, hp, -⟩ := (fits_iff w r text).mp (hall _ ht)
    exact ⟨p, hp⟩
  · exact absurd (hall _ hm) (by simp [Demand.met])

/-! ## Deleting components -/

/-- A rule set without the components of some indices. -/
def RuleSet.without (rs : RuleSet) (gone : Nat → Bool) : RuleSet :=
  { rs with components := (rs.components.zipIdx.filter fun c => !gone c.2).map (·.1) }

/-- A link set without the components that the failures mention. -/
def LinkSet.without (l : LinkSet) (fs : List PatternFailure) : LinkSet :=
  { l with
    details := l.details.zipIdx.map fun r =>
      r.1.without fun j => fs.any fun f => f.ruleSet == r.2 && f.component == j }

/-- Components that are not met may be deleted. -/
theorem Setting.firstIncludes_without (m : Answers) (s : Setting) (v : UrlView) (rs : RuleSet)
    (gone : Nat → Bool)
    (h : ∀ j c, rs.components[j]? = some c → gone j = true → c.meets m (s.rules c) v = false) :
    s.firstIncludes m v (rs.without gone).components = s.firstIncludes m v rs.components := by
  have hfind : ∀ (cs : List (Component × Nat)),
      (∀ c ∈ cs, gone c.2 = true → c.1.meets m (s.rules c.1) v = false) →
      ((cs.filter fun c => !gone c.2).map (·.1)).find? (fun c => c.meets m (s.rules c) v) =
        (cs.map (·.1)).find? fun c => c.meets m (s.rules c) v := by
    intro cs hcs
    induction cs with
    | nil => rfl
    | cons c cs ih =>
      have hrest := ih fun d hd => hcs d (List.mem_cons_of_mem _ hd)
      rw [List.filter_cons, List.map_cons, List.find?_cons]
      cases hgone : gone c.2 with
      | true => simpa [hcs c List.mem_cons_self hgone] using hrest
      | false => simp [List.find?_cons, hrest]
  have hzip := hfind rs.components.zipIdx fun c hc =>
    h c.2 c.1 (List.mem_zipIdx_iff_getElem?.mp hc)
  rw [List.zipIdx_map_fst] at hzip
  unfold firstIncludes RuleSet.without
  rw [hzip]

namespace LinkSet

/-- A component that is named among the failures is never met. -/
theorem meets_eq_false_of_failure {l : LinkSet} {f : PatternFailure} {rs : RuleSet}
    {c : Component} (hf : f ∈ l.occurrences.filterMap Occurrence.failure?)
    (hi : l.details[f.ruleSet]? = some rs) (hj : rs.components[f.component]? = some c)
    (v : UrlView) : c.meets freshAnswers ((l.setting rs).rules c) v = false := by
  rw [occurrences_failures_eq] at hf
  obtain ⟨⟨i, j, s⟩, -, hp⟩ := List.mem_filterMap.mp hf
  have hplace : f.ruleSet = i ∧ f.component = j := by
    obtain ⟨_, _, hp⟩ := Option.bind_eq_some_iff.mp hp
    obtain ⟨_, _, hp⟩ := Option.bind_eq_some_iff.mp hp
    obtain ⟨w, _, hp⟩ := Option.bind_eq_some_iff.mp hp
    dsimp only at hp
    split at hp
    · cases hp
    · cases hp
      exact ⟨rfl, rfl⟩
  obtain ⟨rfl, rfl⟩ := hplace
  rw [failureAt?_of_getElem? hi hj] at hp
  obtain ⟨w, hw, hp⟩ := Option.bind_eq_some_iff.mp hp
  have hmem : w ∈ c.wildcards := by
    rw [c.wildcards_eq_filterMap]
    exact List.mem_filterMap.mpr ⟨s, (c.mem_slots_iff s).mpr (by rw [hw]; rfl), hw⟩
  rw [Bool.eq_false_iff]
  intro hmeets
  obtain ⟨p, hcompile⟩ := Component.compiles_of_meets hmeets hmem
  unfold Occurrence.failure? at hp
  rw [hcompile] at hp
  cases hp

theorem idsBy_without (l : LinkSet) (v : UrlView) :
    (l.without (l.occurrences.filterMap Occurrence.failure?)).idsBy freshAnswers v =
      l.idsBy freshAnswers v := by
  unfold idsBy without
  rw [List.filter_map, List.flatMap_map]
  conv => rhs; rw [← List.zipIdx_map_fst 0 l.details]
  rw [List.filter_map, List.flatMap_map]
  show List.flatMap (fun r : RuleSet × Nat => r.1.appIds) _ = _
  congr 1
  refine List.filter_congr fun r hr => ?_
  refine Setting.firstIncludes_without freshAnswers (l.setting r.1) v r.1 _ fun j c hj hgone => ?_
  obtain ⟨f, hf, hplace⟩ := List.any_eq_true.mp hgone
  obtain ⟨hi', hj'⟩ : f.ruleSet = r.2 ∧ f.component = j := by simpa using hplace
  refine meets_eq_false_of_failure hf ?_ ?_ v
  · rw [hi']
    exact List.mem_zipIdx_iff_getElem?.mp hr
  · rw [hj']
    exact hj

/-! ## Top theorem -/

/-- The cache of a session after some requests. -/
def reached (l : LinkSet) (qs : List Request) : PatternCache :=
  ((qs.mapM l.answer) .empty).state

theorem faithful_reached (l : LinkSet) (qs : List Request) : (l.reached qs).Faithful :=
  (yields_mapM qs (fun q _ => l.yields_answer q) .empty PatternCache.faithful_empty).2

theorem value_appIds_reached (l : LinkSet) (qs : List Request) (u : Url) :
    (l.appIdsBy Tester.cached u (l.reached qs)).value = l.idsBy freshAnswers u.view :=
  (yields_appIdsBy cached_gives l u _ (l.faithful_reached qs)).1

theorem value_precompile_reached (l : LinkSet) (qs : List Request) :
    (l.precompile (l.reached qs)).value = l.occurrences.filterMap Occurrence.failure? :=
  (l.yields_precompile _ (l.faithful_reached qs)).1

/-- **Compiling ahead names, place by place, exactly the wildcards that fail, and deleting the
components it names changes no identifiers**, with a cache or without, in any session. -/
theorem precompile_names_what_never_decides (l : LinkSet) (qs qs' : List Request) :
    let fs := (l.precompile (l.reached qs)).value
    (∃ ps : List Place, ps.Pairwise Place.Before ∧ ps.map l.failureAt? = fs.map some ∧
        ∀ p, p ∈ ps ↔ (l.failureAt? p).isSome = true) ∧
      ∀ u : Url,
        ((l.without fs).appIds u ()).value = (l.appIds u ()).value ∧
        (l.appIdsBy Tester.cached u (l.reached qs)).value = (l.appIds u ()).value ∧
        ((l.without fs).appIdsBy Tester.cached u ((l.without fs).reached qs')).value =
          (l.appIds u ()).value := by
  have hfs : (l.precompile (l.reached qs)).value = l.occurrences.filterMap Occurrence.failure? :=
    (l.yields_precompile _ (l.faithful_reached qs)).1
  rw [hfs]
  constructor
  · refine ⟨l.places.filter fun p => (l.failureAt? p).isSome, ?_, ?_, ?_⟩
    · exact l.pairwise_places.filter _
    · rw [occurrences_failures_eq, List.map_filterMap_some_eq_filter_map_isSome, List.filter_map]
      rfl
    · intro p
      rw [List.mem_filter]
      exact ⟨fun h => h.2, fun h => ⟨mem_places_of_failureAt? h, h⟩⟩
  · intro u
    rw [value_appIds_reached, value_appIds_reached, value_appIds, value_appIds, idsBy_without]
    exact ⟨rfl, rfl, rfl⟩

/-- A broken wildcard in an exclusion excludes nothing, whatever the path says. -/
example :
    let broken : Component :=
      { path := some "/shop/*", fragment := some "$(lang", exclude := some true }
    let l : LinkSet :=
      { details := [{ appIds := ["T.app"], components := [broken, Component.onPath "*"] }] }
    (l.precompile .empty).value = [⟨0, 0, "$(lang", .unterminatedToken 0⟩] ∧
      (l.appIds { scheme := "https", path := "/shop/x" } ()).value = ["T.app"] := by
  decide +kernel

end LinkSet

end AppLinks
