import AppLinks.Proofs.Matching.Evaluation

/-!
# What a link set asks of a URL

A component is satisfied when every constraint it states is.  In a rule set the first satisfied
component decides, so a rule set matches when some component is satisfied, is no exclusion and has
no satisfied one before it.

    c.meets freshAnswers r u.view = true ↔ c.Satisfied r u                       (meets_iff)
    (l.setting rs).firstIncludes freshAnswers u.view rs.components = true
      ↔ rs.Matches l u                                                     (firstIncludes_iff)
    (l.appIds u ()).value = (l.details.filter fun rs => rs.Matches l u).flatMap (·.appIds)
                                                                   (appIds_eq_flatMap_matches)
-/

namespace AppLinks

/-! ## Wildcards under flags -/

/-- A wildcard compiles and its pattern takes the text. -/
def Fits (w : String) (r : Rules) (text : String) : Prop :=
  ∃ p, Pattern.compile w r = .ok p ∧ p.accepts text = true

theorem fits_iff (w : String) (r : Rules) (text : String) :
    freshAnswers w r text = true ↔ Fits w r text := by
  unfold freshAnswers Fits
  cases Pattern.compile w r with
  | ok p => simp [takes]
  | error e => simp [takes]

/-- The first flag that is given; without one it holds. -/
def firstGiven : List (Option Bool) → Bool
  | [] => true
  | some b :: _ => b
  | none :: flags => firstGiven flags

/-- The rules for a component: its own flags before those of its rule set, these before those of
the link set. -/
def LinkSet.rulesFor (l : LinkSet) (rs : RuleSet) (c : Component) : Rules where
  caseSensitive := firstGiven
    [c.caseSensitive, rs.defaults.bind (·.caseSensitive), l.defaults.bind (·.caseSensitive)]
  percentEncoded := firstGiven
    [c.percentEncoded, rs.defaults.bind (·.percentEncoded), l.defaults.bind (·.percentEncoded)]
  substitutions := l.substitutions.getD .empty

theorem Rules.inherit_eq_firstGiven (flag : Defaults → Option Bool) (own : Option Bool)
    (ruleSet linkSet : Option Defaults) :
    Rules.inherit flag own ruleSet linkSet =
      firstGiven [own, ruleSet.bind flag, linkSet.bind flag] := by
  unfold Rules.inherit
  cases own with
  | some b => rfl
  | none =>
    cases ruleSet.bind flag with
    | some b => rfl
    | none =>
      cases linkSet.bind flag with
      | some b => rfl
      | none => rfl

theorem LinkSet.rules_setting (l : LinkSet) (rs : RuleSet) (c : Component) :
    (l.setting rs).rules c = l.rulesFor rs c := by
  unfold Setting.rules Rules.resolve LinkSet.setting LinkSet.rulesFor
  simp only [Rules.inherit_eq_firstGiven]

/-! ## Items of a query -/

/-- The decoded items of a query; none without a query. -/
def Url.items (u : Url) : List QueryItem :=
  (u.query.map QueryItem.parse).getD []

/-- The item stands in the list and none before it has its name. -/
def QueryItem.IsFirst (i : QueryItem) (items : List QueryItem) : Prop :=
  ∃ before after, items = before ++ i :: after ∧ ∀ j ∈ before, j.name ≠ i.name

/-- The first item of the name has this value; a later one of the name does not count. -/
def QueryItem.FirstValue (items : List QueryItem) (n text : String) : Prop :=
  ∃ i : QueryItem, i.IsFirst items ∧ i.name = n ∧ i.value = some text

namespace UrlView

/-- The items of a view in order; none without a query. -/
def items (v : UrlView) : List QueryItem := v.query.getD []

@[simp] theorem items_view (u : Url) : u.view.items = u.items := rfl

theorem item?_eq_some_iff (v : UrlView) (n : String) (i : QueryItem) :
    v.item? n = some i ↔ i.IsFirst v.items ∧ i.name = n := by
  show v.items.find? (·.name == n) = some i ↔ _
  rw [List.find?_eq_some_iff_append]
  constructor
  · rintro ⟨hname, before, after, hitems, hbefore⟩
    have hn : i.name = n := by simpa using hname
    refine ⟨⟨before, after, hitems, ?_⟩, hn⟩
    intro j hj
    have hj' := hbefore j hj
    rw [hn]
    simpa using hj'
  · rintro ⟨⟨before, after, hitems, hbefore⟩, rfl⟩
    refine ⟨by simp, before, after, hitems, ?_⟩
    intro j hj
    simpa using hbefore j hj

theorem isSome_item?_iff (v : UrlView) (n : String) :
    (v.item? n).isSome = true ↔ ∃ i ∈ v.items, i.name = n := by
  show (v.items.find? (·.name == n)).isSome = true ↔ _
  simp [List.find?_isSome]

theorem value?_eq_some_iff (v : UrlView) (n text : String) :
    v.value? n = some text ↔ QueryItem.FirstValue v.items n text := by
  unfold value?
  rw [Option.bind_eq_some_iff]
  constructor
  · rintro ⟨i, hi, hvalue⟩
    obtain ⟨hfirst, hname⟩ := (v.item?_eq_some_iff n i).mp hi
    exact ⟨i, hfirst, hname, hvalue⟩
  · rintro ⟨i, hfirst, hname, hvalue⟩
    exact ⟨i, (v.item?_eq_some_iff n i).mpr ⟨hfirst, hname⟩, hvalue⟩

end UrlView

/-! ## Queries -/

namespace QueryConstraint

/-- What is asked of a query is found among items: one of exactly the name, or for every name a
first one of exactly this name, with a value that the wildcard fits. -/
def FoundIn (r : Rules) (items : List QueryItem) : QueryConstraint → Prop
  | .name n => ∃ i ∈ items, i.name = n
  | .values ws => ∀ e ∈ ws.toList, ∃ text, QueryItem.FirstValue items e.1 text ∧ Fits e.2 r text

theorem met_demandOn_iff (r : Rules) (v : UrlView) (e : String × String) :
    (demandOn v e).met freshAnswers r = true ↔
      ∃ text, QueryItem.FirstValue v.items e.1 text ∧ Fits e.2 r text := by
  unfold demandOn
  constructor
  · intro h
    cases hv : v.value? e.1 with
    | none =>
      rw [hv] at h
      cases h
    | some text =>
      rw [hv] at h
      exact ⟨text, (v.value?_eq_some_iff e.1 text).mp hv, (fits_iff e.2 r text).mp h⟩
  · rintro ⟨text, hvalue, hfits⟩
    rw [(v.value?_eq_some_iff e.1 text).mpr hvalue]
    exact (fits_iff e.2 r text).mpr hfits

theorem met_demands_iff (r : Rules) (v : UrlView) (q : QueryConstraint) :
    (q.demands v).all (Demand.met freshAnswers r) = true ↔ q.FoundIn r v.items := by
  cases q with
  | name n =>
    have hname := v.isSome_item?_iff n
    show (if (v.item? n).isSome then [] else [Demand.missing]).all _ = true ↔ _
    by_cases h : (v.item? n).isSome = true
    · rw [if_pos h]
      exact iff_of_true rfl (hname.mp h)
    · rw [if_neg h]
      exact iff_of_false (by simp [Demand.met]) (fun hs => h (hname.mpr hs))
  | values ws =>
    show (ws.toList.map (demandOn v)).all _ = true ↔ _
    rw [List.all_map, List.all_eq_true]
    exact forall₂_congr fun e _ => met_demandOn_iff r v e

end QueryConstraint

/-! ## Components -/

/-- Every constraint of a component holds of the decoded parts of a URL. -/
structure Component.Satisfied (c : Component) (r : Rules) (u : Url) : Prop where
  path : ∀ w, c.path = some w →
    Fits (relative w) r (relative (Text.Percent.decode u.path))
  query : ∀ q, c.query = some q → q.FoundIn r u.items
  fragment : ∀ w, c.fragment = some w →
    Fits w r ((u.fragment.map Text.Percent.decode).getD "")

/-- What is asked of one text, if it is asked at all. -/
theorem Demand.met_toList_iff (r : Rules) (f : String → String) (w? : Option String)
    (text : String) :
    (w?.map fun w => Demand.fits (f w) text).toList.all (Demand.met freshAnswers r) = true ↔
      ∀ w, w? = some w → Fits (f w) r text := by
  cases w? with
  | none => simp
  | some w => simpa [Demand.met] using fits_iff (f w) r text

theorem Component.meets_iff (c : Component) (r : Rules) (u : Url) :
    c.meets freshAnswers r u.view = true ↔ c.Satisfied r u := by
  have hpath := Demand.met_toList_iff r relative c.path u.view.relativePath
  have hfragment := Demand.met_toList_iff r (fun w => w) c.fragment u.view.fragment
  have hquery : ((c.query.map (·.demands u.view)).getD []).all (Demand.met freshAnswers r) = true
      ↔ ∀ q, c.query = some q → q.FoundIn r u.items := by
    cases c.query with
    | none => simp
    | some q => simpa using q.met_demands_iff r u.view
  unfold meets demands
  rw [List.all_append, List.all_append, Bool.and_eq_true, Bool.and_eq_true, hpath, hquery,
    hfragment]
  constructor
  · rintro ⟨⟨hp, hq⟩, hf⟩
    exact ⟨hp, hq, hf⟩
  · rintro ⟨hp, hq, hf⟩
    exact ⟨⟨hp, hq⟩, hf⟩

/-! ## Rule sets -/

/-- Some component is satisfied and no exclusion, and none before it is satisfied. -/
def RuleSet.Matches (rs : RuleSet) (l : LinkSet) (u : Url) : Prop :=
  ∃ (k : Nat) (c : Component), rs.components[k]? = some c ∧
    c.Satisfied (l.rulesFor rs c) u ∧ c.exclude ≠ some true ∧
    ∀ j < k, ∀ b : Component, rs.components[j]? = some b → ¬ b.Satisfied (l.rulesFor rs b) u

theorem Component.isExclusion_eq_false_iff (c : Component) :
    c.isExclusion = false ↔ c.exclude ≠ some true := by
  unfold isExclusion
  simp

theorem RuleSet.firstIncludes_iff (rs : RuleSet) (l : LinkSet) (u : Url) :
    (l.setting rs).firstIncludes freshAnswers u.view rs.components = true ↔ rs.Matches l u := by
  have hmeets : ∀ c : Component, c.meets freshAnswers ((l.setting rs).rules c) u.view = true ↔
      c.Satisfied (l.rulesFor rs c) u := by
    intro c
    rw [l.rules_setting rs c]
    exact c.meets_iff _ u
  unfold Setting.firstIncludes Matches
  rw [Option.any_eq_true]
  constructor
  -- the component that is found first is the one at the least satisfied index
  · rintro ⟨c, hfind, hinclude⟩
    obtain ⟨hc, k, hk, hget, hbefore⟩ := List.find?_eq_some_iff_getElem.mp hfind
    have hexclude := c.isExclusion_eq_false_iff.mp (by simpa using hinclude)
    refine ⟨k, c, List.getElem?_eq_some_iff.mpr ⟨hk, hget⟩, (hmeets c).mp hc, hexclude, ?_⟩
    intro j hj b hb hsat
    obtain ⟨hlen, rfl⟩ := List.getElem?_eq_some_iff.mp hb
    have hnot := hbefore j hj
    rw [(hmeets _).mpr hsat] at hnot
    cases hnot
  · rintro ⟨k, c, hget, hsat, hexclude, hbefore⟩
    obtain ⟨hk, hc⟩ := List.getElem?_eq_some_iff.mp hget
    refine ⟨c, List.find?_eq_some_iff_getElem.mpr ⟨(hmeets c).mpr hsat, k, hk, hc, ?_⟩, ?_⟩
    · intro j hj
      have hlen : j < rs.components.length := by omega
      have hnot := hbefore j hj _ (List.getElem?_eq_getElem hlen)
      rw [← hmeets] at hnot
      simpa using hnot
    · rw [c.isExclusion_eq_false_iff.mpr hexclude]
      rfl

instance (rs : RuleSet) (l : LinkSet) (u : Url) : Decidable (rs.Matches l u) :=
  decidable_of_iff _ (rs.firstIncludes_iff l u)

/-- An exclusion keeps out what a component after it would let in. -/
example :
    let rs : RuleSet :=
      { appIds := ["T.app"],
        components := [(Component.onPath "/admin/*").excluding, Component.onPath "*"] }
    rs.Matches {} { scheme := "https", path := "/shop" } ∧
      ¬ rs.Matches {} { scheme := "https", path := "/%61dmin/x" } := by
  decide +kernel

/-! ## Top theorem -/

/-- **A link set ties to a URL the identifiers of exactly the rule sets that match it**, in their
order and as often as they come. -/
theorem LinkSet.appIds_eq_flatMap_matches (l : LinkSet) (u : Url) :
    (l.appIds u ()).value =
      (l.details.filter fun rs => decide (rs.Matches l u)).flatMap (·.appIds) := by
  rw [l.value_appIds u]
  unfold idsBy
  congr 1
  refine List.filter_congr fun rs _ => ?_
  rw [Bool.eq_iff_iff, decide_eq_true_iff]
  exact rs.firstIncludes_iff l u

end AppLinks
