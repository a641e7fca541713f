import AppLinks.Proofs.Matching.Accounting
import AppLinks.Proofs.Matching.Satisfaction

/-!
# What a component consults

A component puts wildcards to its tester one by one and stops at the first demand that is not met,
be it that the tester says no or that the URL lacks an item.  A tester that notes every question,
and else does as another, shows the course of this: whatever answers, and from whatever state, the
questions are the wildcards of the component from the first on.

    test.recorded answers, changes its state and reports as `test`          (alongside_recorded)
    Demand.Consults r ds asked b, for what is asked about `ds` in a run that answers `b`
                                                                        (exists_consults_allMet)
    Demand.Lists (c.demands v) c.wildcards                                    (lists_wildcards)
    (c.demands v)[n]? = some .missing ↔ c.LacksNext v n        (getElem?_demands_eq_missing_iff)
-/

namespace AppLinks

/-! ## Notes -/

/-- A question as it is put to a tester, and whether the answer is yes. -/
structure Consultation where
  wildcard : String
  rules : Rules
  granted : Bool
  deriving DecidableEq

/-- Does as `test` and notes every question with its answer. -/
def Tester.recorded {σ : Type} (test : Tester σ) : Tester (σ × List Consultation) :=
  fun w r text s =>
    let o := test w r text s.1
    ⟨o.value, (o.state, s.2 ++ [⟨w, r, o.value⟩]), o.events⟩

/-- Taking notes changes nothing else. -/
theorem alongside_recorded {σ : Type} (test : Tester σ) (w : String) (r : Rules) (text : String) :
    Alongside (fun s t => s.1 = t) (Courses.sameEvents (σ × List Consultation) σ)
      (test.recorded w r text) (test w r text) := by
  rintro s t rfl
  exact ⟨rfl, rfl, rfl⟩

/-! ## Questions about demands -/

namespace Demand

/-- What is asked about demands, and whether all are met: a wildcard that takes its text leads on
to the next demand, one that does not ends the search, and so does something missing, unasked. -/
inductive Consults (r : Rules) : List Demand → List Consultation → Bool → Prop
  | done : Consults r [] [] true
  | missing {ds : List Demand} : Consults r (.missing :: ds) [] false
  | refused {w text : String} {ds : List Demand} :
      Consults r (.fits w text :: ds) [⟨w, r, false⟩] false
  | granted {w text : String} {ds : List Demand} {asked : List Consultation} {b : Bool} :
      Consults r ds asked b → Consults r (.fits w text :: ds) (⟨w, r, true⟩ :: asked) b

/-- The wildcards are those of the demands, one for each, up to the first that is missing; behind
it there may be any. -/
inductive Lists : List Demand → List String → Prop
  | nil : Lists [] []
  | fits {w text : String} {ds : List Demand} {ws : List String} :
      Lists ds ws → Lists (.fits w text :: ds) (w :: ws)
  | missing {ds : List Demand} {ws : List String} : Lists (.missing :: ds) ws

theorem Lists.append {ds ds' : List Demand} {ws ws' : List String} (h : Lists ds ws)
    (h' : Lists ds' ws') : Lists (ds ++ ds') (ws ++ ws') := by
  induction h with
  | nil => exact h'
  | fits _ ih => exact .fits ih
  | missing => exact .missing

/-- From any state, with any notes taken before, looking into demands asks in their order. -/
theorem exists_consults_allMet {σ : Type} (test : Tester σ) (r : Rules) (ds : List Demand) (s : σ)
    (notes : List Consultation) :
    ∃ asked, (allMet test.recorded r ds (s, notes)).state.2 = notes ++ asked ∧
      Consults r ds asked (allMet test.recorded r ds (s, notes)).value := by
  -- a yes changes the state and adds a note, so both vary along the demands
  induction ds generalizing s notes with
  | nil => exact ⟨[], (List.append_nil notes).symm, .done⟩
  | cons d ds ih =>
    cases d with
    | missing => exact ⟨[], (List.append_nil notes).symm, .missing⟩
    | fits w text =>
      unfold allMet
      rw [Step.state_bind, Step.value_bind]
      have hvalue : (test.recorded w r text (s, notes)).value = (test w r text s).value := rfl
      have hstate : (test.recorded w r text (s, notes)).state =
          ((test w r text s).state, notes ++ [⟨w, r, (test w r text s).value⟩]) := rfl
      rw [hvalue, hstate]
      cases (test w r text s).value with
      | false => exact ⟨[⟨w, r, false⟩], rfl, .refused⟩
      | true =>
        obtain ⟨asked, hnotes, hasked⟩ := ih (test w r text s).state (notes ++ [⟨w, r, true⟩])
        refine ⟨⟨w, r, true⟩ :: asked, ?_, .granted hasked⟩
        exact hnotes.trans (List.append_assoc notes [_] asked)

namespace Consults

section
variable {r : Rules} {ds : List Demand} {ws : List String} {asked : List Consultation} {b : Bool}

theorem isPrefix (h : Consults r ds asked b) (hws : Lists ds ws) :
    asked.map (·.wildcard) <+: ws := by
  induction h generalizing ws with
  | done | missing => exact ⟨ws, rfl⟩
  | refused =>
    cases hws with
    | fits hws => exact ⟨_, rfl⟩
  | granted _ ih =>
    cases hws with
    | fits hws => exact List.cons_prefix_cons.mpr ⟨rfl, ih hws⟩

/-- Where all demands are met, every wildcard was asked about. -/
theorem map_wildcard_eq (h : Consults r ds asked b) (hb : b = true) (hws : Lists ds ws) :
    asked.map (·.wildcard) = ws := by
  induction h generalizing ws with
  | done =>
    cases hws
    rfl
  | missing | refused => cases hb
  | granted _ ih =>
    cases hws with
    | fits hws => exact congrArg _ (ih hb hws)

theorem rules_eq (h : Consults r ds asked b) : ∀ q ∈ asked, q.rules = r := by
  induction h with
  | done | missing => exact fun q hq => absurd hq List.not_mem_nil
  | refused => exact List.forall_mem_singleton.mpr rfl
  | granted _ ih => exact List.forall_mem_cons.mpr ⟨rfl, ih⟩

theorem granted_of_met (h : Consults r ds asked b) (hb : b = true) :
    ∀ q ∈ asked, q.granted = true := by
  induction h with
  | done => exact fun q hq => absurd hq List.not_mem_nil
  | missing | refused => cases hb
  | granted _ ih => exact List.forall_mem_cons.mpr ⟨rfl, ih hb⟩

theorem granted_of_mem_dropLast (h : Consults r ds asked b) :
    ∀ q ∈ asked.dropLast, q.granted = true := by
  induction h with
  | done | missing | refused => exact fun q hq => absurd hq List.not_mem_nil
  | @granted w text ds asked b _ ih =>
    intro q hq
    cases asked with
    | nil => exact absurd hq List.not_mem_nil
    | cons a as =>
      rcases List.mem_cons.mp hq with rfl | hq
      · rfl
      · exact ih q hq

/-- Some demand is not met exactly where the last answer was no or the next demand is missing. -/
theorem eq_false_iff (h : Consults r ds asked b) :
    b = false ↔ (∃ q, asked.getLast? = some q ∧ q.granted = false) ∨
      ds[asked.length]? = some .missing := by
  induction h with
  | done | missing | refused => simp
  | @granted w text ds asked b _ ih =>
    -- a yes in front is the last answer only if it is the only one
    have hlast : (∃ q, ((⟨w, r, true⟩ : Consultation) :: asked).getLast? = some q ∧
        q.granted = false) ↔ ∃ q, asked.getLast? = some q ∧ q.granted = false := by
      rw [List.getLast?_cons]
      cases asked.getLast? <;> simp
    rw [hlast, ih]
    rfl

end

end Consults

end Demand

/-! ## Wildcards of a component -/

/-- What is asked of one text, if it is asked at all. -/
theorem Demand.lists_toList (f : String → String) (w? : Option String) (text : String) :
    Lists (w?.map fun w => Demand.fits (f w) text).toList (w?.map f).toList := by
  cases w? with
  | none => exact .nil
  | some w => exact .fits .nil

theorem QueryConstraint.lists_wildcards (q : QueryConstraint) (v : UrlView) :
    Demand.Lists (q.demands v) q.wildcards := by
  cases q with
  | name n =>
    show Demand.Lists (if (v.item? n).isSome then [] else [.missing]) []
    split
    · exact .nil
    · exact .missing
  | values ws =>
    show Demand.Lists (ws.toList.map (demandOn v)) (ws.toList.map (·.2))
    induction ws.toList with
    | nil => exact .nil
    | cons e es ih =>
      rw [List.map_cons, List.map_cons]
      unfold demandOn
      split
      · exact .fits ih
      · exact .missing

theorem Component.lists_wildcards (c : Component) (v : UrlView) :
    Demand.Lists (c.demands v) c.wildcards := by
  have hpath := Demand.lists_toList relative c.path v.relativePath
  have hfragment := Demand.lists_toList (fun w => w) c.fragment v.fragment
  rw [Option.map_id_fun'] at hfragment
  have hquery : Demand.Lists ((c.query.map (·.demands v)).getD [])
      ((c.query.map (·.wildcards)).getD []) := by
    cases c.query with
    | none => exact .nil
    | some q => exact q.lists_wildcards v
  exact (hpath.append hquery).append hfragment

/-! ## Missing items -/

namespace UrlView

theorem item?_eq_none_iff (v : UrlView) (n : String) :
    v.item? n = none ↔ ∀ i ∈ v.items, i.name ≠ n := by
  show v.items.find? (·.name == n) = none ↔ _
  simp [List.find?_eq_none]

theorem value?_eq_none_iff (v : UrlView) (n : String) :
    v.value? n = none ↔
      ∀ i : QueryItem, i.IsFirst v.items → i.name = n → i.value = none := by
  rw [Option.eq_none_iff_forall_ne_some]
  constructor
  · intro h i hfirst hname
    rw [Option.eq_none_iff_forall_ne_some]
    intro text hvalue
    exact h text ((v.value?_eq_some_iff n text).mpr ⟨i, hfirst, hname, hvalue⟩)
  · intro h text hvalue
    obtain ⟨i, hfirst, hname, hsome⟩ := (v.value?_eq_some_iff n text).mp hvalue
    rw [h i hfirst hname] at hsome
    cases hsome

end UrlView

/-- After `n` of its wildcards the query requires what the URL does not have: an item of a name
that no item has, or a value where the first item of the name has none or is not there. -/
def QueryConstraint.LacksNext (v : UrlView) (n : Nat) : QueryConstraint → Prop
  | .name m => n = 0 ∧ ∀ i ∈ v.items, i.name ≠ m
  | .values ws => ∃ e, ws.toList[n]? = some e ∧
      ∀ i : QueryItem, i.IsFirst v.items → i.name = e.1 → i.value = none

/-- After `n` of its wildcards, the path's and some of the query's, the component requires an item
or a value that the URL does not have. -/
def Component.LacksNext (c : Component) (v : UrlView) (n : Nat) : Prop :=
  ∃ q k, c.query = some q ∧ n = c.path.toList.length + k ∧ q.LacksNext v k

theorem QueryConstraint.getElem?_demands_eq_missing_iff (q : QueryConstraint) (v : UrlView)
    (n : Nat) : (q.demands v)[n]? = some .missing ↔ q.LacksNext v n := by
  cases q with
  | name m =>
    show (if (v.item? m).isSome then [] else [Demand.missing])[n]? = some .missing ↔
      n = 0 ∧ ∀ i ∈ v.items, i.name ≠ m
    rw [← v.item?_eq_none_iff]
    cases v.item? m with
    | none => simp [List.getElem?_singleton]
    | some i => simp
  | values ws =>
    show (ws.toList.map (demandOn v))[n]? = some .missing ↔ ∃ e, ws.toList[n]? = some e ∧ _
    rw [List.getElem?_map, Option.map_eq_some_iff]
    refine exists_congr fun e => and_congr_right fun _ => ?_
    rw [← v.value?_eq_none_iff]
    unfold demandOn
    cases v.value? e.1 <;> simp

/-- Nothing is missing where one text is asked about. -/
theorem Demand.missing_not_mem_toList (f : String → String) (w? : Option String) (text : String) :
    .missing ∉ (w?.map fun w => Demand.fits (f w) text).toList := by
  cases w? with
  | none => exact List.not_mem_nil
  | some w => simp

/-- What stands at an index of two lists, one behind the other. -/
theorem getElem?_append_eq_some_iff {α : Type} (as bs : List α) (n : Nat) (a : α) :
    (as ++ bs)[n]? = some a ↔ as[n]? = some a ∨ ∃ k, n = as.length + k ∧ bs[k]? = some a := by
  rcases Nat.lt_or_ge n as.length with hn | hn
  · rw [List.getElem?_append_left hn]
    refine (or_iff_left ?_).symm
    rintro ⟨k, hk, -⟩
    omega
  · rw [List.getElem?_append_right hn, List.getElem?_eq_none hn]
    constructor
    · intro hget
      exact .inr ⟨n - as.length, by omega, hget⟩
    · rintro (hget | ⟨k, rfl, hget⟩)
      · cases hget
      · rw [Nat.add_sub_cancel_left]
        exact hget

theorem Component.getElem?_demands_eq_missing_iff (c : Component) (v : UrlView) (n : Nat) :
    (c.demands v)[n]? = some .missing ↔ c.LacksNext v n := by
  have hpath := Demand.missing_not_mem_toList relative c.path v.relativePath
  have hfragment := Demand.missing_not_mem_toList (fun w => w) c.fragment v.fragment
  have hlength : (c.path.map fun w => Demand.fits (relative w) v.relativePath).toList.length =
      c.path.toList.length := by
    cases c.path <;> rfl
  have hquery : ∀ k, ((c.query.map (·.demands v)).getD [])[k]? = some .missing ↔
      ∃ q, c.query = some q ∧ q.LacksNext v k := by
    intro k
    cases c.query with
    | none => simp
    | some q => simpa using q.getElem?_demands_eq_missing_iff v k
  unfold demands LacksNext
  rw [getElem?_append_eq_some_iff, getElem?_append_eq_some_iff, hlength]
  constructor
  -- only what is asked of the query can be missing
  · rintro ((hget | ⟨k, hn, hget⟩) | ⟨k, -, hget⟩)
    · exact absurd (List.mem_of_getElem? hget) hpath
    · obtain ⟨q, hq, hlacks⟩ := (hquery k).mp hget
      exact ⟨q, k, hq, hn, hlacks⟩
    · exact absurd (List.mem_of_getElem? hget) hfragment
  · rintro ⟨q, k, hq, hn, hlacks⟩
    exact .inl (.inr ⟨k, hn, (hquery k).mpr ⟨q, hq, hlacks⟩⟩)

/-! ## Top theorem -/

/-- A component leaves the decision to the next one exactly where a demand is not met. -/
theorem Component.value_decide_eq_undetermined_iff {σ : Type} (test : Tester σ) (r : Rules)
    (v : UrlView) (c : Component) (s : σ) :
    (c.decide test r v s).value = .undetermined ↔
      (Demand.allMet test r (c.demands v) s).value = false := by
  show (if (Demand.allMet test r (c.demands v) s).value then c.verdict else .undetermined) =
    .undetermined ↔ _
  cases (Demand.allMet test r (c.demands v) s).value with
  | true => exact iff_of_false c.verdict_ne_undetermined nofun
  | false => exact iff_of_true rfl rfl

/-- **A component consults its wildcards in order, from the first on**, whatever answers it and
from whatever state.  What a run asks, noted without changing the run, is a first part of the
component's wildcards, under its rules, with yes for every answer but perhaps the last.  A run that
decides has asked about all of them and was never refused; one that does not was refused at last,
or the URL lacks what the query requires next. -/
theorem Component.decide_consults_in_order {σ : Type} (test : Tester σ) (r : Rules) (v : UrlView)
    (c : Component) (s : σ) :
    let run := c.decide test.recorded r v (s, [])
    let asked := run.state.2
    (run.value = (c.decide test r v s).value ∧ run.state.1 = (c.decide test r v s).state ∧
      run.events = (c.decide test r v s).events) ∧
    asked.map (·.wildcard) <+: c.wildcards ∧
    (∀ q ∈ asked, q.rules = r) ∧
    (∀ q ∈ asked.dropLast, q.granted = true) ∧
    (run.value = .matched ∨ run.value = .excluded →
      asked.map (·.wildcard) = c.wildcards ∧ ∀ q ∈ asked, q.granted = true) ∧
    (run.value = .undetermined ↔
      (∃ q, asked.getLast? = some q ∧ q.granted = false) ∨ c.LacksNext v asked.length) := by
  intro run asked
  obtain ⟨hvalue, hstate, hevents⟩ :=
    alongside_decide (alongside_recorded test) r v c (s, []) s rfl
  obtain ⟨asked', hasked, hconsults⟩ := Demand.exists_consults_allMet test r (c.demands v) s []
  obtain rfl : asked = asked' := hasked
  have hlists := c.lists_wildcards v
  have hmet := c.value_decide_eq_undetermined_iff test.recorded r v (s, [])
  refine ⟨⟨hvalue, hstate, hevents⟩, hconsults.isPrefix hlists, hconsults.rules_eq,
    hconsults.granted_of_mem_dropLast, ?_, ?_⟩
  · intro hdecided
    have hne : run.value ≠ .undetermined := by
      rcases hdecided with h | h <;> simp [h]
    have hall := Bool.eq_true_of_not_eq_false (mt hmet.mpr hne)
    exact ⟨hconsults.map_wildcard_eq hall hlists, hconsults.granted_of_met hall⟩
  · rw [hmet, hconsults.eq_false_iff, c.getElem?_demands_eq_missing_iff v]

/-- The tester says yes until its count is used up.  The query's wildcards come in the order of
their names, and of two items of one name only the first is looked at. -/
theorem Component.decide_consults_in_order_counted :
    let c : Component :=
      { path := some "/shop/*", query := some (.values (.ofList [("ref", "?*"), ("id", "??")])),
        fragment := some "top", exclude := some true }
    let v : UrlView :=
      { path := "/shop/1", query := some [⟨"ref", some "x"⟩, ⟨"id", some "17"⟩],
        fragment := "top" }
    let v' : UrlView :=
      { v with query := some [⟨"ref", none⟩, ⟨"id", some "17"⟩, ⟨"ref", some "x"⟩] }
    let test : Tester Nat := fun _ _ _ n => ⟨n != 0, n - 1, []⟩
    let full := c.decide test.recorded {} v (4, [])
    let lacking := c.decide test.recorded {} v' (4, [])
    let refused := c.decide test.recorded {} v (1, [])
    full.value = .excluded ∧ full.state.2.map (·.wildcard) = c.wildcards ∧
      c.wildcards = ["shop/*", "??", "?*", "top"] ∧ (∀ q ∈ full.state.2, q.granted = true) ∧
    lacking.value = .undetermined ∧ lacking.state.2.map (·.wildcard) = ["shop/*", "??"] ∧
      (⟨"shop/*", {}, true⟩ : Consultation) ∈ lacking.state.2.dropLast ∧ c.LacksNext v' 2 ∧
    refused.state.2.getLast? = some ⟨"??", {}, false⟩ ∧ refused.value = .undetermined := by
  intro c v v' test full lacking refused
  have hfull : full.value = .excluded := by decide +kernel
  have hlacking : lacking.value = .undetermined := by decide +kernel
  have hasked : lacking.state.2 = [⟨"shop/*", {}, true⟩, ⟨"??", {}, true⟩] := by decide +kernel
  have hlast : refused.state.2.getLast? = some ⟨"??", {}, false⟩ := by decide +kernel
  obtain ⟨-, -, -, -, hall, -⟩ := c.decide_consults_in_order test {} v 4
  obtain ⟨-, -, -, -, -, hlacks⟩ := c.decide_consults_in_order test {} v' 4
  obtain ⟨-, -, -, -, -, hrefused⟩ := c.decide_consults_in_order test {} v 1
  obtain ⟨hwildcards, hgranted⟩ := hall (.inr hfull)
  have hnext : c.LacksNext v' 2 := by
    rcases hlacks.mp hlacking with ⟨q, hq, hno⟩ | hnext
    · rw [hasked] at hq
      cases hq
      cases hno
    · rw [hasked] at hnext
      exact hnext
  refine ⟨hfull, hwildcards, by decide +kernel, hgranted, hlacking, ?_, ?_, hnext, hlast,
    hrefused.mpr (.inl ⟨_, hlast, rfl⟩)⟩
  · rw [hasked]
    rfl
  · rw [hasked]
    exact List.mem_singleton_self _

end AppLinks
