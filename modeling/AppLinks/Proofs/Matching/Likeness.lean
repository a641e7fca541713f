import AppLinks.Matching.Session
import AppLinks.Proofs.Url.Restated

/-!
# What of a URL decides

A component asks a URL for its path, its fragment and first items of its query.  URLs that are alike
in these meet every component with the same demands, so each level of matching is one and the same
step for both: it asks the same wildcards in the same order, and leaves the same cache.

    u.Alike v → c.demands u.view = c.demands v.view                 (demands_eq_of_alike)
    u.Alike v → l.appIdsBy test u = l.appIdsBy test v               (appIdsBy_eq_of_alike)
-/

namespace AppLinks

/-! ## Demands -/

namespace Url

theorem Alike.relativePath {u v : Url} (h : u.Alike v) :
    u.view.relativePath = v.view.relativePath :=
  h.path

theorem Alike.fragment_view {u v : Url} (h : u.Alike v) : u.view.fragment = v.view.fragment :=
  h.fragment

theorem Alike.item? {u v : Url} (h : u.Alike v) (n : String) : u.view.item? n = v.view.item? n :=
  find?_eq_of_isFirst_iff h.item n

theorem Alike.value? {u v : Url} (h : u.Alike v) (n : String) :
    u.view.value? n = v.view.value? n := by
  unfold UrlView.value?
  rw [h.item? n]

end Url

theorem QueryConstraint.demands_eq_of_alike {u v : Url} (h : u.Alike v) (q : QueryConstraint) :
    q.demands u.view = q.demands v.view := by
  cases q with
  | name n =>
    show (if (u.view.item? n).isSome then [] else [Demand.missing]) = _
    rw [h.item? n]
    rfl
  | values ws =>
    show ws.toList.map (demandOn u.view) = ws.toList.map (demandOn v.view)
    apply List.map_congr_left
    intro e _
    unfold demandOn
    rw [h.value? e.1]

/-- Alike URLs meet the same demands. -/
theorem Component.demands_eq_of_alike {u v : Url} (h : u.Alike v) (c : Component) :
    c.demands u.view = c.demands v.view := by
  have hquery : (fun q : QueryConstraint => q.demands u.view) = fun q => q.demands v.view := by
    funext q
    exact q.demands_eq_of_alike h
  unfold demands
  rw [h.relativePath, h.fragment_view, hquery]

/-! ## Levels of matching -/

section
variable {σ : Type} {test : Tester σ} {v v' : UrlView}

theorem RuleSet.holds_eq_of_demands (h : ∀ c : Component, c.demands v = c.demands v')
    (defaults : Option Defaults) (substitutions : Option Substitutions) (r : RuleSet) :
    r.holds test defaults substitutions v = r.holds test defaults substitutions v' := by
  refine Component.anyMatches_congr (List.forall₂_same.mpr fun c _ => ?_) r.appIds 0
  unfold Component.decide
  rw [h c]

/-- Whatever tests the wildcards, alike URLs are matched by the same step. -/
theorem LinkSet.appIdsBy_eq_of_alike {u u' : Url} (h : u.Alike u') (l : LinkSet) :
    l.appIdsBy test u = l.appIdsBy test u' := by
  have hdemands := Component.demands_eq_of_alike h
  refine collect_congr (List.forall₂_same.mpr fun r _ => ⟨rfl, ?_⟩)
  exact r.holds_eq_of_demands hdemands l.defaults l.substitutions

end

/-! ## Top theorem -/

namespace LinkSet

/-- **Path, fragment and first items of the query decide alone**: alike URLs are answered with the
same identifiers, afresh and from any cache, which both leave the same; and a URL that is put in
another way is alike. -/
theorem appIds_of_alike (l : LinkSet) :
    (∀ u u' : Url, u.Alike u' →
      (l.appIds u ()).value = (l.appIds u' ()).value ∧
        ∀ c : PatternCache,
          (l.appIdsBy Tester.cached u c).value = (l.appIdsBy Tester.cached u' c).value ∧
          (l.appIdsBy Tester.cached u c).state = (l.appIdsBy Tester.cached u' c).state ∧
          (l.appIdsBy Tester.cached u c).events = (l.appIdsBy Tester.cached u' c).events) ∧
    ∀ u u' : Url, Url.Restated u u' → u.Alike u' := by
  refine ⟨?_, fun u u' => Url.alike_of_restated⟩
  intro u u' h
  have hcached : l.appIdsBy Tester.cached u = l.appIdsBy Tester.cached u' :=
    l.appIdsBy_eq_of_alike h
  constructor
  · unfold appIds
    rw [l.appIdsBy_eq_of_alike h]
  · intro c
    rw [hcached]
    exact ⟨rfl, rfl, rfl⟩

/-- Another scheme and port, an escape in the path, an empty piece in the query, its items in
another order, and one that comes again. -/
theorem appIds_of_alike_put_otherwise :
    let l : LinkSet :=
      { details :=
          [{ appIds := ["T.app"],
             components :=
               [{ path := some "/a", query := some (.values (.ofList [("x", "1")])) }] }] }
    let u : Url := { scheme := "https", path := "/a", query := some "x=1&y=2" }
    let u' : Url :=
      { scheme := "http", authority := some { portNumber := some 8080 }, path := "/%61",
        query := some "y=2&&x=1&x=9" }
    Url.Restated u u' ∧ u.Alike u' ∧ (l.appIds u ()).value = ["T.app"] ∧
      (l.appIds u' ()).value = ["T.app"] ∧
      (l.appIdsBy Tester.cached u .empty).state = (l.appIdsBy Tester.cached u' .empty).state := by
  intro l u u'
  have horder : Url.Restated u { u with query := some "y=2&x=1" } :=
    .order u [] [] (s := "x=1".toList) (t := "y=2".toList) (by decide +kernel)
  have hempty : Url.Restated { u with query := some "y=2&x=1" }
      { u with query := some "y=2&&x=1" } :=
    .symm (.emptySegment u ["y=2".toList] ["x=1".toList])
  have hagain : Url.Restated { u with query := some "y=2&&x=1" }
      { u with query := some "y=2&&x=1&x=9" } :=
    .symm (.again u ["y=2".toList, [], "x=1".toList] [] (s := "x=9".toList) (by decide +kernel))
  have hplain : Text.Percent.Spells "/a".toList [47, 97] :=
    (Text.Percent.spells_iff _ _).mpr (by decide +kernel)
  have hescaped : Text.Percent.Spells "/%61".toList [47, 97] :=
    (Text.Percent.spells_iff _ _).mpr (by decide +kernel)
  have hpath : Url.Restated { u with query := some "y=2&&x=1&x=9" }
      { u with path := "/%61", query := some "y=2&&x=1&x=9" } :=
    .path { u with query := some "y=2&&x=1&x=9" } hplain hescaped
  have hrestated : Url.Restated u u' :=
    (horder.trans hempty).trans ((hagain.trans hpath).trans (.origin _ "http" _))
  have halike := (appIds_of_alike l).2 u u' hrestated
  obtain ⟨hvalue, hcached⟩ := (appIds_of_alike l).1 u u' halike
  have hu : (l.appIds u ()).value = ["T.app"] := by decide +kernel
  exact ⟨hrestated, halike, hu, hvalue ▸ hu, (hcached .empty).2.1⟩

end LinkSet

end AppLinks
