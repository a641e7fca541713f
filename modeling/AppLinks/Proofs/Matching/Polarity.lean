import Mathlib.Data.List.Flatten
import Mathlib.Data.List.Forall2
import AppLinks.Proofs.Matching.Satisfaction

/-!
# Exclusions only remove, inclusions only add

The first component that is met decides for its rule set.  Where components of one kind are put in,
and others turned into that kind, a rule set decides as before or as that kind speaks: exclusions
can only keep it from matching, inclusions can only make it match.  A link set so changed loses or
wins the identifiers of whole rule sets and of nothing else.

    ShiftedTo kind cs cs' → s.firstIncludes m v cs' = s.firstIncludes m v cs ∨
      s.firstIncludes m v cs' = !kind                                   (firstIncludes_shiftedTo)
    (l.appIds u ()).value = (l.matching u).flatMap (·.appIds)           (value_appIds_eq_matching)
-/

namespace AppLinks

/-! ## Shifts -/

/-- The second list is the first with components of one kind put in at any places and with any
others turned into that kind, exclusions or inclusions. -/
inductive ShiftedTo (exclusion : Bool) : List Component → List Component → Prop
  | nil : ShiftedTo exclusion [] []
  | keep {cs cs' : List Component} (c : Component) :
      ShiftedTo exclusion cs cs' → ShiftedTo exclusion (c :: cs) (c :: cs')
  | putIn {cs cs' : List Component} {e : Component} : e.isExclusion = exclusion →
      ShiftedTo exclusion cs cs' → ShiftedTo exclusion cs (e :: cs')
  | turn {cs cs' : List Component} (c : Component) {x : Option Bool} :
      ({ c with exclude := x } : Component).isExclusion = exclusion →
      ShiftedTo exclusion cs cs' → ShiftedTo exclusion (c :: cs) ({ c with exclude := x } :: cs')

/-- The second link set is the first with other components in its rule sets, as `R` allows. -/
structure LinkSet.Edited (R : List Component → List Component → Prop) (l l' : LinkSet) : Prop where
  defaults : l'.defaults = l.defaults
  substitutions : l'.substitutions = l.substitutions
  details : List.Forall₂
    (fun r r' => r' = { r with components := r'.components } ∧ R r.components r'.components)
    l.details l'.details

/-! ## Rule sets -/

/-- A component that is met decides; otherwise those after it do. -/
theorem Setting.firstIncludes_cons (m : Answers) (s : Setting) (v : UrlView) (c : Component)
    (cs : List Component) :
    s.firstIncludes m v (c :: cs) =
      if c.meets m (s.rules c) v then !c.isExclusion else s.firstIncludes m v cs := by
  unfold firstIncludes
  rw [List.find?_cons]
  cases c.meets m (s.rules c) v <;> rfl

/-- A shift changes what is decided to what its kind speaks for, or not at all. -/
theorem Setting.firstIncludes_shiftedTo {exclusion : Bool} {cs cs' : List Component}
    (h : ShiftedTo exclusion cs cs') (m : Answers) (s : Setting) (v : UrlView) :
    s.firstIncludes m v cs' = s.firstIncludes m v cs ∨ s.firstIncludes m v cs' = !exclusion := by
  induction h with
  | nil => exact .inl rfl
  | keep c _ ih =>
    rw [firstIncludes_cons, firstIncludes_cons]
    split
    · exact .inl rfl
    · exact ih
  | putIn he _ ih =>
    rw [firstIncludes_cons]
    split
    · exact .inr (by rw [he])
    · exact ih
  | @turn _ _ c x hx _ ih =>
    -- the kind is no part of what a component asks, nor of the rules it is read under
    have hmeets : ({ c with exclude := x } : Component).meets m
        (s.rules { c with exclude := x }) v = c.meets m (s.rules c) v := rfl
    rw [firstIncludes_cons, firstIncludes_cons, hmeets, hx]
    split
    · exact .inr rfl
    · exact ih

/-! ## Link sets -/

namespace LinkSet

/-- The rule sets that match a URL, in order. -/
def matching (l : LinkSet) (u : Url) : List RuleSet :=
  l.details.filter fun r => decide (r.Matches l u)

theorem value_appIds_eq_matching (l : LinkSet) (u : Url) :
    (l.appIds u ()).value = (l.matching u).flatMap (·.appIds) := by
  rw [l.value_appIds u]
  unfold idsBy matching
  congr 1
  refine List.filter_congr fun r _ => ?_
  rw [Bool.eq_iff_iff, decide_eq_true_iff]
  exact r.firstIncludes_iff l u

theorem Edited.symm {R : List Component → List Component → Prop} {l l' : LinkSet}
    (h : l.Edited R l') : l'.Edited (flip R) l := by
  refine ⟨h.defaults.symm, h.substitutions.symm, List.Forall₂.flip (h.details.imp ?_)⟩
  intro r r' ⟨hr, hcs⟩
  exact ⟨by rw [hr], hcs⟩

/-- Where fewer rule sets match, some of those that match are kept. -/
theorem exists_kept {p q : RuleSet → Bool} {rs rs' : List RuleSet}
    (h : List.Forall₂ (fun r r' => r'.appIds = r.appIds ∧ (q r' = true → p r = true)) rs rs') :
    ∃ kept : List RuleSet, kept.Sublist (rs.filter p) ∧
      (rs'.filter q).flatMap (·.appIds) = kept.flatMap (·.appIds) := by
  induction h with
  | nil => exact ⟨[], .slnil, rfl⟩
  | @cons r r' rs rs' hr _ ih =>
    obtain ⟨hids, hpq⟩ := hr
    obtain ⟨kept, hkept, heq⟩ := ih
    by_cases hq : q r' = true
    · refine ⟨r :: kept, ?_, ?_⟩
      · rw [List.filter_cons_of_pos (hpq hq)]
        exact hkept.cons_cons r
      · rw [List.filter_cons_of_pos hq, List.flatMap_cons, List.flatMap_cons, heq, hids]
    · refine ⟨kept, hkept.trans ?_, ?_⟩
      · exact (List.sublist_cons_self r rs).filter p
      · rw [List.filter_cons_of_neg hq, heq]

/-- The identifiers that `l'` ties to a URL are those of `l` without those of some rule sets. -/
def DropsTo (l l' : LinkSet) (u : Url) : Prop :=
  ∃ kept : List RuleSet,
    kept.Sublist (l.matching u) ∧ (l'.appIds u ()).value = kept.flatMap (·.appIds)

theorem DropsTo.sublist {l l' : LinkSet} {u : Url} (h : l.DropsTo l' u) :
    (l'.appIds u ()).value.Sublist (l.appIds u ()).value := by
  obtain ⟨kept, hkept, hids⟩ := h
  rw [hids, value_appIds_eq_matching]
  exact hkept.flatMap _

/-- Rule sets stay in their places with their apps, so where none comes to match that did not,
only identifiers of whole rule sets are lost. -/
theorem Edited.dropsTo {R : List Component → List Component → Prop} {l l' : LinkSet}
    (h : l.Edited R l') (u : Url)
    (hR : ∀ (s : Setting) cs cs', R cs cs' → s.firstIncludes freshAnswers u.view cs' = true →
      s.firstIncludes freshAnswers u.view cs = true) : l.DropsTo l' u := by
  unfold DropsTo
  rw [value_appIds_eq_matching]
  refine exists_kept (h.details.imp fun r r' ⟨hr, hcs⟩ => ⟨by rw [hr], fun hmatches => ?_⟩)
  have hsetting : l'.setting r' = l.setting r := by
    unfold setting
    rw [hr, h.defaults, h.substitutions]
  rw [decide_eq_true_iff, ← RuleSet.firstIncludes_iff] at hmatches ⊢
  rw [hsetting] at hmatches
  exact hR _ _ _ hcs hmatches

theorem dropsTo_of_exclusions {l l' : LinkSet} (h : l.Edited (ShiftedTo true) l') (u : Url) :
    l.DropsTo l' u := by
  refine h.dropsTo u fun s cs cs' hcs hb => ?_
  rcases Setting.firstIncludes_shiftedTo hcs freshAnswers s u.view with heq | heq
  · rw [← heq, hb]
  · rw [hb] at heq
    cases heq

theorem dropsTo_of_inclusions {l l' : LinkSet} (h : l.Edited (ShiftedTo false) l') (u : Url) :
    l'.DropsTo l u := by
  refine h.symm.dropsTo u fun s cs' cs hcs hb => ?_
  rcases Setting.firstIncludes_shiftedTo hcs freshAnswers s u.view with heq | heq
  · rw [heq, hb]
  · exact heq

/-! ## Top theorem -/

/-- **Exclusions only remove and inclusions only add**, both the identifiers of whole rule sets:
with exclusions put in and components turned into exclusions a subsequence is left, and with
inclusions the other way round. -/
theorem appIds_of_shiftedTo (l l' : LinkSet) (u : Url) :
    ((l.appIds u ()).value = (l.matching u).flatMap (·.appIds)) ∧
    (l.Edited (ShiftedTo true) l' →
      l.DropsTo l' u ∧ (l'.appIds u ()).value.Sublist (l.appIds u ()).value) ∧
    (l.Edited (ShiftedTo false) l' →
      l'.DropsTo l u ∧ (l.appIds u ()).value.Sublist (l'.appIds u ()).value) := by
  refine ⟨value_appIds_eq_matching l u, fun h => ?_, fun h => ?_⟩
  · have hdrops := dropsTo_of_exclusions h u
    exact ⟨hdrops, hdrops.sublist⟩
  · have hdrops := dropsTo_of_inclusions h u
    exact ⟨hdrops, hdrops.sublist⟩

/-- Of three rule sets two match. The exclusions put in drop the second, where one reads without
regard to case, and not the first, where the wildcard is broken; a turned component brings the
second back, and a broken one that is put in does not bring the third. -/
theorem appIds_of_shiftedTo_shop :
    let shop : Component := { path := some "/shop/*" }
    let anywhere : Component := { path := some "*" }
    let broken : Component := { fragment := some "$(lang", exclude := some true }
    let loud : Component :=
      { path := some "/SHOP/?", exclude := some true, caseSensitive := some false }
    let help : Component := { path := some "/shop/?*", exclude := some true }
    let l : LinkSet :=
      { details := [⟨["T.a"], [shop], none⟩, ⟨["T.b", "T.a"], [anywhere], none⟩,
          ⟨["T.c"], [help, anywhere], none⟩] }
    let less : LinkSet :=
      { details := [⟨["T.a"], [broken, shop], none⟩,
          ⟨["T.b", "T.a"], [loud, { anywhere with exclude := some true }], none⟩,
          ⟨["T.c"], [help, anywhere], none⟩] }
    let more : LinkSet :=
      { details := [⟨["T.a"], [broken, shop], none⟩,
          ⟨["T.b", "T.a"], [{ loud with exclude := none },
            { anywhere with exclude := some true }], none⟩,
          ⟨["T.c"], [{ broken with exclude := some false }, help, anywhere], none⟩] }
    let u : Url := { scheme := "https", path := "/shop/x" }
    (l.Edited (ShiftedTo true) less ∧ l.DropsTo less u ∧
        (less.appIds u ()).value.Sublist (l.appIds u ()).value) ∧
      (less.Edited (ShiftedTo false) more ∧ more.DropsTo less u ∧
        (less.appIds u ()).value.Sublist (more.appIds u ()).value) ∧
      (l.appIds u ()).value = ["T.a", "T.b", "T.a"] ∧
      (less.appIds u ()).value = ["T.a"] ∧
      (more.appIds u ()).value = ["T.a", "T.b", "T.a"] := by
  intro shop anywhere broken loud help l less more u
  have hexclusions : l.Edited (ShiftedTo true) less :=
    ⟨rfl, rfl, .cons ⟨rfl, .putIn rfl (.keep shop .nil)⟩
      (.cons ⟨rfl, .putIn rfl (.turn anywhere rfl .nil)⟩
        (.cons ⟨rfl, .keep help (.keep anywhere .nil)⟩ .nil))⟩
  have hinclusions : less.Edited (ShiftedTo false) more :=
    ⟨rfl, rfl, .cons ⟨rfl, .keep broken (.keep shop .nil)⟩
      (.cons ⟨rfl, .turn loud rfl (.keep { anywhere with exclude := some true } .nil)⟩
        (.cons ⟨rfl, .putIn rfl (.keep help (.keep anywhere .nil))⟩ .nil))⟩
  exact ⟨⟨hexclusions, (appIds_of_shiftedTo l less u).2.1 hexclusions⟩,
    ⟨hinclusions, (appIds_of_shiftedTo less more u).2.2 hinclusions⟩, by decide +kernel⟩

end LinkSet

end AppLinks
