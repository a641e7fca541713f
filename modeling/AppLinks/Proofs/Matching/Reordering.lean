import Mathlib.Data.List.Perm.Basic
import Mathlib.Data.List.SplitBy
import AppLinks.Proofs.Matching.Failure
import AppLinks.Proofs.Matching.Polarity

/-!
# Only the order between inclusions and exclusions matters

Components of one kind may change places as long as none of the other kind stands between them:
whichever of them is met first, it decides the same way.  Such a reordering is a permutation inside
each run of components of one kind, and it comes about by exchanging neighbours.  Exclusions that
come last do not show either, nor does anything behind a component that every URL meets.

    Reordered cs cs' ↔ List.Forall₂ List.Perm (runs cs) (runs cs')           (reordered_iff_runs)
    Rearranged cs cs' → s.firstIncludes m v cs' = s.firstIncludes m v cs (firstIncludes_rearranged)
-/

namespace AppLinks

/-! ## Reordering -/

/-- Of two components with their former places, the first may stand before the second now: it did
so before, or they are of one kind. -/
def MayPrecede (p q : Component × Nat) : Prop :=
  p.2 < q.2 ∨ p.1.isExclusion = q.1.isExclusion

instance (p q : Component × Nat) : Decidable (MayPrecede p q) :=
  inferInstanceAs (Decidable (_ ∨ _))

/-- The second list is the first in another order, in which no exclusion has passed an inclusion
and no inclusion an exclusion. -/
def Reordered (cs cs' : List Component) : Prop :=
  ∃ ps : List (Component × Nat),
    ps.Perm cs.zipIdx ∧ ps.map (·.1) = cs' ∧ ps.Pairwise MayPrecede

/-- The longest stretches of consecutive components of one kind. -/
def runs (cs : List Component) : List (List Component) :=
  cs.splitBy fun c d => c.isExclusion == d.isExclusion

/-- Neighbours of one kind are exchanged, any number of times. -/
inductive Exchanges : List Component → List Component → Prop
  | refl (cs : List Component) : Exchanges cs cs
  | cons {cs cs' : List Component} (c : Component) :
      Exchanges cs cs' → Exchanges (c :: cs) (c :: cs')
  | swap {c d : Component} (cs : List Component) : c.isExclusion = d.isExclusion →
      Exchanges (c :: d :: cs) (d :: c :: cs)
  | trans {cs ds es : List Component} : Exchanges cs ds → Exchanges ds es → Exchanges cs es

/-! ## From a reordering to exchanges -/

/-- A component comes to the front past others of its kind. -/
theorem exchanges_toFront {c : Component} {front : List Component}
    (h : ∀ d ∈ front, d.isExclusion = c.isExclusion) (back : List Component) :
    Exchanges (front ++ c :: back) (c :: (front ++ back)) := by
  induction front with
  | nil => exact .refl _
  | cons d front ih =>
    have hfront := ih fun e he => h e (List.mem_cons_of_mem d he)
    exact .trans (.cons d hfront) (.swap (front ++ back) (h d List.mem_cons_self))

/-- The component that is to stand first comes to the front, then those that follow it in turn. -/
theorem exchanges_of_perm {ps qs : List (Component × Nat)} (hperm : ps.Perm qs)
    (hplaces : qs.Pairwise fun p q => p.2 < q.2) (hps : ps.Pairwise MayPrecede) :
    Exchanges (qs.map (·.1)) (ps.map (·.1)) := by
  induction ps generalizing qs with
  | nil =>
    rw [List.nil_perm.mp hperm]
    exact .refl _
  | cons p ps ih =>
    obtain ⟨front, back, rfl⟩ := List.append_of_mem (hperm.subset List.mem_cons_self)
    obtain ⟨hp, hps⟩ := List.pairwise_cons.mp hps
    have hrest : ps.Perm (front ++ back) := (hperm.trans List.perm_middle).cons_inv
    have hfront : ∀ q ∈ front, q.1.isExclusion = p.1.isExclusion := by
      intro q hq
      have hlt : q.2 < p.2 := (List.pairwise_append.mp hplaces).2.2 q hq p List.mem_cons_self
      have hmem : q ∈ ps := hrest.mem_iff.mpr (List.mem_append_left back hq)
      exact ((hp q hmem).resolve_left (Nat.lt_asymm hlt)).symm
    have hsub : (front ++ back).Sublist (front ++ p :: back) :=
      (List.sublist_cons_self p back).append_left front
    refine .trans ?_ (.cons p.1 (ih hrest (hplaces.sublist hsub) hps))
    rw [List.map_append, List.map_cons, List.map_append]
    exact exchanges_toFront (List.forall_mem_map.mpr hfront) _

theorem Reordered.exchanges {cs cs' : List Component} (h : Reordered cs cs') :
    Exchanges cs cs' := by
  obtain ⟨ps, hperm, rfl, hps⟩ := h
  have hexchanges := exchanges_of_perm hperm (LinkSet.pairwise_zipIdx cs) hps
  rwa [List.zipIdx_map_fst] at hexchanges

/-! ## From exchanges to runs -/

/-- The components of each list are of one kind. -/
def Uniform (bs : List (List Component)) : Prop :=
  ∀ b ∈ bs, ∀ c ∈ b, ∀ d ∈ b, c.isExclusion = d.isExclusion

theorem uniform_runs (cs : List Component) : Uniform (runs cs) := by
  intro run hrun c hc d hd
  let SameKind (c d : Component) : Prop := c.isExclusion = d.isExclusion
  have : IsTrans Component SameKind := ⟨fun _ _ _ => Eq.trans⟩
  have : Std.Symm SameKind := ⟨fun _ _ => Eq.symm⟩
  have hchain : run.IsChain SameKind :=
    (List.isChain_of_mem_splitBy hrun).imp fun _ _ h => beq_iff_eq.mp h
  exact List.Pairwise.forall_of_forall (R := SameKind) (fun _ _ => rfl) hchain.pairwise hc hd

/-- A component of the kind of those in the first run joins them. -/
theorem runs_cons_of_eq {c d : Component} {cs run : List Component} {rest : List (List Component)}
    (hruns : runs cs = (d :: run) :: rest) (h : c.isExclusion = d.isExclusion) :
    runs (c :: cs) = (c :: d :: run) :: rest := by
  obtain ⟨hjoin, hnil, hchain, hends⟩ := List.splitBy_eq_iff.mp hruns
  refine List.splitBy_eq_iff.mpr ⟨?_, ?_, ?_, ?_⟩
  · rw [hjoin]
    rfl
  · simpa using hnil
  · intro m hm
    rcases List.mem_cons.mp hm with rfl | hm
    · exact List.isChain_cons_cons.mpr ⟨beq_iff_eq.mpr h, hchain _ List.mem_cons_self⟩
    · exact hchain m (List.mem_cons_of_mem _ hm)
  · cases rest with
    | nil => exact .singleton _
    | cons m rest =>
      obtain ⟨⟨_, hm, hlast⟩, hends⟩ := List.isChain_cons_cons.mp hends
      refine List.isChain_cons_cons.mpr ⟨⟨List.cons_ne_nil _ _, hm, ?_⟩, hends⟩
      rwa [List.getLast_cons (List.cons_ne_nil d run)]

/-- A component of the other kind makes a run of its own. -/
theorem runs_cons_of_ne {c d : Component} {cs run : List Component} {rest : List (List Component)}
    (hruns : runs cs = (d :: run) :: rest) (h : c.isExclusion ≠ d.isExclusion) :
    runs (c :: cs) = [c] :: (d :: run) :: rest := by
  have hcs : cs = d :: (run ++ rest.flatten) := (List.splitBy_eq_iff.mp hruns).1
  rw [← hruns, hcs]
  refine List.splitBy_append_cons (l := [c]) _ fun x hx => ?_
  obtain rfl : c = x := Option.some.inj hx
  exact beq_eq_false_iff_ne.mpr h

/-- Puts a component before runs: into the first of them, or as a run of its own. -/
def putBefore (c : Component) : List (List Component) → List (List Component)
  | (d :: run) :: rest =>
    if c.isExclusion = d.isExclusion then (c :: d :: run) :: rest else [c] :: (d :: run) :: rest
  | rest => [c] :: rest

theorem putBefore_cons (c d : Component) (run : List Component) (rest : List (List Component)) :
    putBefore c ((d :: run) :: rest) =
      if c.isExclusion = d.isExclusion then (c :: d :: run) :: rest
      else [c] :: (d :: run) :: rest := rfl

theorem runs_cons (c : Component) (cs : List Component) :
    runs (c :: cs) = putBefore c (runs cs) := by
  rcases hruns : runs cs with _ | ⟨_ | ⟨d, run⟩, rest⟩
  · rw [List.splitBy_eq_nil.mp hruns]
    rfl
  · have hmem : [] ∈ runs cs := by
      rw [hruns]
      exact List.mem_cons_self
    exact absurd hmem (List.nil_notMem_splitBy _ cs)
  · rw [putBefore_cons]
    split
    · next h => exact runs_cons_of_eq hruns h
    · next h => exact runs_cons_of_ne hruns h

theorem forall₂_perm_refl {α : Type} (bs : List (List α)) : List.Forall₂ List.Perm bs bs :=
  List.forall₂_same.mpr fun b _ => .refl b

theorem forall₂_perm_trans {α : Type} {as bs cs : List (List α)}
    (h : List.Forall₂ List.Perm as bs) (h' : List.Forall₂ List.Perm bs cs) :
    List.Forall₂ List.Perm as cs := by
  induction h generalizing cs with
  | nil => exact h'
  | cons hab _ ih =>
    obtain ⟨c, cs, hbc, hbcs, rfl⟩ := List.forall₂_cons_left_iff.mp h'
    exact .cons (hab.trans hbc) (ih hbcs)

/-- Of two components of one kind it does not matter which is put before runs first. -/
theorem putBefore_comm {c d : Component} (h : c.isExclusion = d.isExclusion)
    (rs : List (List Component)) :
    List.Forall₂ List.Perm (putBefore c (putBefore d rs)) (putBefore d (putBefore c rs)) := by
  have hswap : ∀ run rest,
      List.Forall₂ List.Perm ((c :: d :: run) :: rest) ((d :: c :: run) :: rest) :=
    fun run rest => .cons (.swap d c run) (forall₂_perm_refl rest)
  rcases rs with _ | ⟨_ | ⟨e, run⟩, rest⟩
  · simpa [putBefore, h] using hswap [] []
  · simpa [putBefore, h] using hswap [] ([] :: rest)
  · by_cases he : d.isExclusion = e.isExclusion
    · simpa [putBefore, h, he] using hswap (e :: run) rest
    · simpa [putBefore, h, he] using hswap [] ((e :: run) :: rest)

/-- A list that is permuted begins with a component of the same kind, so what is put before it
joins it again or does not. -/
theorem forall₂_perm_putBefore (c : Component) {rs rs' : List (List Component)} (hrs : Uniform rs)
    (h : List.Forall₂ List.Perm rs rs') :
    List.Forall₂ List.Perm (putBefore c rs) (putBefore c rs') := by
  cases h with
  | nil => exact forall₂_perm_refl _
  | @cons b b' rest rest' hb hrest =>
    rcases b with _ | ⟨d, run⟩
    · rw [List.nil_perm.mp hb]
      exact .cons (.refl _) (.cons (.refl _) hrest)
    · rcases b' with _ | ⟨d', run'⟩
      · cases hb.eq_nil
      · have hd' : d' ∈ d :: run := hb.symm.subset List.mem_cons_self
        have hkind := hrs _ List.mem_cons_self d List.mem_cons_self d' hd'
        rw [putBefore_cons, putBefore_cons, hkind]
        split
        · exact .cons (hb.cons c) hrest
        · exact .cons (.refl _) (.cons hb hrest)

theorem Exchanges.runs {cs cs' : List Component} (h : Exchanges cs cs') :
    List.Forall₂ List.Perm (runs cs) (runs cs') := by
  induction h with
  | refl cs => exact forall₂_perm_refl _
  | cons c _ ih =>
    rw [runs_cons, runs_cons]
    exact forall₂_perm_putBefore c (uniform_runs _) ih
  | swap cs h =>
    rw [runs_cons, runs_cons, runs_cons, runs_cons]
    exact putBefore_comm h _
  | trans _ _ ih₁ ih₂ => exact forall₂_perm_trans ih₁ ih₂

/-! ## From runs to a reordering -/

/-- Lists of one kind each, every one permuted in its place. -/
theorem exists_mayPrecede {bs bs' : List (List Component)} (h : List.Forall₂ List.Perm bs bs')
    (hbs : Uniform bs) (k : Nat) :
    ∃ ps : List (Component × Nat), ps.Perm (bs.flatten.zipIdx k) ∧
      ps.map (·.1) = bs'.flatten ∧ ps.Pairwise MayPrecede := by
  induction h generalizing k with
  | nil => exact ⟨[], .nil, rfl, .nil⟩
  | @cons b b' bs bs' hb _ ih =>
    obtain ⟨ps, hps, hmap, hpairwise⟩ :=
      ih (fun c hc => hbs c (List.mem_cons_of_mem b hc)) (k + b.length)
    have hplaced : List.Forall₂ (fun c p => c = p.1) b (b.zipIdx k) := by
      rw [← List.forall₂_map_right_iff, List.zipIdx_map_fst]
      exact List.forall₂_refl b
    obtain ⟨front, hfront, hperm⟩ := List.perm_comp_forall₂ hb.symm hplaced
    refine ⟨front ++ ps, ?_, ?_, List.pairwise_append.mpr ⟨?_, hpairwise, ?_⟩⟩
    · rw [List.flatten_cons, List.zipIdx_append]
      exact hperm.append hps
    · rw [← List.forall₂_map_right_iff, List.forall₂_eq_eq_eq] at hfront
      rw [List.map_append, List.flatten_cons, hmap, hfront]
    · refine List.pairwise_of_forall_mem_list fun p hp q hq => .inr ?_
      have hmem : ∀ r ∈ front, r.1 ∈ b := fun r hr =>
        List.fst_mem_of_mem_zipIdx (hperm.mem_iff.mp hr)
      exact hbs b List.mem_cons_self _ (hmem p hp) _ (hmem q hq)
    · intro p hp q hq
      have hlt := List.snd_lt_add_of_mem_zipIdx (hperm.mem_iff.mp hp)
      have hle := List.le_snd_of_mem_zipIdx (hps.mem_iff.mp hq)
      exact .inl (by omega)

/-- A reordering is a permutation inside each run, and no other. -/
theorem reordered_iff_runs (cs cs' : List Component) :
    Reordered cs cs' ↔ List.Forall₂ List.Perm (runs cs) (runs cs') := by
  refine ⟨fun h => h.exchanges.runs, fun h => ?_⟩
  have hmayPrecede := exists_mayPrecede h (uniform_runs cs) 0
  unfold runs at hmayPrecede
  rwa [List.flatten_splitBy, List.flatten_splitBy] at hmayPrecede

/-! ## Rearrangement -/

/-- Nothing is asked of a URL. -/
structure Component.Unconstrained (c : Component) : Prop where
  path : c.path = none
  query : c.query = none ∨ c.query = some (.values .empty)
  fragment : c.fragment = none

/-- Changes to the components of a rule set that do not show in what they decide. -/
inductive Rearranged : List Component → List Component → Prop
  | reordered {cs cs' : List Component} : Reordered cs cs' → Rearranged cs cs'
  | exclusions (cs : List Component) {es : List Component} :
      (∀ e ∈ es, e.isExclusion = true) → Rearranged cs (cs ++ es)
  | behind (cs : List Component) {c : Component} (ds es : List Component) :
      c.Unconstrained → Rearranged (cs ++ c :: ds) (cs ++ c :: es)
  | trans {cs ds es : List Component} : Rearranged cs ds → Rearranged ds es → Rearranged cs es

theorem Component.Unconstrained.meets {c : Component} (h : c.Unconstrained) (m : Answers)
    (r : Rules) (v : UrlView) : c.meets m r v = true := by
  unfold Component.meets Component.demands
  rw [h.path, h.fragment]
  rcases h.query with hquery | hquery <;> (rw [hquery]; rfl)

namespace Setting

theorem firstIncludes_exchanges {cs cs' : List Component} (h : Exchanges cs cs') (m : Answers)
    (s : Setting) (v : UrlView) : s.firstIncludes m v cs' = s.firstIncludes m v cs := by
  induction h with
  | refl cs => rfl
  | cons c _ ih => rw [firstIncludes_cons, firstIncludes_cons, ih]
  | swap cs h =>
    simp only [firstIncludes_cons, h]
    split <;> split <;> rfl
  | trans _ _ ih₁ ih₂ => rw [ih₂, ih₁]

/-- Exclusions alone decide for nothing. -/
theorem firstIncludes_exclusions {es : List Component} (h : ∀ e ∈ es, e.isExclusion = true)
    (m : Answers) (s : Setting) (v : UrlView) : s.firstIncludes m v es = false := by
  induction es with
  | nil => rfl
  | cons e es ih =>
    rw [firstIncludes_cons, h e List.mem_cons_self, ih fun e he => h e (List.mem_cons_of_mem _ he)]
    split <;> rfl

/-- What stands last shows only through what it decides by itself. -/
theorem firstIncludes_append_congr (m : Answers) (s : Setting) (v : UrlView)
    (cs : List Component) {ds es : List Component}
    (h : s.firstIncludes m v ds = s.firstIncludes m v es) :
    s.firstIncludes m v (cs ++ ds) = s.firstIncludes m v (cs ++ es) := by
  induction cs with
  | nil => exact h
  | cons c cs ih =>
    rw [List.cons_append, List.cons_append, firstIncludes_cons, firstIncludes_cons, ih]

theorem firstIncludes_rearranged {cs cs' : List Component} (h : Rearranged cs cs') (m : Answers)
    (s : Setting) (v : UrlView) : s.firstIncludes m v cs' = s.firstIncludes m v cs := by
  induction h with
  | reordered h => exact firstIncludes_exchanges h.exchanges m s v
  | exclusions cs h =>
    have hlast : s.firstIncludes m v _ = s.firstIncludes m v [] := firstIncludes_exclusions h m s v
    have hcongr := firstIncludes_append_congr m s v cs hlast
    rwa [List.append_nil] at hcongr
  | behind cs ds es h =>
    refine firstIncludes_append_congr m s v cs ?_
    rw [firstIncludes_cons, firstIncludes_cons, h.meets, if_pos rfl, if_pos rfl]
  | trans _ _ ih₁ ih₂ => rw [ih₂, ih₁]

end Setting

/-! ## Top theorem -/

namespace LinkSet

theorem value_appIds_rearranged {l l' : LinkSet} (h : l.Edited Rearranged l') (u : Url) :
    (l'.appIds u ()).value = (l.appIds u ()).value := by
  have hsame := fun s cs cs' (hcs : Rearranged cs cs') =>
    Setting.firstIncludes_rearranged hcs freshAnswers s u.view
  have hto := h.dropsTo u fun s cs cs' hcs hb => (hsame s cs cs' hcs).symm.trans hb
  have hfrom := h.symm.dropsTo u fun s cs' cs hcs hb => (hsame s cs cs' hcs).trans hb
  exact hto.sublist.antisymm hfrom.sublist

/-- **Only the order between inclusions and exclusions matters**: components permuted inside their
runs, exclusions put last, and anything put behind a component that every URL meets, leave the
identifiers as they are, without a cache and with the caches of any two sessions. -/
theorem appIds_of_rearranged :
    (∀ cs cs' : List Component, Reordered cs cs' ↔ List.Forall₂ List.Perm (runs cs) (runs cs')) ∧
    ∀ l l' : LinkSet, l.Edited Rearranged l' → ∀ (u : Url) (qs qs' : List Request),
      (l'.appIds u ()).value = (l.appIds u ()).value ∧
      (l'.appIdsBy Tester.cached u (l'.reached qs')).value =
        (l.appIdsBy Tester.cached u (l.reached qs)).value ∧
      (l.appIdsBy Tester.cached u (l.reached qs)).value = (l.appIds u ()).value := by
  refine ⟨reordered_iff_runs, fun l l' h u qs qs' => ?_⟩
  have hcached : ∀ (k : LinkSet) (rs : List Request),
      (k.appIdsBy Tester.cached u (k.reached rs)).value = (k.appIds u ()).value := by
    intro k rs
    rw [value_appIds_reached, value_appIds]
  rw [hcached, hcached]
  exact ⟨value_appIds_rearranged h u, value_appIds_rearranged h u, rfl⟩

/-- Two exclusions, of which one never compiles, and two inclusions change places, an exclusion of
everything comes last, and two components come behind one that asks for nothing. -/
theorem appIds_of_rearranged_help :
    let help : Component := { path := some "/help/*", exclude := some true }
    let broken : Component := { fragment := some "$(lang", exclude := some true }
    let shop : Component := { path := some "/shop/*" }
    let named : Component := { query := some (.name "id"), caseSensitive := some false }
    let all : Component := { path := some "*", exclude := some true }
    let l : LinkSet :=
      { details := [⟨["T.a"], [broken, help, shop, named], none⟩,
          ⟨["T.b", "T.a"], [help, {}], none⟩] }
    let l' : LinkSet :=
      { details := [⟨["T.a"], [help, broken, named, shop, all], none⟩,
          ⟨["T.b", "T.a"], [help, {}, all, shop], none⟩] }
    let u : Url := { scheme := "https", path := "/shop/x", query := some "id" }
    let qs : List Request := [.precompile]
    let qs' : List Request := [.appIds { u with path := "/help/x" }, .clear, .appIds u]
    l.Edited Rearranged l' ∧
      ((l'.appIds u ()).value = (l.appIds u ()).value ∧
        (l'.appIdsBy Tester.cached u (l'.reached qs')).value =
          (l.appIdsBy Tester.cached u (l.reached qs)).value ∧
        (l.appIdsBy Tester.cached u (l.reached qs)).value = (l.appIds u ()).value) ∧
      (l.appIds u ()).value = ["T.a", "T.b", "T.a"] ∧
      (l.appIds { u with path := "/help/x" } ()).value = [] := by
  intro help broken shop named all l l' u qs qs'
  have hreordered : Reordered [broken, help, shop, named] [help, broken, named, shop] :=
    ⟨[(help, 1), (broken, 0), (named, 3), (shop, 2)], by decide +kernel, rfl, by decide +kernel⟩
  have hlast : Rearranged [help, broken, named, shop] [help, broken, named, shop, all] :=
    .exclusions [help, broken, named, shop] (by decide)
  have hfirst : Rearranged [broken, help, shop, named] [help, broken, named, shop, all] :=
    .trans (.reordered hreordered) hlast
  have hsecond : Rearranged [help, {}] [help, {}, all, shop] :=
    .behind [help] [] [all, shop] ⟨rfl, .inl rfl, rfl⟩
  have hedited : l.Edited Rearranged l' :=
    ⟨rfl, rfl, .cons ⟨rfl, hfirst⟩ (.cons ⟨rfl, hsecond⟩ .nil)⟩
  exact ⟨hedited, appIds_of_rearranged.2 l l' hedited u qs qs', by decide +kernel⟩

/-- An exclusion that comes past an inclusion no longer excludes what both take. -/
example :
    let help : Component := { path := some "/help/*", exclude := some true }
    let all : Component := { path := some "*" }
    let u : Url := { scheme := "https", path := "/help/x" }
    (LinkSet.appIds { details := [⟨["T.a"], [help, all], none⟩] } u ()).value = [] ∧
      (LinkSet.appIds { details := [⟨["T.a"], [all, help], none⟩] } u ()).value = ["T.a"] := by
  decide +kernel

end LinkSet

end AppLinks
