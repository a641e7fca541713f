import Mathlib.Data.List.Forall2
import AppLinks.Proofs.Matching.Asking
import AppLinks.Proofs.Matching.Transparency

/-!
# Link sets that work alike

Of a component a session sees the demands it makes, whether it excludes, and the keys under which
its wildcards are looked up.  Link sets that agree in these, component by component, are
interchangeable: every request is one and the same step on both, so a session shows the same
answers on both and leaves the same number of known wildcards after each.

    l.Interchangeable l' → l.answer q = l'.answer q                (Interchangeable.answer_eq)
    l.Interchangeable l' → l.transcript qs = l'.transcript qs      (Interchangeable.transcript_eq)
-/

namespace AppLinks

/-! ## Rules with one key -/

/-- Rules that give a wildcard one key compile it in the same step. -/
theorem PatternCache.compile_congr {w : String} {r r' : Rules}
    (h : CacheKey.of w r = CacheKey.of w r') : compile w r = compile w r' := by
  funext c
  cases hc : c.get? (CacheKey.of w r) with
  | some p => rw [compile_of_hit hc, compile_of_hit (h ▸ hc)]
  | none =>
    rw [compile_of_miss hc, compile_of_miss (h ▸ hc), h, compile_eq_of_key_eq h]

theorem Tester.cached_congr {w : String} {r r' : Rules}
    (h : CacheKey.of w r = CacheKey.of w r') : Tester.cached w r = Tester.cached w r' := by
  funext text
  unfold cached
  rw [PatternCache.compile_congr h]

/-! ## Components -/

theorem Demand.allMet_congr {σ : Type} {test : Tester σ} {r r' : Rules} {ds : List Demand}
    (h : ∀ w text, Demand.fits w text ∈ ds → test w r text = test w r' text) :
    allMet test r ds = allMet test r' ds := by
  induction ds with
  | nil => rfl
  | cons d ds ih =>
    cases d with
    | missing => rfl
    | fits w text =>
      unfold allMet
      rw [h w text List.mem_cons_self, ih fun w text hd => h w text (List.mem_cons_of_mem _ hd)]

/-- Two components, each in its setting, make the same demands with the same effect, and their
wildcards have the same keys. -/
structure Component.Interchangeable (s s' : Setting) (c c' : Component) : Prop where
  demands : ∀ v, c.demands v = c'.demands v
  wildcards : c.wildcards = c'.wildcards
  isExclusion : c.isExclusion = c'.isExclusion
  keys : ∀ w ∈ c.wildcards, CacheKey.of w (s.rules c) = CacheKey.of w (s'.rules c')

theorem Component.Interchangeable.decide_eq {s s' : Setting} {c c' : Component}
    (h : Component.Interchangeable s s' c c') (v : UrlView) :
    c.decide Tester.cached (s.rules c) v = c'.decide Tester.cached (s'.rules c') v := by
  have hmet : Demand.allMet Tester.cached (s.rules c) (c.demands v) =
      Demand.allMet Tester.cached (s'.rules c') (c.demands v) := by
    apply Demand.allMet_congr
    intro w text hd
    rw [Tester.cached_congr (h.keys w (mem_wildcards_of_mem_demands hd))]
  unfold decide verdict
  rw [hmet, h.demands v, h.isExclusion]

/-! ## Link sets -/

/-- Rule sets of two link sets that stand for the same apps by interchangeable components. -/
structure RuleSet.Interchangeable (l l' : LinkSet) (r r' : RuleSet) : Prop where
  appIds : r.appIds = r'.appIds
  components : List.Forall₂ (Component.Interchangeable (l.setting r) (l'.setting r'))
    r.components r'.components

namespace LinkSet

def Interchangeable (l l' : LinkSet) : Prop :=
  List.Forall₂ (RuleSet.Interchangeable l l') l.details l'.details

theorem Interchangeable.appIdsBy_eq {l l' : LinkSet} (h : l.Interchangeable l') (u : Url) :
    l.appIdsBy Tester.cached u = l'.appIdsBy Tester.cached u := by
  refine collect_congr (h.imp fun r r' hr => ⟨hr.appIds, ?_⟩)
  unfold RuleSet.holds
  rw [← hr.appIds]
  have hdecide := hr.components.imp fun c c' hc => hc.decide_eq u.view
  exact Component.anyMatches_congr hdecide r.appIds 0

/-! ## Compiling ahead -/

/-- Two occurrences stand at one place with one wildcard and one key. -/
structure Occurrence.Same (o o' : Occurrence) : Prop where
  ruleSet : o.ruleSet = o'.ruleSet
  component : o.component = o'.component
  wildcard : o.wildcard = o'.wildcard
  key : CacheKey.of o.wildcard o.rules = CacheKey.of o'.wildcard o'.rules

theorem compileAll_eq_of_same {os os' : List Occurrence}
    (h : List.Forall₂ Occurrence.Same os os') : compileAll os = compileAll os' := by
  induction h with
  | nil => rfl
  | @cons o o' os os' ho _ ih =>
    obtain ⟨i, j, w, r⟩ := o
    obtain ⟨i', j', w', r'⟩ := o'
    obtain ⟨rfl, rfl, rfl, hkey⟩ := ho
    show (PatternCache.compile w r >>= fun p => _) = (PatternCache.compile w r' >>= fun p => _)
    rw [PatternCache.compile_congr hkey, ih]
    rfl

theorem forall₂_zipIdx {α β : Type} {R : α → β → Prop} {as : List α} {bs : List β}
    (h : List.Forall₂ R as bs) (n : Nat) :
    List.Forall₂ (fun a b => R a.1 b.1 ∧ a.2 = b.2) (as.zipIdx n) (bs.zipIdx n) := by
  induction h generalizing n with
  | nil => exact .nil
  | cons hab _ ih => exact .cons ⟨hab, rfl⟩ (ih (n + 1))

/-- Interchangeable link sets have the same wildcards at the same places. -/
theorem Interchangeable.occurrences {l l' : LinkSet} (h : l.Interchangeable l') :
    List.Forall₂ Occurrence.Same l.occurrences l'.occurrences := by
  refine List.rel_flatMap (forall₂_zipIdx h 0) ?_
  rintro ⟨r, i⟩ ⟨r', _⟩ ⟨hr, rfl⟩
  refine List.rel_flatMap (forall₂_zipIdx hr.components 0) ?_
  rintro ⟨c, j⟩ ⟨c', _⟩ ⟨hc, rfl⟩
  unfold occurrencesIn
  rw [List.forall₂_map_left_iff, List.forall₂_map_right_iff, ← hc.wildcards, List.forall₂_same]
  exact fun w hw => ⟨rfl, rfl, rfl, hc.keys w hw⟩

/-! ## Requests -/

/-- Whatever is asked, interchangeable link sets answer in the same step. -/
theorem Interchangeable.answer_eq {l l' : LinkSet} (h : l.Interchangeable l') (q : Request) :
    l.answer q = l'.answer q := by
  cases q with
  | appIds u => simp only [answer, h.appIdsBy_eq u]
  | precompile =>
    have hcompile : l.precompile = l'.precompile := compileAll_eq_of_same h.occurrences
    simp only [answer, hcompile]
  | clear => rfl

/-- Answers a request and tells how many wildcards are known after it. -/
def answerAndSize (l : LinkSet) (q : Request) : Step PatternCache (Answer × Nat) := do
  let a ← l.answer q
  return (a, (← Step.get).size)

/-- What a session that begins with nothing known shows, request by request. -/
def transcript (l : LinkSet) (qs : List Request) : List (Answer × Nat) :=
  ((qs.mapM l.answerAndSize) .empty).value

theorem Interchangeable.transcript_eq {l l' : LinkSet} (h : l.Interchangeable l')
    (qs : List Request) : l.transcript qs = l'.transcript qs := by
  have hstep : l.answerAndSize = l'.answerAndSize := by
    funext q
    unfold answerAndSize
    rw [h.answer_eq q]
  unfold transcript
  rw [hstep]

end LinkSet

end AppLinks
