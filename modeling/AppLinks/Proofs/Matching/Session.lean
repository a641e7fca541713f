import AppLinks.Matching.Session
import AppLinks.Proofs.Matching.Transparency

/-!
# Sessions answer as if they began afresh

A session works on one link set with one cache.  Compiling ahead, like matching, only asks the
cache for wildcards, so every request is answered from a faithful cache and leaves one.

    ((qs.mapM d.linkSet.answer) .empty).value = qs.map d.answerAfresh     (answers_eq_afresh)
-/

namespace AppLinks

namespace LinkSet

/-! ## Compiling ahead -/

/-- The failure that an occurrence makes if its wildcard does not compile. -/
def Occurrence.failure? (o : Occurrence) : Option PatternFailure :=
  match Pattern.compile o.wildcard o.rules with
  | .ok _ => none
  | .error e => some (o.failure e)

theorem yields_compileAll (os : List Occurrence) :
    Yields PatternCache.Faithful (compileAll os) (os.filterMap Occurrence.failure?) := by
  induction os with
  | nil => exact yields_pure []
  | cons o os ih =>
    refine (PatternCache.yields_compile o.wildcard o.rules).bind (ih.bind ?_)
    rw [List.filterMap_cons]
    unfold Occurrence.failure?
    cases Pattern.compile o.wildcard o.rules with
    | ok p => exact yields_pure _
    | error e => exact yields_pure _

theorem yields_precompile (l : LinkSet) :
    Yields PatternCache.Faithful l.precompile (l.occurrences.filterMap Occurrence.failure?) :=
  yields_compileAll l.occurrences

/-! ## Requests -/

/-- The answer to a request from any faithful cache. -/
def answerOf (l : LinkSet) : Request → Answer
  | .appIds u => .appIds (l.idsBy freshAnswers u.view)
  | .precompile => .failures (l.occurrences.filterMap Occurrence.failure?)
  | .clear => .cleared

theorem yields_answer (l : LinkSet) (q : Request) :
    Yields PatternCache.Faithful (l.answer q) (l.answerOf q) := by
  cases q with
  | appIds u => exact (yields_appIdsBy cached_gives l u).bind (yields_pure _)
  | precompile => exact (yields_precompile l).bind (yields_pure _)
  | clear => exact PatternCache.yields_clear.bind (yields_pure _)

theorem value_precompile_empty (l : LinkSet) :
    (l.precompile .empty).value = l.occurrences.filterMap Occurrence.failure? :=
  (yields_precompile l .empty PatternCache.faithful_empty).1

end LinkSet

namespace Document

/-- The link section of a document, or what its absence stands for, ties the same identifiers. -/
theorem value_appIds (d : Document) (u : Url) :
    (d.appIds u ()).value = d.linkSet.idsBy freshAnswers u.view := by
  unfold appIds linkSet
  cases d.applinks with
  | none => rfl
  | some l => exact LinkSet.value_appIds l u

/-- The answer to a request when nothing came before it. -/
def answerAfresh (d : Document) : LinkSet.Request → LinkSet.Answer
  | .appIds u => .appIds (d.appIds u ()).value
  | .precompile => .failures (d.linkSet.precompile .empty).value
  | .clear => .cleared

theorem answerAfresh_eq (d : Document) (q : LinkSet.Request) :
    d.answerAfresh q = d.linkSet.answerOf q := by
  cases q with
  | appIds u =>
    show LinkSet.Answer.appIds _ = LinkSet.Answer.appIds _
    rw [value_appIds]
  | precompile =>
    show LinkSet.Answer.failures _ = LinkSet.Answer.failures _
    rw [LinkSet.value_precompile_empty]
  | clear => rfl

/-! ## Top theorem -/

/-- **No answer of a session depends on what was asked before it**; identifiers are those of the
document and of its link section. -/
theorem answers_eq_afresh (d : Document) (qs : List LinkSet.Request) :
    ((qs.mapM d.linkSet.answer) .empty).value = qs.map d.answerAfresh ∧
      ∀ u, (d.appIds u ()).value =
        match d.applinks with
        | some l => (l.appIds u ()).value
        | none => [] := by
  constructor
  · have hrun := yields_mapM qs (fun q _ => LinkSet.yields_answer d.linkSet q)
    rw [(hrun .empty PatternCache.faithful_empty).1]
    exact List.map_congr_left fun q _ => (answerAfresh_eq d q).symm
  · intro u
    unfold appIds
    cases d.applinks with
    | none => rfl
    | some l => rfl

end Document

end AppLinks
