import Mathlib.Data.Finset.Card
import AppLinks.Proofs.Matching.Alongside
import AppLinks.Proofs.Matching.Transparency

/-!
# A cache accounts for what it compiled

A run that compiles for every question reports a compilation for each.  The same run on a cache
reports the same decisions in between, and a compilation only where its key comes first; so there
is one entry for every key that was asked for, and one warning for every entry that failed.

    KeepsFirst [] fresh.state fresh.events run.events run.state.keys, for `fresh` the run that
      compiles for every question and `run` the one on a cache          (cached_run_keepsFirst)
    run.state.size = fresh.state.toFinset.card                          (KeepsFirst.length_eq_card)
-/

namespace AppLinks

/-! ## Keys of compilations -/

/-- Compiles for every question, as the direct tester does, and notes the key of each. -/
def Tester.noting : Tester (List CacheKey) := fun w r text => do
  Step.set ((← Step.get) ++ [CacheKey.of w r])
  Tester.direct w r text

namespace PatternCache

/-- The keys that are known, the newest first. -/
def keys (c : PatternCache) : List CacheKey := c.entries.map (·.1)

/-- How many of the known wildcards do not compile. -/
def failed (c : PatternCache) : Nat := c.entries.countP fun e => !e.2.isOk

theorem get?_eq_none_iff_not_mem_keys (c : PatternCache) (k : CacheKey) :
    c.get? k = none ↔ k ∉ c.keys := by
  unfold keys
  rw [get?_eq_none_iff, List.mem_map, not_exists]
  exact forall_congr' fun e => not_and.symm

theorem failed_add (c : PatternCache) (k : CacheKey) (p : Except PatternError Pattern) :
    (c.add k p).failed = c.failed + if (!p.isOk) = true then 1 else 0 :=
  List.countP_cons

end PatternCache

theorem Tester.noting_apply (w : String) (r : Rules) (text : String) (keys : List CacheKey) :
    Tester.noting w r text keys =
      ⟨takes (Pattern.compile w r) text, keys ++ [CacheKey.of w r],
        [.ofCompiling w (Pattern.compile w r)]⟩ := by
  unfold noting direct
  rw [Step.get_bind_apply]
  rw [Step.bind_apply, Step.bind_apply, compileReporting_apply]
  rfl

/-! ## Decisions and warnings -/

namespace Event

def isDecided : Event → Bool
  | .decided _ _ _ => true
  | _ => false

theorem isDecided_ofCompiling (w : String) (p : Except PatternError Pattern) :
    (ofCompiling w p).isDecided = false := by
  cases p <;> rfl

theorem isWarning_decided (i : Nat) (ids : List String) (excluded : Bool) :
    (decided i ids excluded).isWarning = false := by
  unfold isWarning line
  simp only [String.toList_append, List.append_assoc]
  rfl

/-- A compilation warns if it fails. -/
theorem isWarning_ofCompiling (w : String) (p : Except PatternError Pattern) :
    (ofCompiling w p).isWarning = !p.isOk := by
  cases p with
  | ok p =>
    unfold ofCompiling isWarning line
    simp only [String.toList_append, List.append_assoc]
    rfl
  | error e =>
    unfold ofCompiling isWarning line
    simp only [String.toList_append, List.append_assoc]
    rfl

end Event

/-! ## Kept events -/

/-- `kept` has the events of `full` except for those of compilations whose key came before: `keys`
are the keys of all compilations in `full`, in order, `seen` those that came before it and `seen'`
those that have come at its end, the newest first. -/
inductive KeepsFirst : (seen keys : List CacheKey) → (full kept : List Event) →
    (seen' : List CacheKey) → Prop
  | nil {seen : List CacheKey} : KeepsFirst seen [] [] [] seen
  | decided {seen keys seen' : List CacheKey} {full kept : List Event} {i : Nat}
      {ids : List String} {excluded : Bool} : KeepsFirst seen keys full kept seen' →
      KeepsFirst seen keys (.decided i ids excluded :: full) (.decided i ids excluded :: kept) seen'
  | first {k : CacheKey} {seen keys seen' : List CacheKey} {full kept : List Event}
      {p : Except PatternError Pattern} : k ∉ seen →
      KeepsFirst (k :: seen) keys full kept seen' →
      KeepsFirst seen (k :: keys) (.ofCompiling k.wildcard p :: full)
        (.ofCompiling k.wildcard p :: kept) seen'
  | again {k : CacheKey} {seen keys seen' : List CacheKey} {full kept : List Event}
      {p : Except PatternError Pattern} : k ∈ seen → KeepsFirst seen keys full kept seen' →
      KeepsFirst seen (k :: keys) (.ofCompiling k.wildcard p :: full) kept seen'

namespace KeepsFirst

theorem append {seen keys seen' keys' seen'' : List CacheKey} {full kept full' kept' : List Event}
    (h : KeepsFirst seen keys full kept seen') (h' : KeepsFirst seen' keys' full' kept' seen'') :
    KeepsFirst seen (keys ++ keys') (full ++ full') (kept ++ kept') seen'' := by
  induction h with
  | nil => exact h'
  | decided _ ih => exact .decided (ih h')
  | first hk _ ih => exact .first hk (ih h')
  | again hk _ ih => exact .again hk (ih h')

section
variable {seen keys seen' : List CacheKey} {full kept : List Event}

/-- Exactly the keys that come are added to those that came before. -/
theorem mem_iff (h : KeepsFirst seen keys full kept seen') (k : CacheKey) :
    k ∈ seen' ↔ k ∈ seen ∨ k ∈ keys := by
  induction h with
  | nil => simp
  | decided _ ih => exact ih
  | @first d seen keys _ _ _ _ _ _ ih =>
    rw [ih, List.mem_cons, List.mem_cons, or_assoc, or_left_comm]
  | @again d seen keys _ _ _ _ hd _ ih =>
    rw [ih, List.mem_cons]
    constructor
    · rintro (hk | hk)
      · exact .inl hk
      · exact .inr (.inr hk)
    · rintro (hk | rfl | hk)
      · exact .inl hk
      · exact .inl hd
      · exact .inr hk

theorem nodup (h : KeepsFirst seen keys full kept seen') (hseen : seen.Nodup) : seen'.Nodup := by
  induction h with
  | nil => exact hseen
  | decided _ ih => exact ih hseen
  | first hk _ ih => exact ih (List.nodup_cons.mpr ⟨hk, hseen⟩)
  | again _ _ ih => exact ih hseen

/-- Where none came before, as many have come at the end as there are different keys. -/
theorem length_eq_card (h : KeepsFirst [] keys full kept seen') :
    seen'.length = keys.toFinset.card := by
  have hsame : seen'.toFinset = keys.toFinset := by
    ext k
    rw [List.mem_toFinset, List.mem_toFinset, h.mem_iff k]
    simp
  rw [← hsame, List.toFinset_card_of_nodup (h.nodup List.nodup_nil)]

/-- No decision is left out or moved. -/
theorem filter_isDecided (h : KeepsFirst seen keys full kept seen') :
    kept.filter Event.isDecided = full.filter Event.isDecided := by
  induction h with
  | nil => rfl
  | decided _ ih =>
    rw [List.filter_cons_of_pos rfl, List.filter_cons_of_pos rfl, ih]
  | @first k _ _ _ _ _ p _ _ ih =>
    have hno : ¬ (Event.ofCompiling k.wildcard p).isDecided = true := by
      simp [Event.isDecided_ofCompiling]
    rw [List.filter_cons_of_neg hno, List.filter_cons_of_neg hno, ih]
  | @again k _ _ _ _ _ p _ _ ih =>
    have hno : ¬ (Event.ofCompiling k.wildcard p).isDecided = true := by
      simp [Event.isDecided_ofCompiling]
    rw [List.filter_cons_of_neg hno, ih]

end

end KeepsFirst

/-! ## Side by side -/

/-- Both report the same. -/
def Courses.sameEvents (σ τ : Type) : Courses σ τ where
  May _ es _ _ fs _ := es = fs
  rest _ _ := rfl
  follow h h' := by rw [h, h']
  decided _ _ _ _ _ := rfl

/-- On the left a cache, on the right the notes of what is compiled for every question. -/
def Courses.accounted : Courses PatternCache (List CacheKey) where
  May c es c' notes fs notes' :=
    (∃ keys, notes' = notes ++ keys ∧ KeepsFirst c.keys keys fs es c'.keys) ∧
      es.countP Event.isWarning + c.failed = c'.failed
  rest c notes := ⟨⟨[], (List.append_nil notes).symm, .nil⟩, Nat.zero_add _⟩
  follow := by
    rintro c es c' es' c'' notes fs _ fs' _ ⟨⟨keys, rfl, hkeeps⟩, hfailed⟩
      ⟨⟨keys', rfl, hkeeps'⟩, hfailed'⟩
    refine ⟨⟨keys ++ keys', List.append_assoc _ _ _, hkeeps.append hkeeps'⟩, ?_⟩
    rw [List.countP_append]
    omega
  decided c notes i ids excluded := by
    refine ⟨⟨[], (List.append_nil notes).symm, .decided .nil⟩, ?_⟩
    simp [Event.isWarning_decided]

theorem alongside_noting_direct (w : String) (r : Rules) (text : String) :
    Alongside (fun _ _ => True) (Courses.sameEvents (List CacheKey) Unit)
      (Tester.noting w r text) (Tester.direct w r text) := by
  intro keys u _
  rw [Tester.noting_apply]
  unfold Tester.direct
  rw [Step.bind_apply, compileReporting_apply]
  exact ⟨rfl, trivial, rfl⟩

theorem alongside_cached_noting (w : String) (r : Rules) (text : String) :
    Alongside (fun c _ => c.Faithful) Courses.accounted (Tester.cached w r text)
      (Tester.noting w r text) := by
  intro c notes hc
  rw [Tester.noting_apply]
  unfold Tester.cached
  rw [Step.bind_apply]
  -- a hit passes over what the notes report once more; a miss reports it, and warns if it fails
  cases h : c.get? (CacheKey.of w r) with
  | some p =>
    have hknown : CacheKey.of w r ∈ c.keys := by
      apply Classical.byContradiction
      intro hno
      rw [(c.get?_eq_none_iff_not_mem_keys _).mpr hno] at h
      cases h
    obtain rfl := hc w r p h
    rw [PatternCache.compile_of_hit h]
    exact ⟨rfl, hc, ⟨[CacheKey.of w r], rfl, .again hknown .nil⟩, Nat.zero_add _⟩
  | none =>
    have hnew : CacheKey.of w r ∉ c.keys := (c.get?_eq_none_iff_not_mem_keys _).mp h
    rw [PatternCache.compile_of_miss h]
    refine ⟨rfl, hc.add w r, ⟨[CacheKey.of w r], rfl, .first hnew .nil⟩, ?_⟩
    show List.countP Event.isWarning [.ofCompiling w (Pattern.compile w r)] + c.failed =
      (c.add (CacheKey.of w r) (Pattern.compile w r)).failed
    rw [PatternCache.failed_add, List.countP_cons, List.countP_nil, Event.isWarning_ofCompiling]
    omega

/-! ## Top theorem -/

/-- **A cache reports every compilation once.**  What a run on an empty cache reports is what the
same run reports when it compiles for every question, without the compilations whose key came
before; decisions are all kept.  There is one entry for each key that was asked for and one warning
for each entry that failed, and after clearing a run goes as from an empty cache. -/
theorem cached_run_keepsFirst (qs : List Question) :
    let fresh := (qs.mapM (Question.ask Tester.noting)) []
    let run := (qs.mapM (Question.ask Tester.cached)) .empty
    fresh.events = ((qs.mapM (Question.ask Tester.direct)) ()).events ∧
    KeepsFirst [] fresh.state fresh.events run.events run.state.keys ∧
    run.events.filter Event.isDecided = fresh.events.filter Event.isDecided ∧
    run.state.size = fresh.state.toFinset.card ∧
    run.events.countP Event.isWarning = run.state.failed ∧
    ∀ c, (PatternCache.clear >>= fun _ => qs.mapM (Question.ask Tester.cached)) c = run := by
  intro fresh run
  obtain ⟨-, -, hsame⟩ := alongside_asked alongside_noting_direct qs [] () trivial
  obtain ⟨-, -, ⟨keys, hkeys, hkeeps⟩, hfailed⟩ :=
    alongside_asked alongside_cached_noting qs .empty [] PatternCache.faithful_empty
  have hkeeps : KeepsFirst [] fresh.state fresh.events run.events run.state.keys := by
    rw [show fresh.state = keys from hkeys]
    exact hkeeps
  have hsize : run.state.size = run.state.keys.length := (List.length_map _).symm
  exact ⟨hsame, hkeeps, hkeeps.filter_isDecided, hsize.trans hkeeps.length_eq_card, hfailed,
    fun _ => rfl⟩

/-- Neither the percent flag nor a list that is not asked for makes another key; a failure is
remembered like any other outcome. -/
example :
    let r : Rules := { substitutions := .ofList [("x", ["a"])] }
    let r' : Rules := { percentEncoded := false,
                        substitutions := .ofList [("x", ["a"]), ("y", [])] }
    let qs : List Question :=
      [.test "$(x)" r "a", .test "$(y" r "a", .test "$(x)" r' "b", .test "$(y" r' "b"]
    let run := (qs.mapM (Question.ask Tester.cached)) .empty
    run.state.size = 2 ∧ run.events.length = 2 ∧ run.events.countP Event.isWarning = 1 := by
  decide +kernel

end AppLinks
