import AppLinks.Proofs.Matching.Asking
import AppLinks.Proofs.Matching.Failure
import AppLinks.Proofs.Wildcard.Error

/-!
# Wildcards that take no text

Every item of a pattern stands for some text, except a list without entries, which stands for none,
not even for the empty one.  Hence a pattern takes the text that is put together from one text for
each item, unless there is such a list among them; then there is no way to cut any text.  The other
wildcards that take nothing are those that do not compile, and compiling ahead names them.

    (∃ v, i.Spells v) ↔ i ≠ .words []                                    (Item.exists_spells_iff)
    (∃ text, p.accepts text = true) ↔ .words [] ∉ p.items               (exists_accepts_iff)
-/

namespace AppLinks

/-- Some closed token of a wildcard names a list that is given and has no entries. -/
def UsesEmptyList (s : Substitutions) (w : String) : Prop :=
  ∃ es name, Element.Reads w.toList es ∧ .token name ∈ es ∧ ¬ Reserved name ∧
    s.get? name = some []

/-! ## Items -/

theorem CharClass.exists_mem_members (k : CharClass) : ∃ c, c ∈ k.members := by
  cases k with
  | alpha => exact ⟨'a', by decide⟩
  | upper => exact ⟨'A', by decide⟩
  | lower => exact ⟨'a', by decide⟩
  | alnum => exact ⟨'a', by decide⟩
  | digit => exact ⟨'0', by decide⟩
  | xdigit => exact ⟨'0', by decide⟩

namespace Item

/-- A list without entries is the only item that stands for no text. -/
theorem exists_spells_iff (i : Item) : (∃ v, i.Spells v) ↔ i ≠ .words [] := by
  cases i with
  | one => exact iff_of_true ⟨['a'], 'a', rfl⟩ (by simp)
  | run => exact iff_of_true ⟨[], trivial⟩ (by simp)
  | anyOf k =>
    obtain ⟨c, hc⟩ := k.exists_mem_members
    exact iff_of_true ⟨[c], c, hc, rfl⟩ (by simp)
  | words ws =>
    cases ws with
    | nil =>
      refine iff_of_false ?_ (fun h => h rfl)
      rintro ⟨v, w, hw, -⟩
      cases hw
    | cons w ws => exact iff_of_true ⟨w.toList, w, List.mem_cons_self, rfl⟩ (by simp)
  | literal c => exact iff_of_true ⟨[c], rfl⟩ (by simp)

/-- The same of the texts that are admitted under rules. -/
theorem exists_admits_iff (i : Item) (r : Rules) : (∃ u, i.Admits r u) ↔ i ≠ .words [] := by
  rw [← exists_spells_iff]
  constructor
  · rintro ⟨u, v, hv, -⟩
    exact ⟨v, hv⟩
  · rintro ⟨v, hv⟩
    exact ⟨v, v, hv, List.forall₂_same.mpr fun c _ => r.same_refl c⟩

/-- What is built in is no list without entries. -/
theorem builtin?_ne_words_nil (name : String) : builtin? name ≠ some (.words []) := by
  have hregions : Locale.regions ≠ [] := List.cons_ne_nil _ _
  have hlanguages : Locale.languages ≠ [] := List.cons_ne_nil _ _
  unfold builtin?
  split
  · simp
  · split
    · simp [hregions]
    · split
      · simp [hlanguages]
      · simp

theorem ofToken?_eq_words_nil_iff (s : Substitutions) (name : String) :
    ofToken? s name = some (.words []) ↔ ¬ Reserved name ∧ s.get? name = some [] := by
  rw [← builtin?_eq_none_iff]
  unfold ofToken?
  have hbuiltin := builtin?_ne_words_nil name
  cases hb : builtin? name with
  | some i =>
    rw [hb] at hbuiltin
    simpa using hbuiltin
  | none => simp

end Item

/-! ## Patterns -/

theorem Element.resolve_eq_words_nil_iff {s : Substitutions} {n : Nat} {e : Element} :
    e.resolve s n = .ok (.words []) ↔
      ∃ name, .token name = e ∧ ¬ Reserved name ∧ s.get? name = some [] := by
  cases e with
  | token name =>
    simp only [← Item.ofToken?_eq_words_nil_iff, Element.token.injEq, exists_eq_left, resolve]
    cases Item.ofToken? s name with
    | some i => simp
    | none => simp
  | one => simp [resolve]
  | run => simp [resolve]
  | unclosed rest => simp [resolve]
  | literal c => simp [resolve]

/-- A list without entries comes from a token that names one. -/
theorem Element.words_nil_mem_iff {s : Substitutions} {n : Nat} {es : List Element}
    {is : List Item} (h : resolveFrom s n es = .ok is) :
    .words [] ∈ is ↔ ∃ name, .token name ∈ es ∧ ¬ Reserved name ∧ s.get? name = some [] := by
  have hall := forall₂_of_resolveFrom h
  clear h
  induction hall with
  | nil => simp
  | @cons e i es is he _ ih =>
    obtain ⟨m, he⟩ := he
    have hhead : .words [] = i ↔
        ∃ name, .token name = e ∧ ¬ Reserved name ∧ s.get? name = some [] := by
      rw [← resolve_eq_words_nil_iff (n := m), he, Except.ok.injEq, eq_comm]
    simp only [List.mem_cons, hhead, ih, or_and_right, exists_or]

namespace Pattern

/-- A pattern takes some text unless one of its items stands for none. -/
theorem exists_accepts_iff (p : Pattern) :
    (∃ text, p.accepts text = true) ↔ .words [] ∉ p.items := by
  let r : Rules := { caseSensitive := p.caseSensitive }
  have haccepts := accepts_iff_cutInto (p := p) (r := r) rfl
  calc (∃ text, p.accepts text = true)
      ↔ ∃ s, CutInto (Item.Admits r) p.items s := by
        constructor
        · rintro ⟨text, h⟩
          exact ⟨text.toList, (haccepts text).mp h⟩
        · rintro ⟨s, h⟩
          exact ⟨String.ofList s, (haccepts _).mpr (by rw [String.toList_ofList]; exact h)⟩
    _ ↔ ∀ i ∈ p.items, ∃ u, i.Admits r u := exists_cutInto_iff p.items
    _ ↔ ∀ i ∈ p.items, i ≠ .words [] :=
        forall₂_congr fun i _ => i.exists_admits_iff r
    _ ↔ .words [] ∉ p.items := List.forall_mem_ne'

/-- A wildcard that compiles takes some text unless it uses a list without entries. -/
theorem exists_accepts_iff_of_compile {w : String} {r : Rules} {p : Pattern}
    (h : compile w r = .ok p) :
    (∃ text, p.accepts text = true) ↔ ¬ UsesEmptyList r.substitutions w := by
  obtain ⟨items, hitems, -, rfl⟩ := (compile_eq_ok_iff w r p).mp h
  rw [exists_accepts_iff, Element.words_nil_mem_iff hitems, not_iff_not]
  constructor
  · rintro ⟨name, hname, hempty⟩
    exact ⟨_, name, Element.reads_of_resolveFrom hitems, hname, hempty⟩
  · rintro ⟨es, name, hes, hname, hempty⟩
    have hscan : Element.scan w = es := Element.scanFrom_eq_of_reads hes
    rw [hscan]
    exact ⟨name, hname, hempty⟩

end Pattern

/-! ## Testers -/

/-- Nothing is taken by a wildcard that does not compile or that uses a list without entries, and by
no other. -/
theorem freshAnswers_eq_false_iff (w : String) (r : Rules) :
    (∀ text, freshAnswers w r text = false) ↔
      (∃ e, Pattern.compile w r = .error e) ∨ UsesEmptyList r.substitutions w := by
  unfold freshAnswers
  cases h : Pattern.compile w r with
  | error e => simp [takes]
  | ok p =>
    have hempty := Pattern.exists_accepts_iff_of_compile h
    simp only [takes, reduceCtorEq, exists_false, false_or]
    rw [← not_iff_not, ← hempty]
    simp

namespace LinkSet

/-! ## Reports -/

/-- Wildcards of one component are read under the same rules. -/
theorem rules_eq_of_mem_occurrences {l : LinkSet} {o o' : Occurrence} (ho : o ∈ l.occurrences)
    (ho' : o' ∈ l.occurrences) (hi : o.ruleSet = o'.ruleSet) (hj : o.component = o'.component) :
    o.rules = o'.rules := by
  obtain ⟨rs, c, hrs, hc, -, hr⟩ := mem_occurrences_iff.mp ho
  obtain ⟨rs', c', hrs', hc', -, hr'⟩ := mem_occurrences_iff.mp ho'
  rw [hi, hrs'] at hrs
  cases hrs
  rw [hj, hc'] at hc
  cases hc
  rw [hr, hr']

/-- What is reported at the indices of an occurrence for its wildcard is how it fails. -/
theorem failure_mem_iff {l : LinkSet} {o : Occurrence} (ho : o ∈ l.occurrences)
    (e : PatternError) :
    o.failure e ∈ l.occurrences.filterMap Occurrence.failure? ↔
      Pattern.compile o.wildcard o.rules = .error e := by
  rw [List.mem_filterMap]
  constructor
  · rintro ⟨o', ho', hfails⟩
    -- the report may be that of another slot of the component, with the same wildcard
    unfold Occurrence.failure? at hfails
    split at hfails
    · cases hfails
    · next e' he' =>
      obtain ⟨hi, hj, hw, he⟩ := PatternFailure.mk.inj (Option.some.inj hfails)
      rw [← hw, rules_eq_of_mem_occurrences ho ho' hi.symm hj.symm, he', he]
  · intro h
    refine ⟨o, ho, ?_⟩
    unfold Occurrence.failure?
    rw [h]

end LinkSet

/-! ## Top theorem -/

/-- **A wildcard takes no text if it does not compile, and else exactly if it uses a list without
entries**, from any cache.  Of the wildcards of a link set, those that take nothing are the ones that
compiling ahead reports and the ones that use such a list. -/
theorem takes_nothing_iff :
    (∀ (w : String) (r : Rules),
      (∀ e, Pattern.compile w r = .error e → ∀ text,
        (Tester.direct w r text ()).value = false ∧
          ∀ qs, (Tester.cached w r text (PatternCache.reached qs)).value = false) ∧
      ∀ p, Pattern.compile w r = .ok p →
        ((∃ text, p.accepts text = true) ↔ ¬ UsesEmptyList r.substitutions w) ∧
          ∀ text, (Tester.direct w r text ()).value = p.accepts text ∧
            ∀ qs, (Tester.cached w r text (PatternCache.reached qs)).value = p.accepts text) ∧
    ∀ (l : LinkSet) (qs : List LinkSet.Request), ∀ o ∈ l.occurrences,
      (∀ text, (Tester.cached o.wildcard o.rules text (l.reached qs)).value = false) ↔
        (∃ e, o.failure e ∈ (l.precompile (l.reached qs)).value) ∨
          UsesEmptyList o.rules.substitutions o.wildcard := by
  refine ⟨fun w r => ⟨?_, ?_⟩, ?_⟩
  · intro e he text
    have htakes : freshAnswers w r text = false := by
      unfold freshAnswers
      rw [he]
      rfl
    rw [Tester.value_direct]
    exact ⟨htakes, fun qs =>
      (Tester.value_cached (PatternCache.faithful_reached qs) w r text).trans htakes⟩
  · intro p hp
    refine ⟨Pattern.exists_accepts_iff_of_compile hp, fun text => ?_⟩
    have htakes : freshAnswers w r text = p.accepts text := by
      unfold freshAnswers
      rw [hp]
      rfl
    rw [Tester.value_direct]
    exact ⟨htakes, fun qs =>
      (Tester.value_cached (PatternCache.faithful_reached qs) w r text).trans htakes⟩
  · intro l qs o ho
    simp only [Tester.value_cached (l.faithful_reached qs), freshAnswers_eq_false_iff,
      l.value_precompile_reached, LinkSet.failure_mem_iff ho]

/-- A list without entries takes nothing where one with the empty text takes it, and an open token
takes nothing either. -/
theorem takes_nothing_of_empty_list :
    let s : Substitutions := .ofList [("none", []), ("blank", [""])]
    let r : Rules := { substitutions := s }
    let l : LinkSet :=
      { substitutions := some s,
        details :=
          [{ appIds := ["T.app"],
             components := [{ path := some "/a*$(none)", fragment := some "$(lang" }] }] }
    Pattern.compile "a*$(none)" r = .ok ⟨true, [.literal 'a', .run, .words []]⟩ ∧
      (∀ text, Pattern.accepts ⟨true, [.literal 'a', .run, .words []]⟩ text = false) ∧
      Pattern.compile "a*$(blank)" r = .ok ⟨true, [.literal 'a', .run, .words [""]]⟩ ∧
      ¬ UsesEmptyList s "a*$(blank)" ∧
      Pattern.compile "$(lang" r = .error (.unterminatedToken 0) ∧
      (∀ text, (Tester.direct "$(lang" r text ()).value = false) ∧
      ⟨0, 0, "a*$(none)", r⟩ ∈ l.occurrences ∧
      (∀ text, (Tester.cached "a*$(none)" r text (l.reached [.precompile])).value = false) := by
  intro s r l
  have hnone : Pattern.compile "a*$(none)" r = .ok ⟨true, [.literal 'a', .run, .words []]⟩ :=
    (Pattern.compile_eq_ok_iff _ _ _).mpr ⟨_, rfl, by decide, rfl⟩
  have hblank : Pattern.compile "a*$(blank)" r = .ok ⟨true, [.literal 'a', .run, .words [""]]⟩ :=
    (Pattern.compile_eq_ok_iff _ _ _).mpr ⟨_, rfl, by decide, rfl⟩
  have hopen : Pattern.compile "$(lang" r = .error (.unterminatedToken 0) := rfl
  have hreads : Element.Reads "a*$(none)".toList (Element.scan "a*$(none)") :=
    @Element.reads_of_resolveFrom s _ [.literal 'a', .run, .words []] rfl
  have huses : UsesEmptyList s "a*$(none)" :=
    ⟨_, "none", hreads, by decide +kernel, (Item.builtin?_eq_none_iff _).mp (by decide), rfl⟩
  have hmem : ⟨0, 0, "a*$(none)", r⟩ ∈ l.occurrences :=
    LinkSet.mem_occurrences_iff.mpr ⟨_, _, rfl, rfl, by decide +kernel, rfl⟩
  refine ⟨hnone, ?_, hblank, ?_, hopen, ?_, hmem, ?_⟩
  · intro text
    refine Bool.eq_false_iff.mpr fun htext => ?_
    exact ((takes_nothing_iff.1 _ r).2 _ hnone).1.mp ⟨text, htext⟩ huses
  · exact ((takes_nothing_iff.1 _ r).2 _ hblank).1.mp ⟨"a", by decide +kernel⟩
  · exact fun text => ((takes_nothing_iff.1 _ r).1 _ hopen text).1
  · exact (takes_nothing_iff.2 l [.precompile] _ hmem).mpr (Or.inr huses)

end AppLinks
