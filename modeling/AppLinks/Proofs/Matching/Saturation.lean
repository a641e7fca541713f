import Mathlib.Data.Finset.Card
import AppLinks.CommandLine.Run
import AppLinks.Proofs.Document.RoundTrip
import AppLinks.Proofs.Matching.Asking
import AppLinks.Proofs.Matching.Failure

/-!
# Compiling ahead fills the cache

The key of a wildcard that stands in a link set is decided by its text and by whether case counts,
because all of its rules have one map of lists.  So the cache of a session never holds more entries
than there are such pairs, compiling ahead makes it hold one for each, and after that every wildcard
that is asked for is found.

    l.Asks w r → PatternCache.compile w r c = ⟨p, c, []⟩, for some p, if c is saturated
    (l.precompile c).state is saturated                                  (saturated_precompile)
    c.size ≤ l.readings.toFinset.card, with equality if c is saturated   (size_le, size_eq)
-/

namespace AppLinks

/-! ## Readings -/

/-- The text of a key and whether case counts. -/
def CacheKey.reading (k : CacheKey) : String × Bool := (k.wildcard, k.caseSensitive)

namespace LinkSet

/-- Every wildcard of a link set as it is compiled, and whether case counts for it. -/
def readings (l : LinkSet) : List (String × Bool) :=
  l.details.flatMap fun rs => rs.components.flatMap fun c =>
    c.wildcards.map fun w => (w, (l.rulesFor rs c).caseSensitive)

theorem mem_readings_iff (l : LinkSet) (x : String × Bool) :
    x ∈ l.readings ↔ ∃ w r, l.Asks w r ∧ x = (w, r.caseSensitive) := by
  unfold readings
  constructor
  · intro h
    obtain ⟨rs, hrs, h⟩ := List.mem_flatMap.mp h
    obtain ⟨c, hc, h⟩ := List.mem_flatMap.mp h
    obtain ⟨w, hw, rfl⟩ := List.mem_map.mp h
    refine ⟨w, (l.setting rs).rules c, ⟨rs, hrs, c, hc, hw, rfl⟩, ?_⟩
    rw [l.rules_setting rs c]
  · rintro ⟨w, r, ⟨rs, hrs, c, hc, hw, rfl⟩, rfl⟩
    refine List.mem_flatMap.mpr ⟨rs, hrs, List.mem_flatMap.mpr ⟨c, hc, ?_⟩⟩
    refine List.mem_map.mpr ⟨w, hw, ?_⟩
    rw [l.rules_setting rs c]

/-- The rules that are asked under all have the lists of the link set. -/
theorem Asks.substitutions {l : LinkSet} {w : String} {r : Rules} (h : l.Asks w r) :
    r.substitutions = l.substitutions.getD .empty := by
  obtain ⟨rs, -, c, -, -, rfl⟩ := h
  rfl

/-- In one link set a reading decides the key. -/
theorem Asks.key_eq {l : LinkSet} {w w' : String} {r r' : Rules} (h : l.Asks w r)
    (h' : l.Asks w' r') (hreading : (w, r.caseSensitive) = (w', r'.caseSensitive)) :
    CacheKey.of w r = CacheKey.of w' r' := by
  obtain ⟨hw, hcase⟩ := Prod.mk.inj hreading
  unfold CacheKey.of
  rw [hw, hcase, h.substitutions, h'.substitutions]

end LinkSet

namespace PatternCache

/-! ## Entries -/

/-- Every entry was asked for by the link set, each reading once. -/
structure Within (l : LinkSet) (c : PatternCache) : Prop where
  asked : ∀ e ∈ c.entries, ∃ w r, l.Asks w r ∧ e.1 = CacheKey.of w r
  nodup : (c.entries.map (·.1.reading)).Nodup

/-- Every wildcard of the link set is known. -/
def Saturated (l : LinkSet) (c : PatternCache) : Prop :=
  ∀ w r, l.Asks w r → (c.get? (CacheKey.of w r)).isSome = true

section
variable {l : LinkSet} {c : PatternCache}

theorem within_empty (l : LinkSet) : Within l .empty :=
  ⟨fun _ he => absurd he List.not_mem_nil, List.nodup_nil⟩

theorem Within.add (h : Within l c) {w : String} {r : Rules} (hasks : l.Asks w r)
    (hnone : c.get? (CacheKey.of w r) = none) (p : Except PatternError Pattern) :
    Within l (c.add (CacheKey.of w r) p) := by
  constructor
  · intro e he
    rcases List.mem_cons.mp he with rfl | he
    · exact ⟨w, r, hasks, rfl⟩
    · exact h.asked e he
  · show ((CacheKey.of w r).reading :: c.entries.map (·.1.reading)).Nodup
    refine List.nodup_cons.mpr ⟨?_, h.nodup⟩
    intro hmem
    obtain ⟨e, he, hreading⟩ := List.mem_map.mp hmem
    obtain ⟨w', r', hasks', hkey⟩ := h.asked e he
    rw [hkey] at hreading
    have hsame : CacheKey.of w' r' = CacheKey.of w r := hasks'.key_eq hasks hreading
    exact (get?_eq_none_iff c _).mp hnone e he (by rw [hkey, hsame])

theorem keeps_within {w : String} {r : Rules} (hasks : l.Asks w r) :
    Keeps (Within l) (fun _ => True) (compile w r) := by
  intro c hc
  refine ⟨?_, fun _ _ => trivial⟩
  cases h : c.get? (CacheKey.of w r) with
  | some p =>
    rw [compile_of_hit h]
    exact hc
  | none =>
    rw [compile_of_miss h]
    exact hc.add hasks h _

/-! ## Counting -/

theorem Within.readings_subset (h : Within l c) :
    (c.entries.map (·.1.reading)).toFinset ⊆ l.readings.toFinset := by
  intro x hx
  obtain ⟨e, he, rfl⟩ := List.mem_map.mp (List.mem_toFinset.mp hx)
  obtain ⟨w, r, hasks, hkey⟩ := h.asked e he
  rw [List.mem_toFinset, l.mem_readings_iff]
  exact ⟨w, r, hasks, by rw [hkey]; rfl⟩

theorem Within.card_eq_size (h : Within l c) :
    (c.entries.map (·.1.reading)).toFinset.card = c.size := by
  rw [List.toFinset_card_of_nodup h.nodup, List.length_map]
  rfl

/-- There are no more entries than different readings. -/
theorem Within.size_le (h : Within l c) : c.size ≤ l.readings.toFinset.card := by
  rw [← h.card_eq_size]
  exact Finset.card_le_card h.readings_subset

/-- A saturated cache has an entry for every reading. -/
theorem Within.size_eq (h : Within l c) (hfull : Saturated l c) :
    c.size = l.readings.toFinset.card := by
  have hall : l.readings.toFinset ⊆ (c.entries.map (·.1.reading)).toFinset := by
    intro x hx
    obtain ⟨w, r, hasks, rfl⟩ := (l.mem_readings_iff x).mp (List.mem_toFinset.mp hx)
    have hsome := hfull w r hasks
    rw [List.mem_toFinset, List.mem_map]
    apply Classical.byContradiction
    intro hno
    have hnone : c.get? (CacheKey.of w r) = none := by
      rw [get?_eq_none_iff]
      intro e he hkey
      exact hno ⟨e, he, by rw [hkey]; rfl⟩
    rw [hnone] at hsome
    cases hsome
  rw [← h.card_eq_size, Finset.Subset.antisymm h.readings_subset hall]

/-! ## Compiling ahead -/

/-- What is known stays known. -/
theorem keeps_known (k : CacheKey) (w : String) (r : Rules) :
    Keeps (fun c => (c.get? k).isSome = true) (fun _ => True) (compile w r) := by
  intro c hc
  refine ⟨?_, fun _ _ => trivial⟩
  cases h : c.get? (CacheKey.of w r) with
  | some p =>
    rw [compile_of_hit h]
    exact hc
  | none =>
    rw [compile_of_miss h]
    show ((c.add (CacheKey.of w r) (Pattern.compile w r)).get? k).isSome = true
    rw [get?_add]
    split
    · rfl
    · exact hc

theorem known_of_compile (w : String) (r : Rules) (c : PatternCache) :
    ((compile w r c).state.get? (CacheKey.of w r)).isSome = true := by
  cases h : c.get? (CacheKey.of w r) with
  | some p =>
    rw [compile_of_hit h, h]
    rfl
  | none =>
    rw [compile_of_miss h]
    show ((c.add (CacheKey.of w r) (Pattern.compile w r)).get? (CacheKey.of w r)).isSome = true
    rw [get?_add, if_pos rfl]
    rfl

theorem known_of_compileAll {os : List LinkSet.Occurrence} {o : LinkSet.Occurrence} (ho : o ∈ os)
    (c : PatternCache) :
    ((LinkSet.compileAll os c).state.get? (CacheKey.of o.wildcard o.rules)).isSome = true := by
  induction os generalizing c with
  | nil => exact absurd ho List.not_mem_nil
  | cons o' os ih =>
    have hstate : (LinkSet.compileAll (o' :: os) c).state =
        (LinkSet.compileAll os (compile o'.wildcard o'.rules c).state).state := by
      rw [LinkSet.compileAll, Step.state_bind, Step.state_bind]
      cases (compile o'.wildcard o'.rules c).value <;> rfl
    rw [hstate]
    rcases List.mem_cons.mp ho with rfl | ho
    · have hrest : Keeps (fun c => (c.get? (CacheKey.of o.wildcard o.rules)).isSome = true)
          (fun _ => True) (LinkSet.compileAll os) :=
        LinkSet.keeps_compileAll fun o' _ => keeps_known _ o'.wildcard o'.rules
      exact (hrest _ (known_of_compile o.wildcard o.rules c)).1
    · exact ih ho _

theorem saturated_precompile (l : LinkSet) (c : PatternCache) :
    Saturated l (l.precompile c).state := by
  intro w r hasks
  obtain ⟨o, ho, rfl, rfl⟩ := LinkSet.exists_occurrence_of_asks hasks
  exact known_of_compileAll ho c

/-- In a saturated cache every wildcard is found, and nothing is added or reported. -/
theorem keeps_saturated (hfull : Saturated l c) {w : String} {r : Rules} (hasks : l.Asks w r)
    (E : Event → Prop) : Keeps (· = c) E (compile w r) := by
  rintro _ rfl
  obtain ⟨p, hp⟩ := Option.isSome_iff_exists.mp (hfull w r hasks)
  rw [compile_of_hit hp]
  exact ⟨rfl, fun e he => absurd he List.not_mem_nil⟩

end

end PatternCache

/-! ## Sessions -/

theorem Command.load_of_decodeBytes {files : Files} {file : String} {bytes : List UInt8}
    {d : Document} (hfile : files file = .ok bytes) (h : Document.decodeBytes bytes = .ok d) :
    load files file = .ok d := by
  unfold load
  simp only [hfile, h]
  rfl

/-- The event tells how a component decided, and nothing of a compilation. -/
def Event.IsDecision (e : Event) : Prop :=
  ∃ i ids excluded, e = .decided i ids excluded

namespace LinkSet

theorem within_reached (l : LinkSet) (qs : List Request) :
    PatternCache.Within l (l.reached qs) := by
  have hkeeps : Keeps (PatternCache.Within l) (fun _ => True) (qs.mapM l.answer) :=
    keeps_mapM qs fun q _ => keeps_answer (fun _ _ _ => trivial)
      (fun w r hasks => PatternCache.keeps_within hasks) q fun _ => PatternCache.within_empty l
  exact (hkeeps .empty (PatternCache.within_empty l)).1

theorem within_precompile {l : LinkSet} {c : PatternCache} (h : PatternCache.Within l c) :
    PatternCache.Within l (l.precompile c).state :=
  (keeps_precompile (fun _ _ hasks => PatternCache.keeps_within hasks) c h).1

/-- As long as nothing is cleared, a saturated cache answers all requests as it is. -/
theorem keeps_saturated_run {l : LinkSet} {c : PatternCache} (hfull : PatternCache.Saturated l c)
    (qs : List Request) (hqs : ∀ q ∈ qs, q ≠ .clear) :
    Keeps (· = c) Event.IsDecision (qs.mapM l.answer) := by
  refine keeps_mapM qs fun q hq => ?_
  exact keeps_answer (fun i ids excluded => ⟨i, ids, excluded, rfl⟩)
    (fun w r hasks => PatternCache.keeps_saturated hfull hasks _) q
    fun hclear => absurd hclear (hqs q hq)

/-- The count that `check` prints of a document's wildcards is that of its different readings. -/
theorem runCheck_output {files : Files} {file : String} {d : Document}
    (h : Command.load files file = .ok d) :
    (Command.runCheck files file).output =
      "Document '" ++ file ++ "' decoded\n" ++
        (DocumentSummary.of d d.linkSet.readings.toFinset.card).text ++
        Command.printFailures (d.linkSet.precompile .empty).value := by
  have hsize : (d.linkSet.precompile .empty).state.size = d.linkSet.readings.toFinset.card :=
    (within_precompile (PatternCache.within_empty _)).size_eq
      (PatternCache.saturated_precompile d.linkSet .empty)
  unfold Command.runCheck
  simp only [h]
  rw [hsize]

/-! ## Top theorem -/

/-- **Compiling ahead fills the cache to its limit**: before it the entries are among the readings
of the link set, after it there is one for each, and until it is cleared no request adds or changes
an entry or reports a compilation. -/
theorem precompile_saturates (l : LinkSet) (earlier later : List Request)
    (hlater : ∀ q ∈ later, q ≠ .clear) :
    (∀ e ∈ (l.reached earlier).entries, (e.1.wildcard, e.1.caseSensitive) ∈ l.readings) ∧
    (l.reached earlier).size ≤ l.readings.toFinset.card ∧
    (l.precompile (l.reached earlier)).state.size = l.readings.toFinset.card ∧
    ((later.mapM l.answer) (l.precompile (l.reached earlier)).state).state =
      (l.precompile (l.reached earlier)).state ∧
    (∀ e ∈ ((later.mapM l.answer) (l.precompile (l.reached earlier)).state).events,
      e.IsDecision) ∧
    ∀ files file d, Command.load files file = .ok d →
      (Command.runCheck files file).output =
        "Document '" ++ file ++ "' decoded\n" ++
          (DocumentSummary.of d d.linkSet.readings.toFinset.card).text ++
          Command.printFailures (d.linkSet.precompile .empty).value := by
  have hbefore := l.within_reached earlier
  have hfull := PatternCache.saturated_precompile l (l.reached earlier)
  obtain ⟨hstate, hevents⟩ := keeps_saturated_run hfull later hlater _ rfl
  refine ⟨?_, hbefore.size_le, (within_precompile hbefore).size_eq hfull, hstate, hevents,
    fun files file d => runCheck_output⟩
  intro e he
  have hmem : e.1.reading ∈ (l.reached earlier).entries.map (·.1.reading) :=
    List.mem_map_of_mem he
  exact List.mem_toFinset.mp (hbefore.readings_subset (List.mem_toFinset.mpr hmem))

/-- One wildcard in three components, with a slash or without, is read in two ways; the second
rule set does without regard to case. -/
theorem precompile_saturates_shared_wildcard :
    let l : LinkSet :=
      { details :=
          [{ appIds := ["T.app"],
             components := [Component.onPath "/a/$(lang", Component.onPath "a/$(lang"] },
           { appIds := ["U.app"], components := [Component.onPath "/a/$(lang"],
             defaults := some .caseInsensitive }] }
    let u : Url := { scheme := "https", path := "/a/en" }
    let files : Files := fun _ =>
      .ok (Text.Utf8.encode (Document.encode .compact { applinks := some l }).toList)
    l.readings = [("a/$(lang", true), ("a/$(lang", true), ("a/$(lang", false)] ∧
      (∀ q ∈ [Request.appIds u, .precompile], q ≠ .clear) ∧
      (l.precompile (l.reached [.appIds u, .clear])).state.size = 2 ∧
      (([Request.appIds u, .precompile].mapM l.answer)
          (l.precompile (l.reached [.appIds u, .clear])).state).state.size = 2 ∧
      Command.load files "links.json" = .ok { applinks := some l } ∧
      (Command.runCheck files "links.json").output =
        "Document 'links.json' decoded\n" ++
          (DocumentSummary.of { applinks := some l } 2).text ++
          Command.printFailures (l.precompile .empty).value := by
  intro l u files
  have hreadings : l.readings =
      [("a/$(lang", true), ("a/$(lang", true), ("a/$(lang", false)] := by decide +kernel
  have hcard : l.readings.toFinset.card = 2 := by
    rw [hreadings]
    decide +kernel
  have hlater : ∀ q ∈ [Request.appIds u, .precompile], q ≠ .clear := by simp
  have hload : Command.load files "links.json" = .ok { applinks := some l } := by
    have hbytes : Document.decodeBytes
        (Text.Utf8.encode (Document.encode .compact { applinks := some l }).toList) =
          .ok { applinks := some l } := Document.decode_encode .compact _
    exact Command.load_of_decodeBytes rfl hbytes
  obtain ⟨-, -, hfull, hsame, -, hcheck⟩ :=
    precompile_saturates l [.appIds u, .clear] [.appIds u, .precompile] hlater
  have hlink : ({ applinks := some l } : Document).linkSet = l := rfl
  have houtput := hcheck files "links.json" { applinks := some l } hload
  rw [hlink, hcard] at houtput
  refine ⟨hreadings, hlater, hfull.trans hcard, ?_, hload, houtput⟩
  rw [hsame]
  exact hfull.trans hcard

end LinkSet

end AppLinks
