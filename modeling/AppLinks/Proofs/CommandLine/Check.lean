import AppLinks.Proofs.Matching.Saturation
import AppLinks.Proofs.Text.Lines

/-!
# The report of a check

A check tells of every wildcard that does not compile, in the order of the places where they stand,
and fails with their number.  Each is told on a line of its own, unless its token has no meaning and
a line feed in its name: the wildcard is quoted, but the message gives such a name as it is.

    lineFeeds f.told = f.error.nameFeeds                                   (lineFeeds_told)
    (lines (String.join (fs.map failureLine))).length = fs.length
      ↔ ∀ f ∈ fs, f.error.nameFeeds = 0                          (length_lines_failures_iff)
-/

namespace AppLinks

open Text (lines lineFeeds stretches)

/-! ## Failures -/

/-- The line feeds in the name that an error gives. -/
def PatternError.nameFeeds : PatternError → Nat
  | .unresolvedToken name => lineFeeds name
  | .unterminatedToken _ => 0
  | .tooLarge => 0

theorem PatternError.lineFeeds_message (e : PatternError) : lineFeeds e.message = e.nameFeeds := by
  cases e with
  | unresolvedToken name =>
    unfold message nameFeeds
    rw [Text.lineFeeds_append, Text.lineFeeds_append]
    show 0 + lineFeeds name + 0 = lineFeeds name
    omega
  | unterminatedToken n =>
    unfold message nameFeeds
    rw [Text.lineFeeds_append, Text.lineFeeds_toString]
    rfl
  | tooLarge => decide +kernel

namespace PatternFailure

/-- What the line about a failure begins with. -/
def indices (f : PatternFailure) : String :=
  "  details[" ++ toString f.ruleSet ++ "].components[" ++ toString f.component ++ "] "

/-- What is told of a failure, without the line feed that ends it. -/
def told (f : PatternFailure) : String :=
  f.indices ++ (Text.quote f.wildcard ++ ": " ++ f.error.message)

theorem lineFeeds_indices (f : PatternFailure) : lineFeeds f.indices = 0 := by
  unfold indices
  simp only [Text.lineFeeds_append, Text.lineFeeds_toString]
  decide

theorem lineFeeds_told (f : PatternFailure) : lineFeeds f.told = f.error.nameFeeds := by
  unfold told
  rw [Text.lineFeeds_append, lineFeeds_indices, Text.lineFeeds_append, Text.lineFeeds_append,
    Text.lineFeeds_quote, f.error.lineFeeds_message]
  show 0 + (0 + 0 + f.error.nameFeeds) = f.error.nameFeeds
  omega

/-- The first line about a failure begins with its indices; a name adds a line for every line
feed. -/
theorem stretches_told (f : PatternFailure) :
    ∃ first more, stretches f.told = (f.indices ++ first) :: more ∧
      more.length = f.error.nameFeeds := by
  obtain ⟨first, more, -, htold⟩ := Text.stretches_append_of_lineFeeds f.lineFeeds_indices
    (Text.quote f.wildcard ++ ": " ++ f.error.message)
  refine ⟨first, more, htold, ?_⟩
  have hlength := Text.length_stretches f.told
  rw [lineFeeds_told] at hlength
  rw [told, htold] at hlength
  simpa using hlength

end PatternFailure

namespace Command

/-! ## Lines -/

theorem failureLine_eq (f : PatternFailure) : failureLine f = f.told ++ "\n" := by
  unfold failureLine PatternFailure.told PatternFailure.indices
  simp only [String.append_assoc]

theorem lines_failures (fs : List PatternFailure) :
    lines (String.join (fs.map failureLine)) = fs.flatMap fun f => stretches f.told := by
  have hmap : fs.map failureLine = (fs.map (·.told)).map fun a => a ++ "\n" := by
    rw [List.map_map]
    exact List.map_congr_left fun f _ => failureLine_eq f
  rw [hmap, Text.lines_join, List.flatMap_map]

theorem length_lines_failures (fs : List PatternFailure) :
    (lines (String.join (fs.map failureLine))).length =
      fs.length + fs.foldr (fun f n => f.error.nameFeeds + n) 0 := by
  rw [lines_failures]
  induction fs with
  | nil => rfl
  | cons f fs ih =>
    rw [List.flatMap_cons, List.length_append, ih, Text.length_stretches, f.lineFeeds_told,
      List.length_cons, List.foldr_cons]
    omega

/-- Failures are told on as many lines as there are failures just if no name holds a line feed. -/
theorem length_lines_failures_iff (fs : List PatternFailure) :
    (lines (String.join (fs.map failureLine))).length = fs.length ↔
      ∀ f ∈ fs, f.error.nameFeeds = 0 := by
  have hzero : fs.foldr (fun f n => f.error.nameFeeds + n) 0 = 0 ↔
      ∀ f ∈ fs, f.error.nameFeeds = 0 := by
    induction fs with
    | nil => simp
    | cons f fs ih => rw [List.foldr_cons, Nat.add_eq_zero_iff, ih, List.forall_mem_cons]
  rw [length_lines_failures, Nat.add_eq_left, hzero]

theorem lines_failures_of_nameFeeds {fs : List PatternFailure}
    (h : ∀ f ∈ fs, f.error.nameFeeds = 0) :
    lines (String.join (fs.map failureLine)) = fs.map (·.told) := by
  have hone : ∀ f ∈ fs, stretches f.told = [f.told] := fun f hf =>
    Text.stretches_of_lineFeeds (f.lineFeeds_told.trans (h f hf))
  rw [lines_failures, List.flatMap_congr hone, ← List.map_eq_flatMap]

/-! ## The text around the failures -/

/-- What a check prints of a document that decodes, up to its failures. -/
def checkHeader (file : String) (s : DocumentSummary) : String :=
  "Document '" ++ file ++ "' decoded\n" ++ s.text

/-- The line that failures stand behind. -/
def failuresHeading : String := "Wildcards that never match:"

theorem lines_printFailures {fs : List PatternFailure} (h : ¬ fs.isEmpty = true) :
    lines (printFailures fs) =
      "" :: failuresHeading :: lines (String.join (fs.map failureLine)) := by
  have hheading :
      "\nWildcards that never match:\n" = "" ++ "\n" ++ (failuresHeading ++ "\n") := by
    decide
  unfold printFailures
  rw [if_neg h, hheading, String.append_assoc, Text.lines_append_end, Text.lines_append_end]
  rfl

/-- The lines that a check prints before its failures. -/
def headerLines (file : String) (s : DocumentSummary) : List String :=
  ["Document '" ++ file ++ "' decoded",
    "  Rule sets:       " ++ toString s.ruleSets,
    "  Components:      " ++ toString s.components,
    "  Substitutions:   " ++ toString s.substitutions,
    "  Wildcards:       " ++ toString s.wildcards,
    "  Webcredentials:  " ++ toString s.webcredentials,
    "  App clips:       " ++ toString s.appclips]

theorem checkHeader_eq_join (file : String) (s : DocumentSummary) :
    checkHeader file s = String.join ((headerLines file s).map fun a => a ++ "\n") := by
  have hdecoded : "' decoded\n" = "' decoded" ++ "\n" := by decide
  unfold checkHeader headerLines DocumentSummary.text
  simp only [hdecoded, List.map_cons, List.map_nil, String.join_cons, String.join_nil,
    String.append_assoc, String.append_empty]

theorem lines_checkHeader_append (file : String) (s : DocumentSummary) (b : String) :
    lines (checkHeader file s ++ b) = lines (checkHeader file s) ++ lines b := by
  rw [checkHeader_eq_join, Text.lines_join_append, Text.lines_join]

theorem lines_checkHeader {file : String} (h : lineFeeds file = 0) (s : DocumentSummary) :
    lines (checkHeader file s) = headerLines file s := by
  rw [checkHeader_eq_join]
  apply Text.lines_join_of_lineFeeds
  have hcount (label : String) (n : Nat) : lineFeeds (label ++ toString n) = lineFeeds label := by
    rw [Text.lineFeeds_append, Text.lineFeeds_toString, Nat.add_zero]
  simp only [headerLines, List.forall_mem_cons, hcount, Text.lineFeeds_append, h]
  decide

/-- The heading is not met before the failures. -/
theorem heading_not_mem_lines_checkHeader {file : String} (h : lineFeeds file = 0)
    (s : DocumentSummary) : failuresHeading ∉ lines (checkHeader file s) := by
  rw [lines_checkHeader h]
  intro hmem
  have hfirst : ∀ a ∈ headerLines file s, a.toList.head? ≠ some 'W' := by
    simp [headerLines]
  exact hfirst _ hmem rfl

end Command

/-! ## Documents without failures -/

namespace LinkSet

/-- Every wildcard of every component compiles under the rules for the component. -/
def Compiles (l : LinkSet) : Prop :=
  ∀ rs ∈ l.details, ∀ c ∈ rs.components, ∀ w ∈ c.wildcards,
    ∃ p, Pattern.compile w (l.rulesFor rs c) = .ok p

theorem Occurrence.failure?_eq_none_iff (o : Occurrence) :
    o.failure? = none ↔ ∃ p, Pattern.compile o.wildcard o.rules = .ok p := by
  unfold Occurrence.failure?
  cases Pattern.compile o.wildcard o.rules with
  | ok p => simp
  | error e => simp

theorem failures_eq_nil_iff (l : LinkSet) :
    l.places.filterMap l.failureAt? = [] ↔ l.Compiles := by
  rw [← occurrences_failures_eq, List.filterMap_eq_nil_iff]
  constructor
  · intro h rs hrs c hc w hw
    obtain ⟨o, ho, rfl, hrules⟩ := exists_occurrence_of_asks ⟨rs, hrs, c, hc, hw, rfl⟩
    rw [← l.rules_setting rs c, ← hrules]
    exact o.failure?_eq_none_iff.mp (h o ho)
  · intro h o ho
    obtain ⟨rs, hrs, c, hc, hw, hrules⟩ := asks_of_mem_occurrences ho
    rw [o.failure?_eq_none_iff, hrules, l.rules_setting rs c]
    exact h rs hrs c hc _ hw

end LinkSet

/-! ## Runs -/

namespace Command

section
variable {files : Files} {file : String} {d : Document}

theorem runCheck_failure (h : load files file = .ok d) :
    (runCheck files file).failure =
      if (d.linkSet.places.filterMap d.linkSet.failureAt?).isEmpty then none
      else some (toString (d.linkSet.places.filterMap d.linkSet.failureAt?).length ++
        " wildcard(s) failed to compile") := by
  unfold runCheck
  simp only [h]
  rw [LinkSet.value_precompile_empty, LinkSet.occurrences_failures_eq]

theorem runCheck_output_eq (h : load files file = .ok d) :
    (runCheck files file).output =
      checkHeader file (.of d d.linkSet.readings.toFinset.card) ++
        printFailures (d.linkSet.places.filterMap d.linkSet.failureAt?) := by
  rw [LinkSet.runCheck_output h, LinkSet.value_precompile_empty, LinkSet.occurrences_failures_eq]
  rfl

theorem runCheck_of_compiles (h : load files file = .ok d) (hall : d.linkSet.Compiles) :
    (runCheck files file).exitCode = 0 ∧
      (runCheck files file).output =
        checkHeader file (.of d d.linkSet.readings.toFinset.card) := by
  rw [Run.exitCode, runCheck_failure h, runCheck_output_eq h,
    d.linkSet.failures_eq_nil_iff.mpr hall]
  exact ⟨rfl, String.append_empty⟩

theorem runCheck_of_not_compiles (h : load files file = .ok d) (hall : ¬ d.linkSet.Compiles) :
    let fs := d.linkSet.places.filterMap d.linkSet.failureAt?
    (runCheck files file).exitCode = 1 ∧
      (runCheck files file).errorOutput =
        "Error: " ++ (toString fs.length ++ " wildcard(s) failed to compile") ++ "\n" ∧
      lines (runCheck files file).output =
        lines (checkHeader file (.of d d.linkSet.readings.toFinset.card)) ++
          "" :: failuresHeading :: lines (String.join (fs.map failureLine)) := by
  intro fs
  have hempty : ¬ fs.isEmpty = true := by
    rw [List.isEmpty_iff]
    exact fun hnil => hall (d.linkSet.failures_eq_nil_iff.mp hnil)
  have hfailure : (runCheck files file).failure =
      some (toString fs.length ++ " wildcard(s) failed to compile") := by
    rw [runCheck_failure h]
    exact if_neg hempty
  refine ⟨?_, ?_, ?_⟩
  · rw [Run.exitCode, hfailure]
    rfl
  · rw [Run.errorOutput, hfailure]
  · rw [runCheck_output_eq h, lines_checkHeader_append]
    congr 1
    exact lines_printFailures hempty

end

/-! ## Top theorem -/

/-- **What a check tells of a document**: it succeeds without failures just if every wildcard
compiles; otherwise it tells every failing place in order, each on lines of its own of which the
first begins with the indices.  There are as many lines as it counts failures just if no name that
it could not resolve holds a line feed; then each failure is one line. -/
theorem check_tells_failures {files : Files} {file : String} {d : Document}
    (h : load files file = .ok d) :
    let l := d.linkSet
    let fs := l.places.filterMap l.failureAt?
    let r := runCheck files file
    let header := checkHeader file (.of d l.readings.toFinset.card)
    (l.places.Pairwise Place.Before ∧ ∀ p, (l.failureAt? p).isSome = true → p ∈ l.places) ∧
    (r.exitCode = 0 ∧ r.output = header ↔ l.Compiles) ∧
    (lineFeeds file = 0 → failuresHeading ∉ lines header) ∧
    (¬ l.Compiles →
      r.exitCode = 1 ∧
      r.errorOutput =
        "Error: " ++ (toString fs.length ++ " wildcard(s) failed to compile") ++ "\n" ∧
      ∃ told,
        lines r.output = lines header ++ "" :: failuresHeading :: told ∧
        told = fs.flatMap (fun f => stretches f.told) ∧
        (∀ f ∈ fs, ∃ first more, stretches f.told = (f.indices ++ first) :: more ∧
          more.length = f.error.nameFeeds) ∧
        (told.length = fs.length ↔ ∀ f ∈ fs, f.error.nameFeeds = 0) ∧
        ((∀ f ∈ fs, f.error.nameFeeds = 0) →
          told = fs.map fun f =>
            f.indices ++ (Text.quote f.wildcard ++ ": " ++ f.error.message))) := by
  intro l fs r header
  refine ⟨⟨l.pairwise_places, fun p hp => LinkSet.mem_places_of_failureAt? hp⟩, ⟨?_, ?_⟩, ?_, ?_⟩
  · rintro ⟨hexit, -⟩
    by_contra hall
    have hfails := (runCheck_of_not_compiles h hall).1
    rw [show (runCheck files file).exitCode = 0 from hexit] at hfails
    cases hfails
  · exact runCheck_of_compiles h
  · exact fun hfile => heading_not_mem_lines_checkHeader hfile _
  · intro hall
    obtain ⟨hexit, herror, hlines⟩ := runCheck_of_not_compiles h hall
    exact ⟨hexit, herror, _, hlines, lines_failures fs, fun f _ => f.stretches_told,
      length_lines_failures_iff fs, lines_failures_of_nameFeeds⟩

/-- A line feed outside a name is quoted, so both failures are told on one line. -/
theorem check_tells_failures_quoted :
    let l : LinkSet :=
      { details :=
          [{ appIds := ["T.app"],
             components := [Component.onPath "/buy/*", Component.onPath "/a\nb/$(nope)"] },
           { appIds := ["U.app"], components := [{ fragment := some "\n$(lang" }] }] }
    let d : Document := { applinks := some l }
    let files : Files := fun _ => .ok (Text.Utf8.encode (Document.encode .compact d).toList)
    let r := runCheck files "links.json"
    load files "links.json" = .ok d ∧
      ¬ l.Compiles ∧
      (∀ f ∈ l.places.filterMap l.failureAt?, f.error.nameFeeds = 0) ∧
      r.exitCode = 1 ∧
      r.errorOutput = "Error: 2 wildcard(s) failed to compile\n" ∧
      lines r.output =
        lines (checkHeader "links.json" (.of d l.readings.toFinset.card)) ++
          ["", failuresHeading,
            "  details[0].components[1] \"a\\nb/$(nope)\": " ++
              "Unresolved substitution token: $(nope)",
            "  details[1].components[0] \"\\n$(lang\": " ++
              "Unterminated substitution token at offset 1"] := by
  intro l d files r
  have hload : load files "links.json" = .ok d :=
    load_of_decodeBytes rfl (Document.decode_encode .compact d)
  have hfailures : l.places.filterMap l.failureAt? =
      [⟨0, 1, "a\nb/$(nope)", .unresolvedToken "nope"⟩,
        ⟨1, 0, "\n$(lang", .unterminatedToken 1⟩] := by decide +kernel
  have hall : ¬ l.Compiles := by
    rw [← l.failures_eq_nil_iff, hfailures]
    simp
  have hnames : ∀ f ∈ l.places.filterMap l.failureAt?, f.error.nameFeeds = 0 := by
    rw [hfailures]
    decide
  obtain ⟨-, -, -, htells⟩ := check_tells_failures hload
  obtain ⟨hexit, herror, told, hlines, -, -, -, htold⟩ := htells hall
  have htold := htold hnames
  rw [show d.linkSet = l from rfl, hfailures] at htold herror
  rw [htold] at hlines
  refine ⟨hload, hall, hnames, hexit, herror.trans (by decide +kernel), hlines.trans ?_⟩
  congr 1

/-- One wildcard fails, and two lines tell of it: the line feed of its name is printed as it is. -/
theorem two_lines_for_one_failure :
    let l : LinkSet :=
      { details := [{ appIds := ["T.app"], components := [Component.onPath "/$(a\nb)"] }] }
    let d : Document := { applinks := some l }
    let files : Files := fun _ => .ok (Text.Utf8.encode (Document.encode .compact d).toList)
    let r := runCheck files "links.json"
    load files "links.json" = .ok d ∧
      r.errorOutput = "Error: 1 wildcard(s) failed to compile\n" ∧
      lines r.output =
        lines (checkHeader "links.json" (.of d l.readings.toFinset.card)) ++
          ["", failuresHeading,
            "  details[0].components[0] \"$(a\\nb)\": Unresolved substitution token: $(a",
            "b)"] := by
  intro l d files r
  have hload : load files "links.json" = .ok d :=
    load_of_decodeBytes rfl (Document.decode_encode .compact d)
  have hfailures : l.places.filterMap l.failureAt? =
      [⟨0, 0, "$(a\nb)", .unresolvedToken "a\nb"⟩] := by decide +kernel
  have hall : ¬ l.Compiles := by
    rw [← l.failures_eq_nil_iff, hfailures]
    simp
  obtain ⟨-, herror, hlines⟩ := runCheck_of_not_compiles hload hall
  rw [show d.linkSet = l from rfl, hfailures] at herror hlines
  refine ⟨hload, herror.trans (by decide +kernel), hlines.trans ?_⟩
  congr 1

end Command

end AppLinks
