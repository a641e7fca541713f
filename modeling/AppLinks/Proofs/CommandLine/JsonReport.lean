import AppLinks.Proofs.CommandLine.Match
import AppLinks.Proofs.Json.Value

/-!
# The report as JSON

A run that is asked for JSON prints one text, which reads back as an array with an object for each
URL, in their order: the URL as it was given and the identifiers found for it.  Without repetitions
an identifier stays where it comes first and nowhere else.

    firsts l = (l.zipIdx.filter fun p => p.1 ∉ l.take p.2).map (·.1)        (firsts_eq_filter)
    readText Reader.value text = .ok (.array (args.map reported))           (json_report_reads_back)
-/

namespace AppLinks

namespace Command

open CommandOption (isValue readFrom readAll)

/-! ## First occurrences -/

theorem mem_firsts_iff (l : List String) (a : String) : a ∈ firsts l ↔ a ∈ l := by
  induction l with
  | nil => exact Iff.rfl
  | cons b l ih =>
    rw [firsts, List.mem_cons, List.mem_cons, List.mem_filter, ih]
    by_cases h : a = b <;> simp [h]

theorem nodup_firsts (l : List String) : (firsts l).Nodup := by
  induction l with
  | nil => exact List.nodup_nil
  | cons a l ih =>
    rw [firsts]
    refine List.nodup_cons.mpr ⟨?_, ih.filter _⟩
    intro hmem
    simpa using (List.mem_filter.mp hmem).2

/-- An element is kept at the places where it has not come before. -/
theorem firsts_eq_filter (l : List String) :
    firsts l = (l.zipIdx.filter fun p => p.1 ∉ l.take p.2).map (·.1) := by
  induction l with
  | nil => rfl
  | cons a l ih =>
    -- behind the head every place is one further on, and the head has come before
    have htail : ((l.zipIdx 1).filter fun p => p.1 ∉ (a :: l).take p.2).map (·.1) =
        (firsts l).filter (· != a) := by
      rw [ih, List.zipIdx_succ, List.filter_map, List.map_map, List.filter_map, List.filter_filter]
      refine congrArg (List.map _) (List.filter_congr fun p _ => ?_)
      by_cases h : p.1 = a <;> simp [h]
    rw [firsts, ← htail, List.zipIdx_cons]
    simp

/-! ## Arguments -/

/-- The arguments that ask for the apps of the URLs, printed as JSON. -/
def jsonArgs (file : String) (urls : List String) (unique : Bool) : List String :=
  matchArgs file urls unique ++ ["--json"]

/-- Arguments that are read as options leave those behind them as they are. -/
theorem readFrom_append {os : List CommandOption} {as : List String} (bs : List String)
    (has : "--" ∉ as) : ∀ {waiting : Option CommandOption} {g : Given},
      readFrom os waiting as = some g →
        readFrom os waiting (as ++ bs) = (readFrom os none bs).map (g ++ ·) := by
  induction as with
  | nil =>
    intro waiting g h
    cases waiting with
    | none =>
      obtain rfl := Option.some.inj h
      simp
    | some o => cases h
  | cons a as ih =>
    intro waiting g h
    have hrest : "--" ∉ as := fun hmem => has (List.mem_cons_of_mem _ hmem)
    cases waiting with
    | none =>
      have ha : a ≠ "--" := fun ha => has (by simp [ha])
      rw [List.cons_append]
      rw [readFrom, if_neg ha] at h ⊢
      cases hread : CommandOption.read os a with
      | none =>
        rw [hread] at h
        cases h
      | some r =>
        rw [hread] at h
        obtain ⟨g', hg', rfl⟩ := Option.map_eq_some_iff.mp h
        simp [ih hrest hg', Function.comp_def]
    | some o =>
      rw [List.cons_append, readFrom_value]
      rw [readFrom_value] at h
      by_cases ha : isValue a = true
      · rw [if_pos ha] at h ⊢
        obtain ⟨g', hg', rfl⟩ := Option.map_eq_some_iff.mp h
        simp [ih hrest hg', Function.comp_def]
      · rw [if_neg ha] at h
        cases h

theorem ne_hyphens_of_isValue {a : String} (h : isValue a = true) : a ≠ "--" := by
  rintro rfl
  revert h
  decide

/-- What the options of a run on the URLs that prints JSON are read as. -/
def jsonGiven (file : String) (urls : List String) (unique : Bool) : Given :=
  ("input", file) :: matchGiven urls unique ++ [("json", "")]

theorem filter_jsonGiven (long file : String) (urls : List String) (unique : Bool) :
    (jsonGiven file urls unique).filter (·.1 == long) =
      (if long = "input" then [("input", file)] else []) ++
        ((if long = "url" then urls.map (fun u => ("url", u)) else []) ++
          if unique = true ∧ long = "unique" then [("unique", "")] else []) ++
        if long = "json" then [("json", "")] else [] := by
  unfold jsonGiven
  rw [List.cons_append, List.filter_cons, List.filter_append, filter_matchGiven]
  by_cases hinput : long = "input"
  · simp [hinput]
  · by_cases hjson : long = "json"
    · simp [hjson]
    · simp [Ne.symm hinput, Ne.symm hjson, hinput, hjson]

theorem readAll_jsonArgs {file : String} {urls : List String} (hfile : isValue file = true)
    (hurls : ∀ u ∈ urls, isValue u = true) (unique : Bool) :
    readAll matchOptions (("-i" :: file :: urls.flatMap (fun u => ["-u", u]) ++
        if unique then ["--unique"] else []) ++ ["--json"]) =
      some (jsonGiven file urls unique) := by
  have hvalues : isValue file = true ∧ ∀ u ∈ urls, isValue u = true := ⟨hfile, hurls⟩
  have hread := readAll_matchOptions file urls unique
  rw [if_pos hvalues] at hread
  have hfront := (Option.filter_eq_some_iff.mp hread).1
  have hmarks : "--" ∉ "-i" :: file :: urls.flatMap (fun u => ["-u", u]) ++
      if unique then ["--unique"] else [] := by
    have hfile := ne_hyphens_of_isValue hfile
    have hurls : "--" ∉ urls := fun hmem => ne_hyphens_of_isValue (hurls _ hmem) rfl
    cases unique <;> simp [Ne.symm hfile, hurls]
  have hsparing : CommandOption.isSparing matchOptions (jsonGiven file urls unique) = true := by
    unfold CommandOption.isSparing
    cases unique <;> simp [matchOptions, input, url, Command.unique, json, verbose,
      filter_jsonGiven]
  unfold readAll
  rw [readFrom_append ["--json"] hmarks hfront]
  exact Option.filter_eq_some_iff.mpr ⟨rfl, hsparing⟩

theorem read_jsonArgs {file : String} {urls : List String} (hnone : urls ≠ [])
    (hfile : isValue file = true) (hurls : ∀ u ∈ urls, isValue u = true) (unique : Bool) :
    read (jsonArgs file urls unique) = some ⟨.matchUrls file urls unique true, false⟩ := by
  have hread : read (jsonArgs file urls unique) =
      (readAll matchOptions (("-i" :: file :: urls.flatMap (fun u => ["-u", u]) ++
        if unique then ["--unique"] else []) ++ ["--json"])).bind fun given =>
          (ofGiven "match" given).bind fun command => some ⟨command, given.has "verbose"⟩ := rfl
  have hvalues : ∀ long, Given.values (jsonGiven file urls unique) long =
      ((jsonGiven file urls unique).filter (·.1 == long)).map (·.2) := fun _ => rfl
  have hunique : Given.has (jsonGiven file urls unique) "unique" = unique := by
    cases unique <;> simp [Given.has, jsonGiven, matchGiven]
  have hjson : Given.has (jsonGiven file urls unique) "json" = true := by
    simp [Given.has, jsonGiven]
  have hverbose : Given.has (jsonGiven file urls unique) "verbose" = false := by
    cases unique <;> simp [Given.has, jsonGiven, matchGiven]
  obtain ⟨u, us, rfl⟩ := List.exists_cons_of_ne_nil hnone
  rw [hread, readAll_jsonArgs hfile hurls, Option.bind_some, hverbose]
  unfold ofGiven
  rw [if_neg (by decide), if_neg (by decide), hvalues, hvalues, hunique, hjson]
  simp [filter_jsonGiven]

/-- Blanks are dropped around a text only, so a hyphen in front stays there. -/
theorem head?_clean_hyphen (cs : List Char) : (Url.clean ('-' :: cs)).head? = some '-' := by
  have htrimmed : ∃ ds, ((('-' :: cs).dropWhile Url.isBlank).reverse.dropWhile
      Url.isBlank).reverse = '-' :: ds := by
    rw [List.dropWhile_cons_of_neg (by decide), List.reverse_cons, List.dropWhile_append]
    split
    · exact ⟨[], rfl⟩
    · exact ⟨_, by rw [List.reverse_append]; rfl⟩
  obtain ⟨ds, hds⟩ := htrimmed
  unfold Url.clean
  rw [hds]
  rfl

/-- No URL looks like an option. -/
theorem isValue_of_parseUrl {text : String} {u : Url} (h : parseUrl text = .ok u) :
    isValue text = true := by
  unfold isValue
  split
  · next c cs htext =>
    have hscheme : Scheme.read? (Url.clean text.toList) = none := by
      rw [htext, Scheme.read?, head?_clean_hyphen]
      rfl
    have herror : Url.parse text = .error .noScheme := by
      unfold Url.parse
      rw [hscheme]
    rw [parseUrl, herror] at h
    cases h
  · rfl

/-! ## Texts -/

theorem textual_strings (ss : List String) : Json.Textual 1 (.strings ss) := by
  refine .array fun j hj => ?_
  obtain ⟨s, -, rfl⟩ := List.mem_map.mp hj
  exact .string s

theorem textual_toJson (m : UrlMatches) : Json.Textual 2 m.toJson := by
  refine .object fun e he => ?_
  rcases List.mem_pair.mp he with rfl | rfl
  · exact .string m.url
  · exact textual_strings m.appIds

/-- What is printed as JSON is one text and a line feed, and the text reads back. -/
theorem printMatches_json (ms : List UrlMatches) :
    ∃ text, printMatches true ms = text ++ "\n" ∧
      Json.readText Json.Reader.value text = .ok (.array (ms.map (·.toJson))) := by
  have htextual : Json.Textual 3 (.array (ms.map (·.toJson))) := by
    refine .array fun j hj => ?_
    obtain ⟨m, -, rfl⟩ := List.mem_map.mp hj
    exact textual_toJson m
  exact ⟨_, rfl, htextual.readText_render (by decide) .indented⟩

/-! ## Runs -/

section
variable {files : Files} {file : String} {d : Document}

/-- Where each text is a URL, all of them are told. -/
theorem mapM_finding {args : List (String × Url)} (hargs : ∀ a ∈ args, parseUrl a.1 = .ok a.2)
    (l : LinkSet) (unique : Bool) :
    (args.map (·.1)).mapM (finding l unique) = .ok (args.map fun a => ⟨a.1, if unique then
      firsts (l.idsBy freshAnswers a.2.view) else l.idsBy freshAnswers a.2.view⟩) := by
  induction args with
  | nil => rfl
  | cons a args ih =>
    obtain ⟨ha, hargs⟩ := List.forall_mem_cons.mp hargs
    rw [List.map_cons, List.mapM_cons, finding_of_ok l unique ha, ih hargs]
    rfl

theorem runMatch_json_of_load (h : load files file = .ok d) {urls : List String} {unique : Bool}
    {found : List UrlMatches} (hfound : urls.mapM (finding d.linkSet unique) = .ok found) :
    ∃ events, runMatch files file urls unique true =
      { output := printMatches true found, events := events } := by
  have hvalue : (matchAll d.linkSet unique urls .empty).value = .ok found := by
    rw [← hfound]
    exact (yields_matchAll d.linkSet unique urls .empty PatternCache.faithful_empty).1
  refine ⟨(matchAll d.linkSet unique urls .empty).events, ?_⟩
  unfold runMatch
  simp only [h, hvalue]

end

/-! ## Top theorem -/

/-- **The JSON report reads back as what was asked and found**: one object for each URL, in their
order, with the URL as it was given and all identifiers found for it, or each of them where it
comes first. -/
theorem json_report_reads_back (files : Files) (file : String) (d : Document)
    (args : List (String × Url)) (unique : Bool) (hload : load files file = .ok d)
    (hargs : ∀ a ∈ args, parseUrl a.1 = .ok a.2) :
    let run := (Command.matchUrls file (args.map (·.1)) unique true).run files
    let ids (a : String × Url) : List String := (d.appIds a.2 ()).value
    let reported (a : String × Url) : Json :=
      .object [("url", .string a.1),
        ("appIDs", .array ((if unique then firsts (ids a) else ids a).map .string))]
    (args ≠ [] → isValue file = true →
      read (jsonArgs file (args.map (·.1)) unique) =
        some ⟨.matchUrls file (args.map (·.1)) unique true, false⟩) ∧
    run.exitCode = 0 ∧ run.errorOutput = "" ∧
    (∃ text, run.output = text ++ "\n" ∧
      Json.readText Json.Reader.value text = .ok (.array (args.map reported))) ∧
    ∀ l : List String, (firsts l).Nodup ∧ (∀ id, id ∈ firsts l ↔ id ∈ l) ∧
      firsts l = (l.zipIdx.filter fun p => p.1 ∉ l.take p.2).map (·.1) := by
  intro run ids reported
  obtain ⟨events, hrun⟩ := runMatch_json_of_load hload (mapM_finding hargs d.linkSet unique)
  have hrun : run = _ := hrun
  refine ⟨?_, by rw [hrun]; rfl, by rw [hrun]; rfl, ?_,
    fun l => ⟨nodup_firsts l, mem_firsts_iff l, firsts_eq_filter l⟩⟩
  · intro hnone hfile
    refine read_jsonArgs (by simpa using hnone) hfile ?_ unique
    intro u hu
    obtain ⟨a, ha, rfl⟩ := List.mem_map.mp hu
    exact isValue_of_parseUrl (hargs a ha)
  · obtain ⟨text, htext, hread⟩ := printMatches_json (args.map fun a => ⟨a.1, if unique then
      firsts (d.linkSet.idsBy freshAnswers a.2.view) else
        d.linkSet.idsBy freshAnswers a.2.view⟩)
    refine ⟨text, by rw [hrun]; exact htext, ?_⟩
    rw [hread, List.map_map]
    have hids : ∀ a, ids a = d.linkSet.idsBy freshAnswers a.2.view := fun a => d.value_appIds a.2
    refine congrArg (fun items => Except.ok (Json.array items)) (List.map_congr_left fun a _ => ?_)
    show UrlMatches.toJson _ = reported a
    unfold reported
    rw [hids a]
    rfl

/-- Quotes, controls and characters beyond the first plane come back, and of two rule sets with one
identifier only the first tells it. -/
theorem json_report_reads_back_twice_listed :
    let d : Document :=
      { applinks := some
          { details :=
              [{ appIds := ["T.app", "\"\n𝄞"], components := [Component.onPath "/a*"] },
               { appIds := ["U.app", "T.app"], components := [Component.onPath "*"] }] } }
    let files : Files := fun _ => .ok (Text.Utf8.encode (Document.encode .compact d).toList)
    let u : Url := { scheme := "x", path := "/a" }
    let v : Url := { scheme := "x", path := "/b" }
    load files "links.json" = .ok d ∧ (∀ a ∈ [("x:/a", u), ("x:/b", v)], parseUrl a.1 = .ok a.2) ∧
      ∃ text,
        ((Command.matchUrls "links.json" ["x:/a", "x:/b"] true true).run files).output =
          text ++ "\n" ∧
        Json.readText Json.Reader.value text = .ok (.array
          [.object [("url", .string "x:/a"),
              ("appIDs", .strings ["T.app", "\"\n𝄞", "U.app"])],
            .object [("url", .string "x:/b"), ("appIDs", .strings ["U.app", "T.app"])]]) := by
  intro d files u v
  have hload : load files "links.json" = .ok d := by
    have hbytes : Document.decodeBytes
        (Text.Utf8.encode (Document.encode .compact d).toList) = .ok d :=
      Document.decode_encode .compact d
    exact load_of_decodeBytes rfl hbytes
  have hargs : ∀ a ∈ [("x:/a", u), ("x:/b", v)], parseUrl a.1 = .ok a.2 := by
    intro a ha
    rcases List.mem_pair.mp ha with rfl | rfl
    · decide +kernel
    · decide +kernel
  have hu : firsts (d.appIds u ()).value = ["T.app", "\"\n𝄞", "U.app"] := by decide +kernel
  have hv : firsts (d.appIds v ()).value = ["U.app", "T.app"] := by decide +kernel
  obtain ⟨-, -, -, ⟨text, houtput, hread⟩, -⟩ :=
    json_report_reads_back files "links.json" d [("x:/a", u), ("x:/b", v)] true hload hargs
  refine ⟨hload, hargs, text, houtput, ?_⟩
  rw [hread]
  simp only [List.map_cons, List.map_nil, if_true, hu, hv]
  rfl

end Command

end AppLinks
