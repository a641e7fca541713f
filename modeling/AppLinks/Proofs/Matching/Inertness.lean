import AppLinks.Proofs.Matching.Interchange
import AppLinks.Proofs.Wildcard.Error

/-!
# What of a document counts

A wildcard looks up the names of its closed tokens, as far as they are not reserved, and nothing
else that a link set lists.  Comments are never read, the percent flag reaches neither a comparison
nor a key, and the sections that only list apps have no part in matching.  So documents that differ
in nothing but these are interchangeable in every session.

    ClosesToken w name ↔ ∃ t ∈ (Token.find w).tokens, t.name = name            (closesToken_iff)
    d.DiffersInertly d' → d.linkSet.transcript qs = d'.linkSet.transcript qs
                                                             (transcript_eq_of_differsInertly)
-/

namespace AppLinks

/-! ## Names that a wildcard looks up -/

/-- Behind a part whose tokens are all closed the wildcard opens a token of this name, and closes
it. -/
def ClosesToken (w name : String) : Prop :=
  ∃ before es after, Element.Reads before es ∧ ')' ∉ name.toList ∧
    w.toList = before ++ '$' :: '(' :: (name.toList ++ ')' :: after)

namespace Element

theorem mem_of_mem_search {n : Nat} {es : List Element} {t : Token}
    (h : t ∈ (search n es).tokens) : .token t.name ∈ es := by
  induction es generalizing n with
  | nil => cases h
  | cons e es ih =>
    cases e with
    | token name =>
      rcases List.mem_cons.mp h with rfl | h
      · exact List.mem_cons_self
      · exact List.mem_cons_of_mem _ (ih h)
    | unclosed rest => cases h
    | one => exact List.mem_cons_of_mem _ (ih h)
    | run => exact List.mem_cons_of_mem _ (ih h)
    | literal c => exact List.mem_cons_of_mem _ (ih h)

/-- The search comes to every token in front of which none stays open. -/
theorem exists_mem_search {n : Nat} {es fs : List Element} {name : String}
    (h : ∀ s, Element.unclosed s ∉ es) :
    ∃ t ∈ (search n (es ++ .token name :: fs)).tokens, t.name = name := by
  induction es generalizing n with
  | nil => exact ⟨⟨n, name⟩, List.mem_cons_self, rfl⟩
  | cons e es ih =>
    have hrest : ∀ s, Element.unclosed s ∉ es := fun s hs => h s (List.mem_cons_of_mem _ hs)
    cases e with
    | token other =>
      obtain ⟨t, ht, hname⟩ := ih hrest
      exact ⟨t, List.mem_cons_of_mem _ ht, hname⟩
    | unclosed rest => exact absurd List.mem_cons_self (h rest)
    | one => exact ih hrest
    | run => exact ih hrest
    | literal c => exact ih hrest

end Element

theorem closesToken_of_mem_scan {w name : String} (h : .token name ∈ Element.scan w) :
    ClosesToken w name := by
  obtain ⟨as, es, has, hcases⟩ := Element.exists_reads w.toList
  -- whether or not an opening is left over, the token stands in the part that is read
  obtain ⟨rest, hw, hmem⟩ : ∃ rest, w.toList = as ++ rest ∧ .token name ∈ es := by
    rcases hcases with ⟨hw, hes⟩ | ⟨rest, hw, -, hes⟩
    · exact ⟨[], by rw [hw, List.append_nil], hes ▸ h⟩
    · refine ⟨_, hw, ?_⟩
      have hscan : .token name ∈ es ++ [Element.unclosed (String.ofList rest)] := hes ▸ h
      simpa using hscan
  obtain ⟨before, after, rfl⟩ := List.append_of_mem hmem
  obtain ⟨bs, cs, rfl, hbs, hcs⟩ := Element.exists_append_of_reads has
  cases hcs with
  | @token name ds _ hname _ =>
    refine ⟨bs, before, ds ++ rest, hbs, ?_, ?_⟩
    · rw [String.toList_ofList]
      exact hname
    · rw [hw, String.toList_ofList]
      simp

/-- The tokens that are closed are those that the search for them finds. -/
theorem closesToken_iff (w name : String) :
    ClosesToken w name ↔ ∃ t ∈ (Token.find w).tokens, t.name = name := by
  rw [Element.find_eq_search]
  constructor
  · rintro ⟨before, es, after, hreads, hname, hw⟩
    have hscan : Element.scan w =
        es ++ .token name :: Element.scanFrom none after := by
      have hopen : ∀ rest, '$' :: '(' :: (name.toList ++ ')' :: after) ≠ '(' :: rest := by simp
      rw [Element.scan, hw, Element.scanFrom_append_of_reads hreads hopen, Element.scanFrom,
        Element.scanFrom_open_append _ _ _ hname, List.reverse_nil, List.nil_append,
        String.ofList_toList]
    rw [hscan]
    exact Element.exists_mem_search ((Element.reads_iff before es).mp hreads).2
  · rintro ⟨t, ht, rfl⟩
    exact closesToken_of_mem_scan (Element.mem_of_mem_search ht)

/-- Maps that agree on the names that a wildcard looks up have the same lists for it. -/
theorem customLists_congr {s s' : Substitutions} {w : String}
    (h : ∀ name, ClosesToken w name → ¬ Reserved name → s.get? name = s'.get? name) :
    Token.customLists s w = Token.customLists s' w := by
  unfold Token.customLists
  apply List.map_congr_left
  intro t ht
  obtain ⟨hmem, hbuiltin⟩ := List.mem_filter.mp ht
  refine h t.name ((closesToken_iff w t.name).mpr ⟨t, hmem, rfl⟩) ?_
  rw [← Item.builtin?_eq_none_iff]
  simpa [Token.isBuiltin] using hbuiltin

/-! ## Inert differences -/

/-- The second has the constraints, the kind and the flag for case of the first; comment and
percent flag are its own. -/
def Component.DiffersInertly (c c' : Component) : Prop :=
  c' = { c with comment := c'.comment, percentEncoded := c'.percentEncoded }

/-- What defaults say about case, if there are any. -/
def caseDefault (d : Option Defaults) : Option Bool := d.bind (·.caseSensitive)

structure RuleSet.DiffersInertly (r r' : RuleSet) : Prop where
  appIds : r.appIds = r'.appIds
  components : List.Forall₂ Component.DiffersInertly r.components r'.components
  defaults : caseDefault r.defaults = caseDefault r'.defaults

/-- Some wildcard looks the name up in the lists of the link set. -/
def LinkSet.LooksUp (l : LinkSet) (name : String) : Prop :=
  ¬ Reserved name ∧ ∃ r ∈ l.details, ∃ c ∈ r.components, ∃ w ∈ c.wildcards, ClosesToken w name

structure LinkSet.DiffersInertly (l l' : LinkSet) : Prop where
  details : List.Forall₂ RuleSet.DiffersInertly l.details l'.details
  defaults : caseDefault l.defaults = caseDefault l'.defaults
  lists : ∀ name, l.LooksUp name →
    (l.substitutions.getD .empty).get? name = (l'.substitutions.getD .empty).get? name

/-- Both documents have a link section or neither has; all else that may differ is inert. -/
def Document.DiffersInertly (d d' : Document) : Prop :=
  Option.Rel LinkSet.DiffersInertly d.applinks d'.applinks

/-! ## Interchange -/

theorem Component.DiffersInertly.interchangeable {s s' : Setting} {c c' : Component}
    (h : c.DiffersInertly c') (hruleSet : caseDefault s.ruleSet = caseDefault s'.ruleSet)
    (hlinkSet : caseDefault s.linkSet = caseDefault s'.linkSet)
    (hlists : ∀ w ∈ c.wildcards, ∀ name, ClosesToken w name → ¬ Reserved name →
      (s.substitutions.getD .empty).get? name = (s'.substitutions.getD .empty).get? name) :
    Component.Interchangeable s s' c c' := by
  have hcase : c.caseSensitive = c'.caseSensitive := by rw [h]
  constructor
  · intro v
    rw [h]
    rfl
  · rw [h]
    rfl
  · rw [h]
    rfl
  · intro w hw
    have hflag : (s.rules c).caseSensitive = (s'.rules c').caseSensitive := by
      unfold Setting.rules Rules.resolve Rules.inherit
      unfold caseDefault at hruleSet hlinkSet
      simp only [hcase, hruleSet, hlinkSet]
    unfold CacheKey.of
    rw [hflag]
    congr 1
    exact customLists_congr (hlists w hw)

theorem LinkSet.DiffersInertly.interchangeable {l l' : LinkSet} (h : l.DiffersInertly l') :
    l.Interchangeable l' := by
  have hdetails := (List.forall₂_and_left _ _).mpr ⟨fun r hr => hr, h.details⟩
  refine hdetails.imp fun r r' ⟨hr, hinert⟩ => ⟨hinert.appIds, ?_⟩
  have hcomponents := (List.forall₂_and_left _ _).mpr ⟨fun c hc => hc, hinert.components⟩
  refine hcomponents.imp fun c c' ⟨hc, hcinert⟩ => ?_
  refine hcinert.interchangeable hinert.defaults h.defaults fun w hw name hname hfree => ?_
  exact h.lists name ⟨hfree, r, hr, c, hc, w, hw, hname⟩

theorem Document.DiffersInertly.interchangeable {d d' : Document} (h : d.DiffersInertly d') :
    d.linkSet.Interchangeable d'.linkSet := by
  unfold DiffersInertly at h
  unfold linkSet
  generalize d.applinks = a, d'.applinks = a' at h ⊢
  cases h with
  | some hl => exact hl.interchangeable
  | none => exact .nil

/-! ## Top theorem -/

/-- **Inert parts of a document show in no session**: neither in the identifiers and failures that
it answers nor in how many wildcards are known after any request. -/
theorem Document.transcript_eq_of_differsInertly {d d' : Document} (h : d.DiffersInertly d')
    (qs : List LinkSet.Request) : d.linkSet.transcript qs = d'.linkSet.transcript qs :=
  h.interchangeable.transcript_eq qs

/-- A comment, percent flags on two levels, another section, a list under a reserved name and one
under the name of a token that is never closed. -/
theorem Document.transcript_eq_of_differsInertly_menu :
    let menu : Component := { path := some "/$(lang)/$(food)" }
    let broken : Component := { fragment := some "$(tea)$(open" }
    let l : LinkSet :=
      { details := [{ appIds := ["T.app"], components := [menu, broken] }],
        substitutions := some (.ofList [("food", ["pizza"])]) }
    let l' : LinkSet :=
      { details :=
          [{ appIds := ["T.app"],
             components :=
               [{ menu with comment := some "menu", percentEncoded := some false }, broken],
             defaults := some { percentEncoded := some true } }],
        substitutions := some (.ofList [("food", ["pizza"]), ("lang", ["xx"]), ("open", [])]) }
    let d : Document := { applinks := some l }
    let d' : Document := { applinks := some l', webcredentials := some ⟨["T.app"]⟩ }
    let qs : List LinkSet.Request :=
      [.appIds { scheme := "https", path := "/en/pizza" },
       .appIds { scheme := "https", path := "/xx/pizza" }, .precompile, .clear]
    d.DiffersInertly d' ∧ d.linkSet.transcript qs = d'.linkSet.transcript qs ∧
      d'.linkSet.transcript qs =
        [(.appIds ["T.app"], 1), (.appIds [], 2),
         (.failures [⟨0, 1, "$(tea)$(open", .unresolvedToken "tea"⟩], 2), (.cleared, 0)] := by
  intro menu broken l l' d d' qs
  have htokens : ∀ w ∈ l.details.flatMap fun r => r.components.flatMap (·.wildcards),
      ∀ t ∈ (Token.find w).tokens, Item.builtin? t.name = none →
        (l.substitutions.getD .empty).get? t.name =
          (l'.substitutions.getD .empty).get? t.name := by
    decide +kernel
  have hinert : d.DiffersInertly d' := by
    refine .some ⟨.cons ⟨rfl, .cons rfl (.cons rfl .nil), rfl⟩ .nil, rfl, ?_⟩
    rintro name ⟨hfree, r, hr, c, hc, w, hw, hname⟩
    obtain ⟨t, ht, rfl⟩ := (closesToken_iff w name).mp hname
    have hmem : w ∈ l.details.flatMap fun r => r.components.flatMap (·.wildcards) :=
      List.mem_flatMap.mpr ⟨r, hr, List.mem_flatMap.mpr ⟨c, hc, hw⟩⟩
    exact htokens w hmem t ht ((Item.builtin?_eq_none_iff t.name).mpr hfree)
  exact ⟨hinert, transcript_eq_of_differsInertly hinert qs, by decide +kernel⟩

end AppLinks
