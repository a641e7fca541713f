import AppLinks.Proofs.Regex.Basic
import AppLinks.Proofs.Wildcard.Meaning

/-!
# The source of a pattern

A pattern is written piece by piece, and what a piece is read as does not depend on the pieces
around it: reading the expression of an item, from wherever the reader stands between two items,
pushes one tree and nothing else.  So the source of a pattern is read as one tree for every element
of its wildcard, held at both ends, and it finds the texts that the pattern accepts.

    run ⟨.plain, outer, f⟩ i.expression.toList =
      some ⟨.plain, outer, f.push i.regex⟩                                     (run_expression)
    i.regex.Takes r.Same b u a ↔ i.Admits r u                                   (takes_regex_iff)
-/

namespace AppLinks

/-! ## Trees of elements -/

namespace Regex

/-- The characters of a text, one after the other. -/
def word (w : String) : Regex := .sequence (w.toList.map .char)

/-- A class without a member: nothing is neither blank nor not blank. -/
def never : Regex := .bracket true [.blank, .notBlank]

/-- One of the words; nothing when there are none. -/
def oneOf : List String → Regex
  | [] => never
  | ws => .alternatives (ws.map word)

end Regex

def CharClass.regex (k : CharClass) : Regex :=
  .bracket false (k.ranges.map fun r => .range r.1 r.2)

/-- The tree that an element of a wildcard stands for. -/
inductive Element.Denotes (s : Substitutions) : Element → Regex → Prop
  | one : Denotes s .one .any
  | run : Denotes s .run (.star .any)
  | standard (k : CharClass) : Denotes s (.token k.name) k.regex
  | region : Denotes s (.token "region") (.oneOf Locale.regions)
  | language : Denotes s (.token "lang") (.oneOf Locale.languages)
  | listed {name : String} {ws : List String} : ¬ Reserved name → s.get? name = some ws →
      Denotes s (.token name) (.oneOf ws)
  | literal (c : Char) : Denotes s (.literal c) (.char c)

def Item.regex : Item → Regex
  | .one => .any
  | .run => .star .any
  | .anyOf k => k.regex
  | .words ws => .oneOf ws
  | .literal c => .char c

theorem Element.denotes_of_resolve {s : Substitutions} {e : Element} {n : Nat} {i : Item}
    (h : e.resolve s n = .ok i) : e.Denotes s i.regex := by
  cases e with
  | one =>
    cases h
    exact .one
  | run =>
    cases h
    exact .run
  | literal c =>
    cases h
    exact .literal c
  | unclosed rest => cases h
  | token name =>
    simp only [resolve, Item.ofToken?] at h
    cases hb : Item.builtin? name with
    | some j =>
      rw [hb] at h
      cases h
      unfold Item.builtin? at hb
      split at hb
      · next k hk =>
        cases hb
        rw [← CharClass.name_of_ofName? hk]
        exact .standard k
      · split at hb
        · next hr =>
          cases hb
          rw [hr]
          exact .region
        · split at hb
          · next hl =>
            cases hb
            rw [hl]
            exact .language
          · cases hb
    | none =>
      rw [hb] at h
      cases hws : s.get? name with
      | none =>
        rw [hws] at h
        cases h
      | some ws =>
        rw [hws] at h
        cases h
        exact .listed ((Item.builtin?_eq_none_iff name).mp hb) hws

/-! ## Reading what is written -/

namespace Regex

/-- A plain character or one behind a backslash is read as itself, whatever stands around it. -/
theorem run_escapeChar (outer : List Frame) (f : Frame) (c : Char) :
    Reading.run ⟨.plain, outer, f⟩ (Item.escapeChar c) =
      some ⟨.plain, outer, f.push (.char c)⟩ := by
  unfold Item.escapeChar
  by_cases hc : Item.reserved.contains c = true
  · have hall : Item.reserved.all (fun d => d != 'A' && (d != 'z' &&
        (d.toNat < 0x80 && !d.isAlphanum && d != '<' && d != '>'))) = true := rfl
    have hmem := List.all_eq_true.mp hall c (List.contains_iff_mem.mp hc)
    rw [Bool.and_eq_true, Bool.and_eq_true, bne_iff_ne, bne_iff_ne] at hmem
    obtain ⟨hA, hz, hpunctuation⟩ := hmem
    have hescaped : escaped? c = some (.char c) := by
      unfold escaped?
      rw [if_neg hA, if_neg hz, if_pos hpunctuation]
    rw [if_pos hc]
    show (escaped? c).map _ >>= _ = _
    rw [hescaped]
    rfl
  · have hne : ∀ d ∈ Item.reserved, c ≠ d := by
      rintro d hd rfl
      exact hc (List.contains_iff_mem.mpr hd)
    have hplain : unsupported.contains c = false := by
      rw [← Bool.not_eq_true, List.contains_iff_mem]
      intro hmem
      have hall : unsupported.all Item.reserved.contains = true := rfl
      exact hc (List.all_eq_true.mp hall c hmem)
    rw [if_neg hc]
    show Reading.stepPlain _ c >>= _ = _
    unfold Reading.stepPlain
    rw [if_neg (hne '\\' (by decide)), if_neg (hne '(' (by decide)), if_neg (hne ')' (by decide)),
      if_neg (hne '|' (by decide)), if_neg (hne '[' (by decide)), if_neg (hne '.' (by decide)),
      if_neg (hne '*' (by decide)), hplain]
    rfl

theorem run_escape (outer : List Frame) (f : Frame) (w : List Char) :
    Reading.run ⟨.plain, outer, f⟩ (w.flatMap Item.escapeChar) =
      some ⟨.plain, outer, ⟨f.closed, (w.map Regex.char).reverse ++ f.items⟩⟩ := by
  induction w generalizing f with
  | nil => rfl
  | cons c w ih =>
    rw [List.flatMap_cons, Reading.run_append (run_escapeChar outer f c), ih]
    simp [Frame.push]

/-- Words between bars are the alternatives of the group they stand in. -/
theorem run_words (outer : List Frame) (closed : List Regex) (w : String) (ws : List String) :
    ∃ f : Frame, Reading.run ⟨.plain, outer, ⟨closed, []⟩⟩
        (['|'].intercalate ((w :: ws).map fun w => (Item.escape w).toList)) =
          some ⟨.plain, outer, f⟩ ∧
      f.alternatives.reverse = closed.reverse ++ (w :: ws).map word := by
  have hword : Reading.run ⟨.plain, outer, ⟨closed, []⟩⟩ (Item.escape w).toList =
      some ⟨.plain, outer, ⟨closed, (w.toList.map Regex.char).reverse⟩⟩ := by
    simpa [Item.escape] using run_escape outer ⟨closed, []⟩ w.toList
  induction ws generalizing closed w with
  | nil =>
    refine ⟨⟨closed, (w.toList.map Regex.char).reverse⟩, by simpa using hword, ?_⟩
    simp [Frame.alternatives, word]
  | cons v ws ih =>
    have hbar : Reading.step ⟨.plain, outer, ⟨closed, (w.toList.map Regex.char).reverse⟩⟩ '|' =
        some ⟨.plain, outer, ⟨word w :: closed, []⟩⟩ := by
      simp [Reading.step, Reading.stepPlain, Frame.nextAlternative, Frame.alternatives, word]
    obtain ⟨f, hread, hf⟩ := ih (word w :: closed) v (by
      simpa [Item.escape] using run_escape outer ⟨word w :: closed, []⟩ v.toList)
    refine ⟨f, ?_, by simp [hf]⟩
    rw [List.map_cons, List.map_cons, List.intercalate_cons_cons, List.append_assoc,
      Reading.run_append hword, List.singleton_append, Reading.run_cons hbar]
    exact hread

theorem run_alternation (outer : List Frame) (f : Frame) (ws : List String) :
    Reading.run ⟨.plain, outer, f⟩ (Item.alternation ws).toList =
      some ⟨.plain, outer, f.push (.oneOf ws)⟩ := by
  cases ws with
  | nil => rfl
  | cons w ws =>
    obtain ⟨g, hread, hg⟩ := run_words (f :: outer) [] w ws
    have htext : (Item.alternation (w :: ws)).toList = ['(', '?', ':'] ++
        ((['|'].intercalate ((w :: ws).map fun w => (Item.escape w).toList)) ++ [')']) := by
      simp [Item.alternation, String.toList_intercalate, Function.comp_def]
    have hopen : Reading.run ⟨.plain, outer, f⟩ ['(', '?', ':'] =
        some ⟨.plain, f :: outer, {}⟩ := rfl
    rw [htext, Reading.run_append hopen, Reading.run_append hread]
    show some (Reading.mk .plain outer (f.push g.regex)) = _
    unfold Frame.regex
    rw [hg]
    rfl

/-- The expression of an item is read as its tree, whatever stands around it. -/
theorem run_expression (outer : List Frame) (f : Frame) (i : Item) :
    Reading.run ⟨.plain, outer, f⟩ i.expression.toList =
      some ⟨.plain, outer, f.push i.regex⟩ := by
  cases i with
  | one => rfl
  | run => rfl
  | anyOf k => cases k <;> rfl
  | words ws => exact run_alternation outer f ws
  | literal c => simpa [Item.expression, Item.regex] using run_escapeChar outer f c

theorem run_expressions (outer : List Frame) (f : Frame) (is : List Item) :
    Reading.run ⟨.plain, outer, f⟩ (is.flatMap fun i => i.expression.toList) =
      some ⟨.plain, outer, ⟨f.closed, (is.map Item.regex).reverse ++ f.items⟩⟩ := by
  induction is generalizing f with
  | nil => rfl
  | cons i is ih =>
    rw [List.flatMap_cons, Reading.run_append (run_expression outer f i), ih]
    simp [Frame.push]

end Regex

/-! ## What the trees take -/

section
variable {r : Rules} {b u a : List Char}

theorem Regex.takes_word_iff (w : List Char) :
    (Regex.sequence (w.map .char)).Takes r.Same b u a ↔ List.Forall₂ r.Same w u := by
  induction w generalizing b u with
  | nil => simp [takes_sequence_nil]
  | cons c w ih =>
    rw [List.map_cons, takes_sequence_cons, List.forall₂_cons_left_iff]
    constructor
    · rintro ⟨_, v, rfl, hc, hw⟩
      obtain ⟨d, rfl, hd⟩ := (takes_char_iff c).mp hc
      exact ⟨d, v, hd, ih.mp hw, rfl⟩
    · rintro ⟨d, v, hd, hw, rfl⟩
      exact ⟨[d], v, rfl, .char hd, ih.mpr hw⟩

theorem Regex.not_takes_never : ¬ never.Takes r.Same b u a := by
  intro h
  obtain ⟨d, rfl, hd⟩ := (takes_bracket_iff _ _).mp h
  apply hd
  cases hblank : ClassMember.blanks.contains d with
  | true => exact ⟨.blank, by simp, d, hblank, r.same_refl d⟩
  | false => exact ⟨.notBlank, by simp, d, hblank, r.same_refl d⟩

theorem CharClass.inBracket_iff (same : Char → Char → Prop) (k : CharClass) (d : Char) :
    Regex.InBracket same false (k.ranges.map fun r => .range r.1 r.2) d ↔
      ∃ c ∈ k.members, same c d := by
  have hlow : ∀ r ∈ k.ranges, r.2.toNat < 0xD800 := by cases k <;> decide
  have hmember : ∀ c, c ∈ k.members ↔ ∃ r ∈ k.ranges, r.1 ≤ c ∧ c ≤ r.2 := by
    intro c
    unfold members
    rw [List.mem_flatMap]
    exact exists_congr fun r => and_congr_right fun hr => mem_interval_iff (hlow r hr) c
  unfold Regex.InBracket
  rw [if_neg Bool.false_ne_true]
  constructor
  · rintro ⟨m, hm, c, hc, hcd⟩
    obtain ⟨r, hr, rfl⟩ := List.mem_map.mp hm
    exact ⟨c, (hmember c).mpr ⟨r, hr, hc⟩, hcd⟩
  · rintro ⟨c, hc, hcd⟩
    obtain ⟨r, hr, hc⟩ := (hmember c).mp hc
    exact ⟨_, List.mem_map_of_mem hr, c, hc, hcd⟩

theorem Regex.takes_oneOf_iff (ws : List String) :
    (oneOf ws).Takes r.Same b u a ↔ ∃ w ∈ ws, List.Forall₂ r.Same w.toList u := by
  cases ws with
  | nil => exact iff_of_false not_takes_never (by simp)
  | cons w ws =>
    show (Regex.alternatives ((w :: ws).map word)).Takes r.Same b u a ↔ _
    simp only [takes_alternatives_iff, List.mem_map, exists_exists_and_eq_and]
    exact exists_congr fun v => and_congr_right fun _ => takes_word_iff v.toList

/-- The tree of an item takes what the item admits. -/
theorem Item.takes_regex_iff (i : Item) :
    i.regex.Takes r.Same b u a ↔ i.Admits r u := by
  cases i with
  | one =>
    rw [Item.regex, Regex.takes_any_iff]
    constructor
    · rintro ⟨d, rfl⟩
      exact ⟨[d], ⟨d, rfl⟩, .cons (r.same_refl d) .nil⟩
    · rintro ⟨_, ⟨c, rfl⟩, h⟩
      obtain ⟨d, _, -, hnil, rfl⟩ := List.forall₂_cons_left_iff.mp h
      cases hnil
      exact ⟨d, rfl⟩
  | run =>
    refine iff_of_true Regex.takes_star_any ⟨u, trivial, ?_⟩
    exact List.forall₂_same.mpr fun c _ => r.same_refl c
  | anyOf k =>
    rw [Item.regex, CharClass.regex, Regex.takes_bracket_iff]
    constructor
    · rintro ⟨d, rfl, hd⟩
      obtain ⟨c, hc, hcd⟩ := (k.inBracket_iff r.Same d).mp hd
      exact ⟨[c], ⟨c, hc, rfl⟩, .cons hcd .nil⟩
    · rintro ⟨_, ⟨c, hc, rfl⟩, h⟩
      obtain ⟨d, _, hcd, hnil, rfl⟩ := List.forall₂_cons_left_iff.mp h
      cases hnil
      exact ⟨d, rfl, (k.inBracket_iff r.Same d).mpr ⟨c, hc, hcd⟩⟩
  | words ws =>
    rw [Item.regex, Regex.takes_oneOf_iff]
    constructor
    · rintro ⟨w, hw, h⟩
      exact ⟨w.toList, ⟨w, hw, rfl⟩, h⟩
    · rintro ⟨_, ⟨w, hw, rfl⟩, h⟩
      exact ⟨w, hw, h⟩
  | literal c =>
    rw [Item.regex, Regex.takes_char_iff]
    constructor
    · rintro ⟨d, rfl, hcd⟩
      exact ⟨[c], rfl, .cons hcd .nil⟩
    · rintro ⟨_, rfl, h⟩
      obtain ⟨d, _, hcd, hnil, rfl⟩ := List.forall₂_cons_left_iff.mp h
      cases hnil
      exact ⟨d, rfl, hcd⟩

/-- A sequence of trees takes what can be cut along the items. -/
theorem Item.takes_sequence_iff (is : List Item) :
    (Regex.sequence (is.map Item.regex)).Takes r.Same b u a ↔
      CutInto (Item.Admits r) is u := by
  induction is generalizing b u with
  | nil => rw [List.map_nil, Regex.takes_sequence_nil, cutInto_nil]
  | cons i is ih =>
    rw [List.map_cons, Regex.takes_sequence_cons, cutInto_cons]
    refine exists_congr fun s => exists_congr fun v => and_congr_right fun _ => ?_
    exact and_congr i.takes_regex_iff ih

end

/-! ## Top theorem -/

/-- **The source of a pattern is read as one tree for every element of its wildcard**, held at
both ends, whatever characters the wildcard and the lists hold; and it finds what the pattern
accepts. -/
theorem Pattern.read_source {w : String} {r : Rules} {p : Pattern} (h : compile w r = .ok p) :
    ∃ (es : List Element) (trees : List Regex) (body : String),
      Element.Reads w.toList es ∧
      List.Forall₂ (Element.Denotes r.substitutions) es trees ∧
      p.source = "\\A(?:" ++ body ++ ")\\z" ∧
      Regex.read body = some (.alternatives [.sequence trees]) ∧
      Regex.read p.source = some (.alternatives
        [.sequence [.atStart, .alternatives [.sequence trees], .atEnd]]) ∧
      ∀ text : String, p.accepts text = true ↔
        (Regex.alternatives [.sequence [.atStart, .alternatives [.sequence trees], .atEnd]]).FoundIn
          r.Same text.toList := by
  obtain ⟨items, hitems, -, rfl⟩ := (compile_eq_ok_iff w r p).mp h
  have hbody : (String.join (items.map (·.expression))).toList =
      items.flatMap fun i => i.expression.toList := by
    rw [String.toList_join, List.flatMap_map]
  refine ⟨Element.scan w, items.map Item.regex, String.join (items.map (·.expression)), ?_, ?_,
    ?_, ?_, ?_, ?_⟩
  · exact Element.reads_scanFrom w.toList (Element.not_mem_unclosed_of_resolveFrom hitems)
  · rw [List.forall₂_map_right_iff]
    exact (Element.forall₂_of_resolveFrom hitems).imp fun e i ⟨n, hi⟩ =>
      Element.denotes_of_resolve hi
  · unfold source
    rfl
  · unfold Regex.read
    rw [hbody, Regex.run_expressions]
    simp [Regex.Reading.finish, Regex.Frame.regex, Regex.Frame.alternatives]
  · have hsource : (source ⟨r.caseSensitive, items⟩).toList = ['\\', 'A', '(', '?', ':'] ++
        ((items.flatMap fun i => i.expression.toList) ++ [')', '\\', 'z']) := by
      unfold source
      rw [String.toList_append, String.toList_append, hbody, List.append_assoc]
      rfl
    have hopen : Regex.Reading.run {} ['\\', 'A', '(', '?', ':'] =
        some ⟨.plain, [⟨[], [.atStart]⟩], {}⟩ := rfl
    unfold Regex.read
    rw [hsource, Regex.Reading.run_append hopen,
      Regex.Reading.run_append (Regex.run_expressions _ _ items)]
    show some (Regex.alternatives [.sequence [.atStart,
      .alternatives [.sequence ((items.map Item.regex).reverse ++ []).reverse], .atEnd]]) = _
    rw [List.append_nil, List.reverse_reverse]
  · intro text
    rw [accepts_iff_cutInto (r := r) rfl, Regex.foundIn_anchored_iff,
      Regex.takes_alternatives_iff, ← Item.takes_sequence_iff (b := []) (a := [])]
    simp

/-- Values that would be operators, alternatives and the end of their group. -/
theorem Pattern.read_source_of_operators :
    let r : Rules := { caseSensitive := false, substitutions := .ofList [("x", ["?|", "", ".*)"])] }
    let p : Pattern :=
      ⟨false, [.run, .literal '(', .words ["?|", "", ".*)"], .literal '$', .literal ')']⟩
    compile "*($(x)$)" r = .ok p ∧
    ∃ (es : List Element) (trees : List Regex) (body : String),
      Element.Reads "*($(x)$)".toList es ∧
      List.Forall₂ (Element.Denotes r.substitutions) es trees ∧
      p.source = "\\A(?:" ++ body ++ ")\\z" ∧
      Regex.read body = some (.alternatives [.sequence trees]) ∧
      Regex.read p.source = some (.alternatives
        [.sequence [.atStart, .alternatives [.sequence trees], .atEnd]]) ∧
      ∀ text : String, p.accepts text = true ↔
        (Regex.alternatives [.sequence [.atStart, .alternatives [.sequence trees], .atEnd]]).FoundIn
          r.Same text.toList := by
  intro r p
  have hcompile : compile "*($(x)$)" r = .ok p :=
    (compile_eq_ok_iff _ _ _).mpr ⟨_, rfl, by decide, rfl⟩
  exact ⟨hcompile, read_source hcompile⟩

end AppLinks
