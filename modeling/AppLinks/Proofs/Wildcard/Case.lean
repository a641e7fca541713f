import AppLinks.Proofs.Text.CaseFold
import AppLinks.Proofs.Wildcard.Error

/-!
# Matching without regard to case

A pattern that ignores case compares folded characters, so it sees of its wildcard, of the lists
behind the tokens and of a text only what all variants share.  Variants of a wildcard are scanned to
the same elements but for the variants among its literal characters: no sign that has a meaning in a
wildcard has a variant of its own.  Ignoring case never takes away what a pattern accepts.

    Recased cs ds → Forall₂ Alike (scanFrom none cs) (scanFrom none ds)   (forall₂_alike_of_recased)
    accepts ⟨true, is⟩ text = true → accepts ⟨false, is⟩ text = true            (accepts_of_strict)
-/

namespace AppLinks

open Text (CaseVariants caseVariants_iff)

/-! ## Variants of texts, wildcards and lists -/

/-- Texts of one length whose characters are variants, place by place. -/
def Text.SameUpToCase (s t : String) : Prop :=
  List.Forall₂ CaseVariants s.toList t.toList

/-- The same names, and for each of them texts that are variants, place by place. -/
def Substitutions.Recased (s s' : Substitutions) : Prop :=
  ∀ name, Option.Rel (List.Forall₂ Text.SameUpToCase) (s.get? name) (s'.get? name)

namespace Element

/-- The same closed tokens, and variants for all characters outside them. -/
inductive Recased : List Char → List Char → Prop
  | nil : Recased [] []
  | token {name cs ds : List Char} : ')' ∉ name → Recased cs ds →
      Recased ('$' :: '(' :: (name ++ ')' :: cs)) ('$' :: '(' :: (name ++ ')' :: ds))
  | char {c d : Char} {cs ds : List Char} : (∀ rest, c = '$' → cs ≠ '(' :: rest) →
      CaseVariants c d → Recased cs ds → Recased (c :: cs) (d :: ds)

/-- The same element, or literal characters that are variants. -/
inductive Alike : Element → Element → Prop
  | one : Alike .one .one
  | run : Alike .run .run
  | token (name : String) : Alike (.token name) (.token name)
  | literal {c d : Char} : CaseVariants c d → Alike (.literal c) (.literal d)

end Element

/-! ## Folding -/

theorem Text.forall₂_caseVariants_iff (cs ds : List Char) :
    List.Forall₂ CaseVariants cs ds ↔ cs.map fold = ds.map fold := by
  rw [← List.forall₂_eq_eq_eq, List.forall₂_map_left_iff, List.forall₂_map_right_iff]
  constructor
  · exact List.Forall₂.imp fun c d => (caseVariants_iff c d).mp
  · exact List.Forall₂.imp fun c d => (caseVariants_iff c d).mpr

theorem Text.sameUpToCase_iff (s t : String) :
    SameUpToCase s t ↔ s.toList.map fold = t.toList.map fold :=
  forall₂_caseVariants_iff s.toList t.toList

theorem Text.SameUpToCase.refl (s : String) : SameUpToCase s s :=
  List.forall₂_same.mpr fun c _ => CaseVariants.refl c

theorem Substitutions.Recased.refl (s : Substitutions) : Recased s s := by
  intro name
  cases s.get? name with
  | none => exact .none
  | some ws => exact .some (List.forall₂_same.mpr fun w _ => Text.SameUpToCase.refl w)

theorem map_fold_eq_of_forall₂ {ws ws' : List String}
    (h : List.Forall₂ Text.SameUpToCase ws ws') :
    ws.map (fun w => w.toList.map Text.fold) = ws'.map fun w => w.toList.map Text.fold := by
  induction h with
  | nil => rfl
  | cons hw _ ih => rw [List.map_cons, List.map_cons, (Text.sameUpToCase_iff _ _).mp hw, ih]

/-! ## Scanning -/

namespace Element

/-- A wildcard that is read is a variant of itself. -/
theorem recased_of_reads {cs : List Char} {es : List Element} (h : Reads cs es) :
    Recased cs cs := by
  induction h with
  | nil => exact .nil
  | one _ ih => exact .char (by simp) (.refl _) ih
  | run _ ih => exact .char (by simp) (.refl _) ih
  | token hname _ ih => exact .token hname ih
  | literal _ _ hopen _ ih => exact .char hopen (.refl _) ih

/-- A sign with a meaning has no variant but itself. -/
theorem eq_iff_of_caseVariants {c d sign : Char} (hsign : sign.toNat < 0x40)
    (h : CaseVariants c d) : c = sign ↔ d = sign := by
  constructor
  · rintro rfl
    exact (Text.eq_of_caseVariants hsign h).symm
  · rintro rfl
    exact (Text.eq_of_caseVariants hsign h.symm).symm

theorem alike_ofChar {c d : Char} (h : CaseVariants c d) : Alike (ofChar c) (ofChar d) := by
  have hone : c = '?' ↔ d = '?' := eq_iff_of_caseVariants (by decide) h
  have hrun : c = '*' ↔ d = '*' := eq_iff_of_caseVariants (by decide) h
  unfold ofChar
  by_cases hc : c = '?'
  · rw [if_pos hc, if_pos (hone.mp hc)]
    exact .one
  · rw [if_neg hc, if_neg fun hd => hc (hone.mpr hd)]
    by_cases hc' : c = '*'
    · rw [if_pos hc', if_pos (hrun.mp hc')]
      exact .run
    · rw [if_neg hc', if_neg fun hd => hc' (hrun.mpr hd)]
      exact .literal h

/-- No variant begins with a parenthesis unless the text does. -/
theorem head_of_recased {cs rest : List Char} (h : Recased cs ('(' :: rest)) :
    ∃ rest', cs = '(' :: rest' := by
  generalize hds : '(' :: rest = ds at h
  cases h with
  | nil => cases hds
  | token => cases hds
  | @char c d cs _ _ hvariants _ =>
    cases hds
    rw [(eq_iff_of_caseVariants (by decide) hvariants).mpr rfl]
    exact ⟨cs, rfl⟩

/-- Variants of a wildcard have the same elements, but for the variants among the literals. -/
theorem forall₂_alike_of_recased {cs ds : List Char} (h : Recased cs ds) :
    List.Forall₂ Alike (scanFrom none cs) (scanFrom none ds) := by
  induction h with
  | nil => exact .nil
  | @token name cs ds hname _ ih =>
    rw [scanFrom, scanFrom, scanFrom_open_append _ _ _ hname, scanFrom_open_append _ _ _ hname]
    exact .cons (.token _) ih
  | @char c d cs ds hopen hvariants hrest ih =>
    have hopen' : ∀ rest, d = '$' → ds ≠ '(' :: rest := by
      rintro rest hd rfl
      obtain ⟨rest', rfl⟩ := head_of_recased hrest
      exact hopen rest' ((eq_iff_of_caseVariants (by decide) hvariants).mpr hd) rfl
    rw [scanFrom_cons hopen, scanFrom_cons hopen']
    exact .cons (alike_ofChar hvariants) ih

/-! ## Resolving -/

variable {s s' : Substitutions}

/-- A name stands for variants of what it stands for under lists that are variants. -/
theorem ofToken?_of_recased (hs : Substitutions.Recased s s') {name : String} {i : Item}
    (h : Item.ofToken? s name = some i) :
    ∃ i', Item.ofToken? s' name = some i' ∧ i.piece Text.fold = i'.piece Text.fold := by
  unfold Item.ofToken? at h ⊢
  cases hb : Item.builtin? name with
  | some j =>
    rw [hb] at h
    cases h
    exact ⟨i, rfl, rfl⟩
  | none =>
    rw [hb] at h
    obtain ⟨ws, hws, rfl⟩ := Option.map_eq_some_iff.mp h
    have hlists := hs name
    rw [hws] at hlists
    cases hws' : s'.get? name with
    | none =>
      rw [hws'] at hlists
      cases hlists
    | some ws' =>
      rw [hws'] at hlists
      cases hlists with
      | some hall =>
        refine ⟨.words ws', rfl, ?_⟩
        show Piece.words _ = Piece.words _
        rw [map_fold_eq_of_forall₂ hall]

theorem resolve_of_alike (hs : Substitutions.Recased s s') {e e' : Element} (he : Alike e e')
    {n : Nat} {i : Item} (h : e.resolve s n = .ok i) (m : Nat) :
    ∃ i', e'.resolve s' m = .ok i' ∧ i.piece Text.fold = i'.piece Text.fold := by
  cases he with
  | one =>
    cases h
    exact ⟨.one, rfl, rfl⟩
  | run =>
    cases h
    exact ⟨.run, rfl, rfl⟩
  | @literal c d hvariants =>
    cases h
    refine ⟨.literal d, rfl, ?_⟩
    show Piece.among [Text.fold c] = Piece.among [Text.fold d]
    rw [(caseVariants_iff c d).mp hvariants]
  | token name =>
    simp only [resolve] at h ⊢
    cases hi : Item.ofToken? s name with
    | none =>
      rw [hi] at h
      cases h
    | some j =>
      rw [hi] at h
      cases h
      obtain ⟨i', hi', hpiece⟩ := ofToken?_of_recased hs hi
      rw [hi']
      exact ⟨i', rfl, hpiece⟩

theorem resolveFrom_of_alike (hs : Substitutions.Recased s s') {es es' : List Element}
    (hes : List.Forall₂ Alike es es') {n : Nat} {is : List Item}
    (h : resolveFrom s n es = .ok is) (m : Nat) :
    ∃ is', resolveFrom s' m es' = .ok is' ∧
      is.map (·.piece Text.fold) = is'.map (·.piece Text.fold) := by
  induction hes generalizing n m is with
  | nil =>
    cases h
    exact ⟨[], rfl, rfl⟩
  | @cons e e' es es' he _ ih =>
    obtain ⟨i, js, rfl, hi, hrest⟩ := resolveFrom_cons_eq_ok_iff.mp h
    obtain ⟨i', hi', hpiece⟩ := resolve_of_alike hs he hi m
    obtain ⟨js', hjs', hpieces⟩ := ih hrest (m + e'.size)
    refine ⟨i' :: js', resolveFrom_cons_eq_ok_iff.mpr ⟨i', js', rfl, hi', hjs'⟩, ?_⟩
    rw [List.map_cons, List.map_cons, hpiece, hpieces]

end Element

/-! ## Patterns -/

namespace Pattern

/-- What is accepted without regard to case is decided by what is left after folding. -/
theorem accepts_eq_of_folded {is is' : List Item} {t t' : String}
    (his : is.map (·.piece Text.fold) = is'.map (·.piece Text.fold))
    (ht : Text.SameUpToCase t t') : accepts ⟨false, is⟩ t = accepts ⟨false, is'⟩ t' := by
  show Piece.accepts (is.map (·.piece Text.fold)) (t.toList.map Text.fold) =
    Piece.accepts (is'.map (·.piece Text.fold)) (t'.toList.map Text.fold)
  rw [his, (Text.sameUpToCase_iff t t').mp ht]

/-- Variants of a wildcard under variants of its lists accept variants of a text alike, unless the
variant is too large. -/
theorem compile_of_recased {w w' : String} {r r' : Rules} {p : Pattern}
    (hcase : r.caseSensitive = false) (hcase' : r'.caseSensitive = false)
    (hw : Element.Recased w.toList w'.toList)
    (hs : Substitutions.Recased r.substitutions r'.substitutions) (h : compile w r = .ok p) :
    compile w' r' = .error .tooLarge ∨ ∃ p', compile w' r' = .ok p' ∧
      ∀ t t', Text.SameUpToCase t t' → p.accepts t = p'.accepts t' := by
  obtain ⟨is, his, -, rfl⟩ := (compile_eq_ok_iff w r p).mp h
  obtain ⟨is', his', hpieces⟩ :=
    Element.resolveFrom_of_alike hs (Element.forall₂_alike_of_recased hw) his 0
  rw [compile_of_ok his', hcase, hcase']
  unfold ofItems
  split
  · exact Or.inr ⟨_, rfl, fun t t' => accepts_eq_of_folded hpieces⟩
  · exact Or.inl rfl

/-- The token of a class accepts the variants of its members, and no longer text. -/
theorem accepts_class_iff (k : CharClass) (text : String) :
    accepts ⟨false, [.anyOf k]⟩ text = true ↔
      ∃ c d, text.toList = [c] ∧ k.Holds d ∧ CaseVariants d c := by
  let r : Rules := { caseSensitive := false }
  have hsame : ∀ c d, r.Same c d ↔ CaseVariants c d := fun c d => (caseVariants_iff c d).symm
  rw [accepts_iff_cutInto (r := r) rfl, cutInto_cons]
  simp only [cutInto_nil]
  constructor
  · rintro ⟨u, _, hu, ⟨_, ⟨d, hd, rfl⟩, hv⟩, rfl⟩
    obtain ⟨c, _, hdc, hnil, rfl⟩ := List.forall₂_cons_left_iff.mp hv
    cases hnil
    exact ⟨c, d, by simpa using hu, (k.mem_members_iff d).mp hd, (hsame d c).mp hdc⟩
  · rintro ⟨c, d, hc, hd, hvariants⟩
    exact ⟨[c], [], hc, ⟨[d], ⟨d, (k.mem_members_iff d).mpr hd, rfl⟩,
      .cons ((hsame d c).mpr hvariants) .nil⟩, rfl⟩

theorem compile_class (k : CharClass) (r : Rules) :
    compile ("$(" ++ k.name ++ ")") r = .ok ⟨r.caseSensitive, [.anyOf k]⟩ := by
  refine (compile_eq_ok_iff _ _ _).mpr ⟨[.anyOf k], ?_, ?_, rfl⟩
  · cases k <;> rfl
  · cases k <;> decide

/-! ## Widening -/

/-- A text that is accepted with regard to case is accepted without. -/
theorem accepts_of_strict {is : List Item} {text : String}
    (h : accepts ⟨true, is⟩ text = true) : accepts ⟨false, is⟩ text = true := by
  let strict : Rules := { caseSensitive := true }
  let loose : Rules := { caseSensitive := false }
  have hsame : ∀ c d, strict.Same c d → loose.Same c d := fun c d hcd => congrArg Text.fold hcd
  rw [accepts_iff_cutInto (r := strict) rfl] at h
  rw [accepts_iff_cutInto (r := loose) rfl]
  refine h.imp fun i u => ?_
  rintro ⟨v, hv, hvu⟩
  exact ⟨v, hv, hvu.imp hsame⟩

/-- A wildcard that compiles with regard to case does without, and then accepts no less. -/
theorem compile_loose {w : String} {r : Rules} {p : Pattern} (hcase : r.caseSensitive = true)
    (h : compile w r = .ok p) :
    ∃ p', compile w { r with caseSensitive := false } = .ok p' ∧
      ∀ text, p.accepts text = true → p'.accepts text = true := by
  obtain ⟨is, his, hsize, rfl⟩ := (compile_eq_ok_iff w r p).mp h
  refine ⟨⟨false, is⟩, (compile_eq_ok_iff _ _ _).mpr ⟨is, his, hsize, rfl⟩, fun text => ?_⟩
  rw [hcase]
  exact accepts_of_strict

/-! ## Top theorem -/

/-- **A pattern that ignores case does not tell variants apart**, in a text, in its wildcard or in
the lists; and a character is in a class as soon as one of its variants is. -/
theorem accepts_up_to_case {w : String} {r : Rules} {p : Pattern}
    (hcase : r.caseSensitive = false) (h : compile w r = .ok p) :
    (∀ t t', Text.SameUpToCase t t' → p.accepts t = p.accepts t') ∧
    (∀ w' r', r'.caseSensitive = false → Element.Recased w.toList w'.toList →
      Substitutions.Recased r.substitutions r'.substitutions →
      compile w' r' = .error .tooLarge ∨ ∃ p', compile w' r' = .ok p' ∧
        ∀ t t', Text.SameUpToCase t t' → p.accepts t = p'.accepts t') ∧
    (∀ k : CharClass, ∃ q, compile ("$(" ++ k.name ++ ")") r = .ok q ∧
      ∀ text, q.accepts text = true ↔
        ∃ c d, text.toList = [c] ∧ k.Holds d ∧ CaseVariants d c) ∧
    ∃ q, compile "$(lower)" r = .ok q ∧ q.accepts "\u017f" = true ∧ q.accepts "\u212a" = true := by
  have hclass : ∀ k : CharClass, compile ("$(" ++ k.name ++ ")") r = .ok ⟨false, [.anyOf k]⟩ := by
    intro k
    rw [compile_class k r, hcase]
  refine ⟨?_, ?_, ?_, ?_⟩
  · obtain ⟨is, his, -, -⟩ := (compile_eq_ok_iff w r p).mp h
    have hself : Element.Recased w.toList w.toList :=
      Element.recased_of_reads (Element.reads_of_resolveFrom his)
    rcases compile_of_recased hcase hcase hself (.refl _) h with hlarge | ⟨p', hp', haccepts⟩
    · rw [h] at hlarge
      cases hlarge
    · rw [h] at hp'
      cases hp'
      exact haccepts
  · intro w' r' hcase' hw hs
    exact compile_of_recased hcase hcase' hw hs h
  · exact fun k => ⟨_, hclass k, accepts_class_iff k⟩
  · refine ⟨_, hclass .lower, ?_, ?_⟩
    · decide +kernel
    · decide +kernel

/-- Variants that take more bytes than what they stand for: the sign for kelvin in the wildcard and
the capital sharp s in the list. -/
theorem accepts_up_to_case_of_kelvin :
    let r : Rules := { caseSensitive := false, substitutions := .ofList [("street", ["Stra\u00dfe"])] }
    let r' : Rules :=
      { caseSensitive := false, substitutions := .ofList [("street", ["sTRA\u1e9eE"])] }
    let p : Pattern := ⟨false, [.literal 'k', .run, .words ["Stra\u00dfe"]]⟩
    compile "k*$(street)" r = .ok p ∧
      Element.Recased "k*$(street)".toList "\u212a*$(street)".toList ∧
      Substitutions.Recased r.substitutions r'.substitutions ∧
      Text.SameUpToCase "k9-STRA\u1e9eE" "\u212a9-\u017ftra\u00dfe" ∧
      p.accepts "k9-STRA\u1e9eE" = true ∧
      p.accepts "\u212a9-\u017ftra\u00dfe" = true ∧
      (compile "\u212a*$(street)" r' = .error .tooLarge ∨
        ∃ p', compile "\u212a*$(street)" r' = .ok p' ∧
          ∀ t t', Text.SameUpToCase t t' → p.accepts t = p'.accepts t') := by
  intro r r' p
  have hcompile : compile "k*$(street)" r = .ok p :=
    (compile_eq_ok_iff _ _ _).mpr ⟨_, rfl, by decide, rfl⟩
  have hkelvin : CaseVariants 'k' '\u212a' := (caseVariants_iff _ _).mpr (by decide)
  have htoken : Element.Recased "$(street)".toList "$(street)".toList :=
    @Element.Recased.token "street".toList [] [] (by decide) .nil
  have hrun : Element.Recased ('*' :: "$(street)".toList) ('*' :: "$(street)".toList) :=
    .char (by simp) (.refl '*') htoken
  have hwildcard : Element.Recased "k*$(street)".toList "\u212a*$(street)".toList := by
    have hk : "k*$(street)".toList = 'k' :: '*' :: "$(street)".toList := by decide +kernel
    have hkelvin' : "\u212a*$(street)".toList = '\u212a' :: '*' :: "$(street)".toList := by
      decide +kernel
    rw [hk, hkelvin']
    exact .char (by simp) hkelvin hrun
  have hlists : Substitutions.Recased r.substitutions r'.substitutions := by
    intro name
    show Option.Rel _ ((NameMap.empty.insert "street" _).get? name)
      ((NameMap.empty.insert "street" _).get? name)
    rw [NameMap.get?_insert, NameMap.get?_insert]
    split
    · exact .some (.cons ((Text.sameUpToCase_iff _ _).mpr (by decide +kernel)) .nil)
    · exact .none
  have htexts : Text.SameUpToCase "k9-STRA\u1e9eE" "\u212a9-\u017ftra\u00dfe" :=
    (Text.sameUpToCase_iff _ _).mpr (by decide +kernel)
  obtain ⟨hsame, hvariants, -, -⟩ := accepts_up_to_case rfl hcompile
  have htext : p.accepts "k9-STRA\u1e9eE" = true := by decide +kernel
  refine ⟨hcompile, hwildcard, hlists, htexts, htext, ?_, hvariants _ r' rfl hwildcard hlists⟩
  rw [← hsame _ _ htexts]
  exact htext

end Pattern

end AppLinks
