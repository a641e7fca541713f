import AppLinks.Proofs.Wildcard.Error

/-!
# Question marks and stars in a row

Jokers that stand together outside tokens ask for nothing but a number of characters: at least as
many as there are question marks if there is a star among them, else exactly as many.  So their
order does not count, nor how many stars there are, and they may be settled as the question marks
followed by one star, whatever stands around them.

    CutInto _ cs s ↔ if '*' ∈ cs then cs.count '?' ≤ s.length else s.length = cs.count '?'
                                                                          (cutInto_jokers)
-/

namespace AppLinks

/-! ## Jokers -/

/-- The characters that stand for others in a wildcard. -/
def IsJoker (c : Char) : Prop := c = '?' ∨ c = '*'

instance (c : Char) : Decidable (IsJoker c) :=
  inferInstanceAs (Decidable (c = '?' ∨ c = '*'))

/-- The question marks of a text and one star behind them. -/
def settledChars (cs : List Char) : List Char :=
  List.replicate (cs.count '?') '?' ++ ['*']

def settled (jokers : String) : String := String.ofList (settledChars jokers.toList)

theorem isJoker_of_mem_settledChars {cs : List Char} {c : Char} (h : c ∈ settledChars cs) :
    IsJoker c := by
  rcases List.mem_append.mp h with h | h
  · exact Or.inl (List.eq_of_mem_replicate h)
  · exact Or.inr (List.mem_singleton.mp h)

theorem star_mem_settledChars (cs : List Char) : '*' ∈ settledChars cs :=
  List.mem_append_right _ List.mem_cons_self

theorem count_settledChars (cs : List Char) : (settledChars cs).count '?' = cs.count '?' := by
  unfold settledChars
  rw [List.count_append, List.count_replicate_self]
  rfl

/-- The item of a joker. -/
def Item.ofJoker (c : Char) : Item := if c = '?' then .one else .run

/-! ## Elements -/

namespace Element

/-- Jokers are read one by one, whatever comes behind them. -/
theorem scanFrom_jokers_append {js : List Char} (hjs : ∀ c ∈ js, IsJoker c) (cs : List Char) :
    scanFrom none (js ++ cs) = js.map ofChar ++ scanFrom none cs := by
  induction js with
  | nil => rfl
  | cons c js ih =>
    have hopen : ∀ rest, c = '$' → js ++ cs ≠ '(' :: rest := by
      rintro rest rfl
      exact absurd (hjs _ List.mem_cons_self) (by decide)
    rw [List.cons_append, scanFrom_cons hopen, ih fun d hd => hjs d (List.mem_cons_of_mem _ hd)]
    rfl

theorem resolve_ofChar {c : Char} (h : IsJoker c) (s : Substitutions) (n : Nat) :
    (ofChar c).resolve s n = .ok (.ofJoker c) := by
  rcases h with rfl | rfl
  · rfl
  · rfl

theorem resolveFrom_jokers {js : List Char} (hjs : ∀ c ∈ js, IsJoker c) (s : Substitutions)
    (n : Nat) : resolveFrom s n (js.map ofChar) = .ok (js.map Item.ofJoker) := by
  induction js generalizing n with
  | nil => rfl
  | cons c js ih =>
    refine resolveFrom_cons_eq_ok_iff.mpr ⟨_, _, rfl, ?_, ?_⟩
    · exact resolve_ofChar (hjs c List.mem_cons_self) s n
    · exact ih (fun d hd => hjs d (List.mem_cons_of_mem _ hd)) _

/-- Where an element stands matters to an error alone. -/
theorem resolve_of_offset {s : Substitutions} {n : Nat} {e : Element} {i : Item}
    (h : e.resolve s n = .ok i) (m : Nat) : e.resolve s m = .ok i := by
  cases e with
  | unclosed rest => cases h
  | token name => exact h
  | one => exact h
  | run => exact h
  | literal c => exact h

theorem resolveFrom_of_offset {s : Substitutions} {n : Nat} {es : List Element} {is : List Item}
    (h : resolveFrom s n es = .ok is) (m : Nat) : resolveFrom s m es = .ok is := by
  induction es generalizing n m is with
  | nil => exact h
  | cons e es ih =>
    obtain ⟨i, js, rfl, he, hrest⟩ := resolveFrom_cons_eq_ok_iff.mp h
    exact resolveFrom_cons_eq_ok_iff.mpr
      ⟨i, js, rfl, resolve_of_offset he m, ih hrest (m + e.size)⟩

/-- What comes first and what comes behind it are resolved each by itself. -/
theorem resolveFrom_append_eq_ok_iff {s : Substitutions} {n : Nat} {es fs : List Element}
    {is : List Item} :
    resolveFrom s n (es ++ fs) = .ok is ↔
      ∃ js ks, is = js ++ ks ∧ resolveFrom s n es = .ok js ∧ resolveFrom s 0 fs = .ok ks := by
  induction es generalizing n is with
  | nil =>
    constructor
    · intro h
      exact ⟨[], is, rfl, rfl, resolveFrom_of_offset h 0⟩
    · rintro ⟨_, ks, rfl, hjs, hks⟩
      cases hjs
      exact resolveFrom_of_offset hks n
  | cons e es ih =>
    rw [List.cons_append, resolveFrom_cons_eq_ok_iff]
    constructor
    · rintro ⟨i, _, rfl, hi, hrest⟩
      obtain ⟨js, ks, rfl, hjs, hks⟩ := ih.mp hrest
      exact ⟨i :: js, ks, rfl, resolveFrom_cons_eq_ok_iff.mpr ⟨i, js, rfl, hi, hjs⟩, hks⟩
    · rintro ⟨_, ks, rfl, hfirst, hks⟩
      obtain ⟨i, js, rfl, hi, hjs⟩ := resolveFrom_cons_eq_ok_iff.mp hfirst
      exact ⟨i, js ++ ks, rfl, hi, ih.mpr ⟨js, ks, rfl, hjs, hks⟩⟩

/-- Jokers behind what is read become one item each, and the rest is resolved as if it stood
alone. -/
theorem resolveFrom_around_jokers_iff {before js after : List Char} {es : List Element}
    (hes : Reads before es) (hjs : ∀ c ∈ js, IsJoker c) (hne : js ≠ []) (s : Substitutions)
    (is : List Item) :
    resolveFrom s 0 (scanFrom none (before ++ (js ++ after))) = .ok is ↔
      ∃ as bs, is = as ++ (js.map Item.ofJoker ++ bs) ∧ resolveFrom s 0 es = .ok as ∧
        resolveFrom s 0 (scanFrom none after) = .ok bs := by
  have hnext : ∀ rest, js ++ after ≠ '(' :: rest := by
    intro rest he
    cases js with
    | nil => exact hne rfl
    | cons c js =>
      cases he
      exact absurd (hjs _ List.mem_cons_self) (by decide)
  rw [scanFrom_append_of_reads hes hnext, scanFrom_jokers_append hjs,
    resolveFrom_append_eq_ok_iff]
  constructor
  · rintro ⟨as, _, rfl, has, hrest⟩
    obtain ⟨ks, bs, rfl, hks, hbs⟩ := resolveFrom_append_eq_ok_iff.mp hrest
    rw [resolveFrom_jokers hjs] at hks
    cases hks
    exact ⟨as, bs, rfl, has, hbs⟩
  · rintro ⟨as, bs, rfl, has, hbs⟩
    exact ⟨as, _, rfl, has, resolveFrom_append_eq_ok_iff.mpr
      ⟨_, bs, rfl, resolveFrom_jokers hjs s 0, hbs⟩⟩

end Element

/-! ## Pieces -/

/-- A run of jokers counts characters. -/
theorem cutInto_jokers (f : Char → Char) {js : List Char} (hjs : ∀ c ∈ js, IsJoker c)
    (s : List Char) :
    CutInto (fun c u => ((Item.ofJoker c).piece f).Takes u) js s ↔
      if '*' ∈ js then js.count '?' ≤ s.length else s.length = js.count '?' := by
  induction js generalizing s with
  | nil => simp [cutInto_nil]
  | cons c js ih =>
    have hrest := fun s => ih (fun d hd => hjs d (List.mem_cons_of_mem _ hd)) s
    rw [cutInto_cons]
    rcases hjs c List.mem_cons_self with rfl | rfl
    · -- one character is taken, and the rest counts one less
      have hmem : '*' ∈ '?' :: js ↔ '*' ∈ js := by simp
      have hcount : ('?' :: js).count '?' = js.count '?' + 1 := List.count_cons_self
      simp only [hmem, hcount]
      cases s with
      | nil =>
        constructor
        · rintro ⟨u, v, hs, ⟨c, rfl⟩, -⟩
          cases hs
        · intro h
          split at h
          · simp at h
          · simp at h
      | cons d s =>
        have hstep : (∃ u v, d :: s = u ++ v ∧ ((Item.ofJoker '?').piece f).Takes u ∧
            CutInto (fun c u => ((Item.ofJoker c).piece f).Takes u) js v) ↔
              CutInto (fun c u => ((Item.ofJoker c).piece f).Takes u) js s := by
          constructor
          · rintro ⟨_, v, hs, ⟨c, rfl⟩, hv⟩
            cases hs
            exact hv
          · intro hv
            exact ⟨[d], s, rfl, ⟨d, rfl⟩, hv⟩
        rw [hstep, hrest, List.length_cons]
        split
        · omega
        · omega
    · -- any number of characters may go first, so the rest is a suffix of sufficient length
      have hmem : '*' ∈ '*' :: js := List.mem_cons_self
      have hcount : ('*' :: js).count '?' = js.count '?' := List.count_cons_of_ne (by decide)
      rw [if_pos hmem, hcount]
      constructor
      · rintro ⟨u, v, rfl, -, hv⟩
        rw [hrest] at hv
        rw [List.length_append]
        split at hv
        · omega
        · omega
      · intro hle
        refine ⟨s.take (s.length - js.count '?'), s.drop (s.length - js.count '?'), ?_, trivial, ?_⟩
        · rw [List.take_append_drop]
        · rw [hrest, List.length_drop]
          split
          · omega
          · omega

/-- Settled jokers take the same texts. -/
theorem cutInto_settled (f : Char → Char) {js : List Char} (hjs : ∀ c ∈ js, IsJoker c)
    (hstar : '*' ∈ js) (s : List Char) :
    CutInto Piece.Takes (((settledChars js).map Item.ofJoker).map (·.piece f)) s ↔
      CutInto Piece.Takes ((js.map Item.ofJoker).map (·.piece f)) s := by
  rw [cutInto_map_left, cutInto_map_left, cutInto_map_left, cutInto_map_left,
    cutInto_jokers f fun _ => isJoker_of_mem_settledChars, cutInto_jokers f hjs,
    if_pos (star_mem_settledChars js), if_pos hstar, count_settledChars]

/-! ## Sizes -/

theorem Item.totalWeight_append (is js : List Item) :
    totalWeight (is ++ js) = totalWeight is + totalWeight js := by
  induction is with
  | nil => simp [totalWeight]
  | cons i is ih =>
    show i.weight + totalWeight (is ++ js) = i.weight + totalWeight is + totalWeight js
    rw [ih, Nat.add_assoc]

/-- Every question mark takes its place, and the stars at least that of one. -/
theorem Item.le_totalWeight_jokers {js : List Char} (hjs : ∀ c ∈ js, IsJoker c) :
    js.count '?' * Item.one.weight + (if '*' ∈ js then Item.run.weight else 0) ≤
      totalWeight (js.map ofJoker) := by
  induction js with
  | nil => simp
  | cons c js ih =>
    have hrest := ih fun d hd => hjs d (List.mem_cons_of_mem _ hd)
    show _ ≤ (ofJoker c).weight + totalWeight (js.map ofJoker)
    rcases hjs c List.mem_cons_self with rfl | rfl
    · have hmem : '*' ∈ '?' :: js ↔ '*' ∈ js := by simp
      have hcount : ('?' :: js).count '?' = js.count '?' + 1 := List.count_cons_self
      have hweight : (ofJoker '?').weight = Item.one.weight := rfl
      simp only [hmem, hcount, hweight, Nat.succ_mul]
      omega
    · have hcount : ('*' :: js).count '?' = js.count '?' := List.count_cons_of_ne (by decide)
      have hweight : (ofJoker '*').weight = Item.run.weight := rfl
      rw [hcount, hweight, if_pos List.mem_cons_self]
      split at hrest
      · omega
      · omega

theorem Item.totalWeight_settled_le {js : List Char} (hjs : ∀ c ∈ js, IsJoker c)
    (hstar : '*' ∈ js) :
    totalWeight ((settledChars js).map ofJoker) ≤ totalWeight (js.map ofJoker) := by
  have hsum : totalWeight ((settledChars js).map ofJoker) =
      js.count '?' * Item.one.weight + Item.run.weight := by
    have hones : ∀ q, totalWeight ((List.replicate q '?').map ofJoker) = q * Item.one.weight := by
      intro q
      induction q with
      | zero => simp [totalWeight]
      | succ q ih =>
        rw [List.replicate_succ, List.map_cons, Nat.succ_mul, ← ih, Nat.add_comm]
        rfl
    unfold settledChars
    rw [List.map_append, totalWeight_append, hones]
    rfl
  have hle := le_totalWeight_jokers hjs
  rw [if_pos hstar] at hle
  rw [hsum]
  exact hle

/-! ## Top theorem -/

namespace Pattern

/-- **Jokers in a row may be settled**: question marks and stars outside tokens, with a star among
them, may be put as the question marks and one star, and the wildcard compiles and accepts the same
texts. -/
theorem accepts_settled {before jokers after : String} {r : Rules} {p : Pattern}
    (houtside : ∃ es, Element.Reads before.toList es)
    (hjokers : ∀ c ∈ jokers.toList, IsJoker c) (hstar : '*' ∈ jokers.toList)
    (h : compile (before ++ jokers ++ after) r = .ok p) :
    ∃ p', compile (before ++ settled jokers ++ after) r = .ok p' ∧
      ∀ text, p'.accepts text = p.accepts text := by
  obtain ⟨es, hes⟩ := houtside
  obtain ⟨is, his, hsize, rfl⟩ := (compile_eq_ok_iff _ r p).mp h
  have hscan : Element.scan (before ++ jokers ++ after) =
      Element.scanFrom none (before.toList ++ (jokers.toList ++ after.toList)) := by
    unfold Element.scan
    rw [String.toList_append, String.toList_append, List.append_assoc]
  have hscan' : Element.scan (before ++ settled jokers ++ after) =
      Element.scanFrom none
        (before.toList ++ (settledChars jokers.toList ++ after.toList)) := by
    unfold Element.scan settled
    rw [String.toList_append, String.toList_append, String.toList_ofList, List.append_assoc]
  rw [hscan, Element.resolveFrom_around_jokers_iff hes hjokers (List.ne_nil_of_mem hstar)] at his
  obtain ⟨as, bs, rfl, has, hbs⟩ := his
  refine ⟨⟨r.caseSensitive, as ++ ((settledChars jokers.toList).map Item.ofJoker ++ bs)⟩, ?_, ?_⟩
  · refine (compile_eq_ok_iff _ r _).mpr ⟨_, ?_, ?_, rfl⟩
    · rw [hscan', Element.resolveFrom_around_jokers_iff hes
        (fun _ => isJoker_of_mem_settledChars) (List.ne_nil_of_mem (star_mem_settledChars _))]
      exact ⟨as, bs, rfl, has, hbs⟩
    · have hle := Item.totalWeight_settled_le hjokers hstar
      simp only [Item.totalWeight_append] at hsize ⊢
      omega
  · intro text
    unfold accepts
    rw [Bool.eq_iff_iff, Piece.accepts_iff_cutInto, Piece.accepts_iff_cutInto]
    simp only [List.map_append]
    exact cutInto_exchange (cutInto_settled _ hjokers hstar) _ _ _

/-- A run between a list with the empty text in it and a class: nothing of it is optional. -/
theorem accepts_settled_between_tokens :
    let r : Rules := { substitutions := .ofList [("x", ["", "?"])] }
    let p : Pattern :=
      ⟨true, [.words ["", "?"], .run, .one, .run, .one, .anyOf .digit, .literal 'b']⟩
    (∃ es, Element.Reads "$(x)".toList es) ∧
      (∀ c ∈ "*?*?".toList, IsJoker c) ∧ '*' ∈ "*?*?".toList ∧
      compile ("$(x)" ++ "*?*?" ++ "$(digit)b") r = .ok p ∧
      settled "*?*?" = "??*" ∧
      ∃ p', compile ("$(x)" ++ settled "*?*?" ++ "$(digit)b") r = .ok p' ∧
        ∀ text, p'.accepts text = p.accepts text := by
  intro r p
  have houtside : ∃ es, Element.Reads "$(x)".toList es :=
    ⟨_, @Element.Reads.token "x".toList [] [] (by decide) .nil⟩
  have hchars : "*?*?".toList = ['*', '?', '*', '?'] := by decide +kernel
  have hjokers : ∀ c ∈ "*?*?".toList, IsJoker c := by
    rw [hchars]
    simp [IsJoker]
  have hstar : '*' ∈ "*?*?".toList := by decide +kernel
  have hcompile : compile ("$(x)" ++ "*?*?" ++ "$(digit)b") r = .ok p :=
    (compile_eq_ok_iff _ _ _).mpr ⟨_, rfl, by decide, rfl⟩
  exact ⟨houtside, hjokers, hstar, hcompile, by decide +kernel,
    accepts_settled houtside hjokers hstar hcompile⟩

end Pattern

end AppLinks
