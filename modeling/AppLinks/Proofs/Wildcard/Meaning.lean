import AppLinks.Proofs.Wildcard.Cut
import AppLinks.Proofs.Wildcard.Reading
import AppLinks.Wildcard.Pattern

/-!
# What a wildcard means

An element of a wildcard spells texts: one character, any text, a member of a class, an entry of a
list, a character itself.  Under rules it admits every text that is one of these character by
character, where case may be without regard.  A pattern takes the texts that can be cut into parts
that the elements of its wildcard admit, one after the other.

    p.accepts text = true ↔ CutInto (Item.Admits r) p.items text.toList     (accepts_iff_cutInto)
    compile w r = .ok p →
      (p.accepts text = true ↔ ∃ es, Reads w.toList es ∧ CutInto (Admits r) es text.toList)
                                                              (accepts_iff_reads_cutInto)
-/

namespace AppLinks

/-! ## Meanings -/

/-- Membership in a class, all ASCII. -/
def CharClass.Holds : CharClass → Char → Prop
  | .alpha, c => c.isAlpha = true
  | .upper, c => c.isUpper = true
  | .lower, c => c.isLower = true
  | .alnum, c => c.isAlphanum = true
  | .digit, c => c.isDigit = true
  | .xdigit, c => c.isDigit = true ∨ 'a' ≤ c ∧ c ≤ 'f' ∨ 'A' ≤ c ∧ c ≤ 'F'

/-- The names of tokens that a link set cannot give a meaning of its own. -/
def Reserved (name : String) : Prop :=
  (∃ k : CharClass, k.name = name) ∨ name = "region" ∨ name = "lang"

/-- Whether one character counts as another: both are the same, or both fold to the same. -/
def Rules.Same (r : Rules) (c d : Char) : Prop :=
  if r.caseSensitive then c = d else Text.fold c = Text.fold d

theorem Rules.same_refl (r : Rules) (c : Char) : r.Same c c := by
  unfold Same
  split
  · rfl
  · rfl

/-- The texts that an element stands for as they are written. -/
inductive Element.Spells (s : Substitutions) : Element → List Char → Prop
  | one (c : Char) : Spells s .one [c]
  | run (cs : List Char) : Spells s .run cs
  | member {k : CharClass} {c : Char} : k.Holds c → Spells s (.token k.name) [c]
  | region {code : String} : code ∈ Locale.regions → Spells s (.token "region") code.toList
  | language {code : String} : code ∈ Locale.languages → Spells s (.token "lang") code.toList
  | listed {name w : String} {ws : List String} : ¬ Reserved name → s.get? name = some ws →
      w ∈ ws → Spells s (.token name) w.toList
  | literal (c : Char) : Spells s (.literal c) [c]

/-- A part that an element admits under rules. -/
def Element.Admits (r : Rules) (e : Element) (part : List Char) : Prop :=
  ∃ v, e.Spells r.substitutions v ∧ List.Forall₂ r.Same v part

/-! ## Classes and names -/

namespace CharClass

theorem mem_interval_iff {a b : Char} (h : b.toNat < 0xD800) (c : Char) :
    c ∈ interval (a, b) ↔ a ≤ c ∧ c ≤ b := by
  have hle : ∀ x y : Char, x ≤ y ↔ x.toNat ≤ y.toNat := fun _ _ => Iff.rfl
  unfold interval
  rw [List.mem_map, hle, hle]
  dsimp only
  constructor
  · rintro ⟨i, hi, rfl⟩
    rw [List.mem_range] at hi
    rw [Text.toNat_ofNat_of_valid (Or.inl (by omega))]
    omega
  · rintro ⟨ha, hb⟩
    refine ⟨c.toNat - a.toNat, List.mem_range.mpr (by omega), ?_⟩
    have hsum : a.toNat + (c.toNat - a.toNat) = c.toNat := by omega
    rw [hsum, Char.ofNat_toNat]

/-- The members that a class lists are the characters that are in it. -/
theorem mem_members_iff (k : CharClass) (c : Char) : c ∈ k.members ↔ k.Holds c := by
  have hrange : ∀ a b : Char, (decide (a ≤ c) && decide (c ≤ b)) = true ↔ a ≤ c ∧ c ≤ b := by
    intro a b
    rw [Bool.and_eq_true, decide_eq_true_iff, decide_eq_true_iff]
  have hupper : c.isUpper = true ↔ 'A' ≤ c ∧ c ≤ 'Z' := decide_eq_true_iff
  have hlower : c.isLower = true ↔ 'a' ≤ c ∧ c ≤ 'z' := hrange 'a' 'z'
  have hdigit : c.isDigit = true ↔ '0' ≤ c ∧ c ≤ '9' := hrange '0' '9'
  have halpha : c.isAlpha = true ↔ c.isUpper = true ∨ c.isLower = true := Bool.or_eq_true_iff
  have halnum : c.isAlphanum = true ↔ c.isAlpha = true ∨ c.isDigit = true := Bool.or_eq_true_iff
  unfold members
  cases k with
  | alpha => simp [ranges, mem_interval_iff, Holds, halpha, hupper, hlower, or_comm]
  | upper => simp [ranges, mem_interval_iff, Holds, hupper]
  | lower => simp [ranges, mem_interval_iff, Holds, hlower]
  | alnum =>
    simp [ranges, mem_interval_iff, Holds, halnum, halpha, hupper, hlower, hdigit, or_assoc,
      or_left_comm]
  | digit => simp [ranges, mem_interval_iff, Holds, hdigit]
  | xdigit => simp [ranges, mem_interval_iff, Holds, hdigit]

end CharClass

namespace Item

/-- The texts that an item stands for as they are written. -/
def Spells : Item → List Char → Prop
  | .one, v => ∃ c, v = [c]
  | .run, _ => True
  | .anyOf k, v => ∃ c ∈ k.members, v = [c]
  | .words ws, v => ∃ w ∈ ws, v = w.toList
  | .literal c, v => v = [c]

/-- A part that an item admits under rules. -/
def Admits (r : Rules) (i : Item) (part : List Char) : Prop :=
  ∃ v, i.Spells v ∧ List.Forall₂ r.Same v part

theorem builtin?_eq_none_iff (name : String) : builtin? name = none ↔ ¬ Reserved name := by
  unfold builtin? Reserved
  cases hk : CharClass.ofName? name with
  | some k =>
    have hname : ∃ k : CharClass, k.name = name := ⟨k, CharClass.name_of_ofName? hk⟩
    simp [hname]
  | none =>
    have hno : ¬ ∃ k : CharClass, k.name = name := by
      rintro ⟨k, rfl⟩
      rw [CharClass.ofName?_name] at hk
      cases hk
    by_cases hr : name = "region"
    · simp [hr]
    · by_cases hl : name = "lang"
      · simp [hl]
      · simp [hno, hr, hl]

end Item

namespace Element

variable {s : Substitutions} {r : Rules}

/-- A token of a reserved name spells what is built in for it, whatever the lists say. -/
theorem spells_token_of_builtin {name : String} {i : Item} (h : Item.builtin? name = some i)
    (v : List Char) : Spells s (.token name) v ↔ i.Spells v := by
  have hreserved : Reserved name := by
    apply Classical.byContradiction
    intro hno
    rw [(Item.builtin?_eq_none_iff name).mpr hno] at h
    cases h
  constructor
  · intro hv
    cases hv with
    | @member k c hc =>
      simp only [Item.builtin?, CharClass.ofName?_name] at h
      cases h
      exact ⟨c, (CharClass.mem_members_iff k c).mpr hc, rfl⟩
    | @region code hcode => cases h; exact ⟨code, hcode, rfl⟩
    | @language code hcode => cases h; exact ⟨code, hcode, rfl⟩
    | listed hname => exact absurd hreserved hname
  · intro hv
    unfold Item.builtin? at h
    split at h
    · next k hk =>
      cases h
      obtain ⟨c, hc, rfl⟩ := hv
      rw [← CharClass.name_of_ofName? hk]
      exact .member ((CharClass.mem_members_iff k c).mp hc)
    · split at h
      · next hr =>
        cases h
        obtain ⟨code, hcode, rfl⟩ := hv
        rw [hr]
        exact .region hcode
      · split at h
        · next hl =>
          cases h
          obtain ⟨code, hcode, rfl⟩ := hv
          rw [hl]
          exact .language hcode
        · cases h

theorem spells_token_of_listed {name : String} {ws : List String}
    (h : Item.builtin? name = none) (hws : s.get? name = some ws) (v : List Char) :
    Spells s (.token name) v ↔ (Item.words ws).Spells v := by
  have hname : ¬ Reserved name := (Item.builtin?_eq_none_iff name).mp h
  constructor
  · intro hv
    cases hv with
    | @member k c hc => exact absurd (Or.inl ⟨k, rfl⟩) hname
    | region hcode => exact absurd (Or.inr (Or.inl rfl)) hname
    | language hcode => exact absurd (Or.inr (Or.inr rfl)) hname
    | @listed _ w ws' _ hws' hw =>
      rw [hws] at hws'
      cases hws'
      exact ⟨w, hw, rfl⟩
  · rintro ⟨w, hw, rfl⟩
    exact .listed hname hws hw

/-- An element spells what the item spells that it is resolved to. -/
theorem spells_iff_of_resolve {e : Element} {n : Nat} {i : Item} (h : e.resolve s n = .ok i)
    (v : List Char) : e.Spells s v ↔ i.Spells v := by
  cases e with
  | one =>
    cases h
    constructor
    · rintro ⟨⟩
      exact ⟨_, rfl⟩
    · rintro ⟨c, rfl⟩
      exact .one c
  | run =>
    cases h
    exact ⟨fun _ => trivial, fun _ => .run v⟩
  | literal c =>
    cases h
    constructor
    · rintro ⟨⟩
      rfl
    · rintro rfl
      exact .literal c
  | unclosed rest => cases h
  | token name =>
    simp only [resolve, Item.ofToken?] at h
    cases hb : Item.builtin? name with
    | some j =>
      rw [hb] at h
      cases h
      exact spells_token_of_builtin hb v
    | none =>
      rw [hb] at h
      cases hws : s.get? name with
      | none =>
        rw [hws] at h
        cases h
      | some ws =>
        rw [hws] at h
        cases h
        exact spells_token_of_listed hb hws v

theorem admits_iff_of_resolve {e : Element} {n : Nat} {i : Item}
    (h : e.resolve r.substitutions n = .ok i) (u : List Char) : e.Admits r u ↔ i.Admits r u :=
  exists_congr fun v => and_congr_left fun _ => spells_iff_of_resolve h v

end Element

/-! ## Pieces -/

/-- A piece takes a text when some text that its item spells has the same characters, as far as
`f` tells them apart. -/
theorem Item.takes_piece_iff (f : Char → Char) (i : Item) (u : List Char) :
    (i.piece f).Takes (u.map f) ↔ ∃ v, i.Spells v ∧ v.map f = u.map f := by
  cases i with
  | one =>
    constructor
    · rintro ⟨c, hc⟩
      obtain ⟨d, rfl, -⟩ := List.map_eq_singleton_iff.mp hc
      exact ⟨[d], ⟨d, rfl⟩, rfl⟩
    · rintro ⟨v, ⟨c, rfl⟩, hv⟩
      exact ⟨f c, hv.symm⟩
  | run => exact ⟨fun _ => ⟨u, trivial, rfl⟩, fun _ => trivial⟩
  | anyOf k =>
    constructor
    · rintro ⟨c, hc, hu⟩
      obtain ⟨d, hd, rfl⟩ := List.mem_map.mp hc
      exact ⟨[d], ⟨d, hd, rfl⟩, hu.symm⟩
    · rintro ⟨v, ⟨d, hd, rfl⟩, hv⟩
      exact ⟨f d, List.mem_map_of_mem hd, hv.symm⟩
  | words ws =>
    constructor
    · intro hu
      obtain ⟨w, hw, hu⟩ := List.mem_map.mp hu
      exact ⟨w.toList, ⟨w, hw, rfl⟩, hu⟩
    · rintro ⟨v, ⟨w, hw, rfl⟩, hv⟩
      exact List.mem_map.mpr ⟨w, hw, hv⟩
  | literal c =>
    constructor
    · rintro ⟨d, hd, hu⟩
      rw [List.mem_singleton] at hd
      exact ⟨[c], rfl, by rw [hu, hd]; rfl⟩
    · rintro ⟨v, rfl, hv⟩
      exact ⟨f c, List.mem_singleton_self _, hv.symm⟩

theorem Rules.forall₂_same_iff {r : Rules} {p : Pattern} (hp : p.caseSensitive = r.caseSensitive)
    (v u : List Char) : List.Forall₂ r.Same v u ↔ v.map p.canonical = u.map p.canonical := by
  have hsame : ∀ c d, r.Same c d ↔ p.canonical c = p.canonical d := by
    intro c d
    unfold Rules.Same Pattern.canonical
    rw [hp]
    cases r.caseSensitive <;> simp
  rw [← List.forall₂_eq_eq_eq, List.forall₂_map_left_iff, List.forall₂_map_right_iff]
  exact ⟨List.Forall₂.imp fun c d => (hsame c d).mp, List.Forall₂.imp fun c d => (hsame c d).mpr⟩

theorem Item.admits_iff_takes {r : Rules} {p : Pattern}
    (hp : p.caseSensitive = r.caseSensitive) (i : Item) (u : List Char) :
    i.Admits r u ↔ (i.piece p.canonical).Takes (u.map p.canonical) := by
  rw [takes_piece_iff]
  exact exists_congr fun v => and_congr_right fun _ => Rules.forall₂_same_iff hp v u

/-- A pattern accepts what can be cut along its items. -/
theorem Pattern.accepts_iff_cutInto {p : Pattern} {r : Rules}
    (hp : p.caseSensitive = r.caseSensitive) (text : String) :
    p.accepts text = true ↔ CutInto (Item.Admits r) p.items text.toList := by
  unfold accepts
  rw [Piece.accepts_iff_cutInto, cutInto_map_left, cutInto_map]
  exact cutInto_congr (List.forall₂_same.mpr fun i _ u => (i.admits_iff_takes hp u).symm) _

/-! ## Compiling -/

/-- Elements are resolved when the first is, and the others are behind its bytes. -/
theorem Element.resolveFrom_cons_eq_ok_iff {s : Substitutions} {n : Nat} {e : Element}
    {es : List Element} {is : List Item} :
    resolveFrom s n (e :: es) = .ok is ↔
      ∃ i js, is = i :: js ∧ e.resolve s n = .ok i ∧ resolveFrom s (n + e.size) es = .ok js := by
  rw [resolveFrom]
  cases e.resolve s n with
  | error err => simp
  | ok i =>
    cases resolveFrom s (n + e.size) es with
    | error err => simp [Except.map]
    | ok js => simp [Except.map, eq_comm]

/-- Each element is resolved to the item at its place. -/
theorem Element.forall₂_of_resolveFrom {s : Substitutions} {n : Nat} {es : List Element}
    {is : List Item} (h : resolveFrom s n es = .ok is) :
    List.Forall₂ (fun e i => ∃ n, e.resolve s n = .ok i) es is := by
  induction es generalizing n is with
  | nil =>
    cases h
    exact .nil
  | cons e es ih =>
    obtain ⟨i, js, rfl, hi, hrest⟩ := resolveFrom_cons_eq_ok_iff.mp h
    exact .cons ⟨n, hi⟩ (ih hrest)

theorem Element.not_mem_unclosed_of_resolveFrom {s : Substitutions} {n : Nat}
    {es : List Element} {is : List Item} (h : resolveFrom s n es = .ok is) (rest : String) :
    Element.unclosed rest ∉ es := by
  intro hmem
  have hall := forall₂_of_resolveFrom h
  obtain ⟨j, hj, he⟩ := List.mem_iff_getElem.mp hmem
  obtain ⟨m, hm⟩ := hall.get hj (by rw [← hall.length_eq]; exact hj)
  rw [List.get_eq_getElem, he] at hm
  cases hm

theorem Pattern.compile_eq_ok_iff (w : String) (r : Rules) (p : Pattern) :
    compile w r = .ok p ↔
      ∃ items, Element.resolveFrom r.substitutions 0 (Element.scan w) = .ok items ∧
        Item.totalWeight items ≤ PatternError.sizeLimit ∧ p = ⟨r.caseSensitive, items⟩ := by
  unfold compile
  constructor
  · intro h
    split at h
    · cases h
    · next items hitems =>
      split at h
      · next hsize =>
        cases h
        exact ⟨items, hitems, hsize, rfl⟩
      · cases h
  · rintro ⟨items, hitems, hsize, rfl⟩
    simp only [hitems, if_pos hsize]

/-! ## Top theorem -/

/-- **A pattern takes a text exactly when it can be cut along the wildcard's elements.** -/
theorem Pattern.accepts_iff_reads_cutInto {w : String} {r : Rules} {p : Pattern}
    (h : compile w r = .ok p) (text : String) :
    p.accepts text = true ↔
      ∃ es, Element.Reads w.toList es ∧ CutInto (Element.Admits r) es text.toList := by
  obtain ⟨items, hitems, -, rfl⟩ := (compile_eq_ok_iff w r p).mp h
  have hreads : Element.Reads w.toList (Element.scan w) :=
    Element.reads_scanFrom w.toList (Element.not_mem_unclosed_of_resolveFrom hitems)
  have hcut : CutInto (Element.Admits r) (Element.scan w) text.toList ↔
      CutInto (Item.Admits r) items text.toList := by
    apply cutInto_congr
    refine (Element.forall₂_of_resolveFrom hitems).imp ?_
    rintro e i ⟨n, hi⟩ u
    exact Element.admits_iff_of_resolve hi u
  rw [accepts_iff_cutInto (r := r) rfl, ← hcut]
  constructor
  · intro hc
    exact ⟨Element.scan w, hreads, hc⟩
  · rintro ⟨es, hes, hc⟩
    have he : Element.scan w = es := Element.scanFrom_eq_of_reads hes
    rw [he]
    exact hc

/-- The first entry of the list would leave nothing for the character after it. -/
theorem Pattern.accepts_second_entry :
    compile "$(food)?*"
        { caseSensitive := false, substitutions := .ofList [("food", ["pizza", "pi"])] } =
      .ok ⟨false, [.words ["pizza", "pi"], .one, .run]⟩ ∧
    ∃ es, Element.Reads "$(food)?*".toList es ∧
      CutInto (Element.Admits
        { caseSensitive := false, substitutions := .ofList [("food", ["pizza", "pi"])] }) es
        "PIZZA".toList := by
  have hcompile : compile "$(food)?*"
        { caseSensitive := false, substitutions := .ofList [("food", ["pizza", "pi"])] } =
      .ok ⟨false, [.words ["pizza", "pi"], .one, .run]⟩ :=
    (compile_eq_ok_iff _ _ _).mpr ⟨[.words ["pizza", "pi"], .one, .run], rfl, by decide, rfl⟩
  refine ⟨hcompile, (accepts_iff_reads_cutInto hcompile "PIZZA").mp ?_⟩
  decide +kernel

end AppLinks
