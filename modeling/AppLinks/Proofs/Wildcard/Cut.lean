import Mathlib.Data.List.Forall2
import AppLinks.Wildcard.Piece

/-!
# Cutting a text

`CutInto R xs s` says that `s` can be cut into consecutive parts, one for each of `xs` in order,
so that every part stands in `R` to its `x`.  The tables over suffixes decide this for pieces:
`Tabulates L cs t` says that `t` holds, for every suffix of `cs`, whether it is in `L`, and every
step of the table computation keeps it.

    accepts ps cs = true ↔ CutInto Takes ps cs        (accepts_iff_cutInto)
-/

namespace AppLinks

/-! ## Cuts -/

/-- Some way to cut `s` into consecutive parts, one for each of `xs`. -/
def CutInto {α : Type} (R : α → List Char → Prop) (xs : List α) (s : List Char) : Prop :=
  ∃ parts : List (List Char), List.Forall₂ R xs parts ∧ parts.flatten = s

section
variable {α : Type} {R : α → List Char → Prop}

theorem cutInto_nil (s : List Char) : CutInto R [] s ↔ s = [] := by
  constructor
  · rintro ⟨parts, h, rfl⟩
    cases h
    rfl
  · rintro rfl
    exact ⟨[], .nil, rfl⟩

theorem cutInto_cons (x : α) (xs : List α) (s : List Char) :
    CutInto R (x :: xs) s ↔ ∃ u v, s = u ++ v ∧ R x u ∧ CutInto R xs v := by
  constructor
  · rintro ⟨parts, h, rfl⟩
    cases h with
    | @cons _ u _ parts hu hparts => exact ⟨u, parts.flatten, rfl, hu, parts, hparts, rfl⟩
  · rintro ⟨u, v, rfl, hu, parts, hparts, rfl⟩
    exact ⟨u :: parts, .cons hu hparts, rfl⟩

/-- Cuts for two lists agree when what their members admit agrees, place by place. -/
theorem cutInto_congr {β : Type} {S : β → List Char → Prop} {xs : List α} {ys : List β}
    (h : List.Forall₂ (fun x y => ∀ u, R x u ↔ S y u) xs ys) (s : List Char) :
    CutInto R xs s ↔ CutInto S ys s := by
  induction h generalizing s with
  | nil => rw [cutInto_nil, cutInto_nil]
  | cons hxy _ ih =>
    rw [cutInto_cons, cutInto_cons]
    constructor
    · rintro ⟨u, v, hs, hu, hv⟩
      exact ⟨u, v, hs, (hxy u).mp hu, (ih v).mp hv⟩
    · rintro ⟨u, v, hs, hu, hv⟩
      exact ⟨u, v, hs, (hxy u).mpr hu, (ih v).mpr hv⟩

/-- A cut stays one where every member admits more. -/
theorem CutInto.imp {S : α → List Char → Prop} {xs : List α} {s : List Char}
    (h : ∀ x u, R x u → S x u) (hcut : CutInto R xs s) : CutInto S xs s := by
  obtain ⟨parts, hparts, rfl⟩ := hcut
  exact ⟨parts, hparts.imp h, rfl⟩

theorem cutInto_append (xs ys : List α) (s : List Char) :
    CutInto R (xs ++ ys) s ↔ ∃ u v, s = u ++ v ∧ CutInto R xs u ∧ CutInto R ys v := by
  induction xs generalizing s with
  | nil => simp [cutInto_nil]
  | cons x xs ih =>
    rw [List.cons_append, cutInto_cons]
    constructor
    · rintro ⟨u, _, rfl, hu, hrest⟩
      obtain ⟨v, w, rfl, hv, hw⟩ := (ih _).mp hrest
      exact ⟨u ++ v, w, by rw [List.append_assoc], (cutInto_cons x xs _).mpr ⟨u, v, rfl, hu, hv⟩, hw⟩
    · rintro ⟨_, w, rfl, huv, hw⟩
      obtain ⟨u, v, rfl, hu, hv⟩ := (cutInto_cons x xs _).mp huv
      exact ⟨u, v ++ w, by rw [List.append_assoc], hu, (ih _).mpr ⟨v, w, rfl, hv, hw⟩⟩

/-- Some text can be cut along a list exactly when every member admits some part: the parts are put
one behind the other. -/
theorem exists_cutInto_iff (xs : List α) : (∃ s, CutInto R xs s) ↔ ∀ x ∈ xs, ∃ u, R x u := by
  induction xs with
  | nil => simp [cutInto_nil]
  | cons x xs ih =>
    simp only [cutInto_cons, List.forall_mem_cons]
    constructor
    · rintro ⟨_, u, v, rfl, hu, hv⟩
      exact ⟨⟨u, hu⟩, ih.mp ⟨v, hv⟩⟩
    · rintro ⟨⟨u, hu⟩, hrest⟩
      obtain ⟨v, hv⟩ := ih.mpr hrest
      exact ⟨u ++ v, u, v, rfl, hu, hv⟩

/-- A part of the list may be exchanged for one that takes the same texts. -/
theorem cutInto_exchange {ys ys' : List α} (h : ∀ u, CutInto R ys u ↔ CutInto R ys' u)
    (xs zs : List α) (s : List Char) :
    CutInto R (xs ++ (ys ++ zs)) s ↔ CutInto R (xs ++ (ys' ++ zs)) s := by
  have hrest : ∀ v, CutInto R (ys ++ zs) v ↔ CutInto R (ys' ++ zs) v := by
    intro v
    simp only [cutInto_append, h]
  simp only [cutInto_append xs, hrest]

/-- A cut of a text whose characters are all replaced comes from a cut of the text itself. -/
theorem cutInto_map (f : Char → Char) (xs : List α) (s : List Char) :
    CutInto R xs (s.map f) ↔ CutInto (fun x u => R x (u.map f)) xs s := by
  induction xs generalizing s with
  | nil => rw [cutInto_nil, cutInto_nil, List.map_eq_nil_iff]
  | cons x xs ih =>
    rw [cutInto_cons, cutInto_cons]
    constructor
    · rintro ⟨u, v, hs, hu, hv⟩
      obtain ⟨u', v', rfl, rfl, rfl⟩ := List.map_eq_append_iff.mp hs
      exact ⟨u', v', rfl, hu, (ih v').mp hv⟩
    · rintro ⟨u, v, rfl, hu, hv⟩
      exact ⟨u.map f, v.map f, List.map_append, hu, (ih v).mpr hv⟩

theorem cutInto_map_left {β : Type} (g : β → α) (ys : List β) (s : List Char) :
    CutInto R (ys.map g) s ↔ CutInto (fun y u => R (g y) u) ys s := by
  unfold CutInto
  simp only [List.forall₂_map_left_iff]

end

namespace Piece

/-- The texts that a piece stands for. -/
def Takes : Piece → List Char → Prop
  | .any, s => ∃ c, s = [c]
  | .run, _ => True
  | .among cs, s => ∃ c ∈ cs, s = [c]
  | .words ws, s => s ∈ ws

/-! ## Tables -/

/-- `t` holds, for every suffix of `cs` from the longest on, whether it is in `L`. -/
inductive Tabulates (L : List Char → Prop) : List Char → Table → Prop
  | nil {b : Bool} : (b = true ↔ L []) → Tabulates L [] [b]
  | cons {c : Char} {cs : List Char} {b : Bool} {t : Table} : (b = true ↔ L (c :: cs)) →
      Tabulates L cs t → Tabulates L (c :: cs) (b :: t)

section
variable {L M : List Char → Prop} {cs : List Char} {t u : Table}

theorem Tabulates.head (h : Tabulates L cs t) : t.headD false = true ↔ L cs := by
  cases h with
  | nil hb => exact hb
  | cons hb _ => exact hb

theorem Tabulates.congr (h : Tabulates L cs t) (hLM : ∀ s, L s ↔ M s) : Tabulates M cs t := by
  induction h with
  | nil hb => exact .nil (hb.trans (hLM _))
  | cons hb _ ih => exact .cons (hb.trans (hLM _)) ih

theorem tabulates_atEnd (cs : List Char) : Tabulates (· = []) cs (atEnd cs) := by
  induction cs with
  | nil => exact .nil (by simp)
  | cons c cs ih => exact .cons (by simp) ih

theorem tabulates_nowhere (cs : List Char) : Tabulates (fun _ => False) cs (nowhere cs) := by
  induction cs with
  | nil => exact .nil (by simp)
  | cons c cs ih => exact .cons (by simp) ih

theorem Tabulates.either (ht : Tabulates L cs t) (hu : Tabulates M cs u) :
    Tabulates (fun s => L s ∨ M s) cs (either t u) := by
  induction ht generalizing u with
  | nil hb =>
    cases hu with
    | nil hb' => exact .nil (by rw [Bool.or_eq_true, hb, hb'])
  | cons hb _ ih =>
    cases hu with
    | cons hb' hu => exact .cons (by rw [Bool.or_eq_true, hb, hb']) (ih hu)

theorem Tabulates.afterChar (p : Char → Bool) (h : Tabulates L cs t) :
    Tabulates (fun s => ∃ c v, s = c :: v ∧ p c = true ∧ L v) cs (afterChar p cs t) := by
  induction h with
  | nil hb => exact .nil (by simp)
  | @cons c cs b t hb h ih =>
    refine .cons ?_ ih
    rw [Bool.and_eq_true, h.head]
    constructor
    · rintro ⟨hc, hcs⟩
      exact ⟨c, cs, rfl, hc, hcs⟩
    · rintro ⟨d, v, he, hd, hv⟩
      cases he
      exact ⟨hd, hv⟩

theorem Tabulates.afterWord (h : Tabulates L cs t) (word : List Char) :
    Tabulates (fun s => ∃ v, s = word ++ v ∧ L v) cs (afterWord cs t word) := by
  induction word with
  | nil => exact h.congr (by simp)
  | cons d word ih =>
    refine (ih.afterChar (· == d)).congr fun s => ?_
    constructor
    · rintro ⟨c, _, rfl, hc, v, rfl, hv⟩
      rw [eq_of_beq hc]
      exact ⟨v, rfl, hv⟩
    · rintro ⟨v, rfl, hv⟩
      exact ⟨d, word ++ v, rfl, beq_self_eq_true d, v, rfl, hv⟩

theorem Tabulates.afterWords (h : Tabulates L cs t) (ws : List (List Char)) :
    Tabulates (fun s => ∃ w v, s = w ++ v ∧ w ∈ ws ∧ L v) cs
      (ws.foldr (fun w u => Piece.either (Piece.afterWord cs t w) u) (nowhere cs)) := by
  induction ws with
  | nil => exact (tabulates_nowhere cs).congr (by simp)
  | cons w ws ih =>
    refine ((h.afterWord w).either ih).congr fun s => ?_
    constructor
    · rintro (⟨v, rfl, hv⟩ | ⟨w', v, rfl, hw', hv⟩)
      · exact ⟨w, v, rfl, List.mem_cons_self, hv⟩
      · exact ⟨w', v, rfl, List.mem_cons_of_mem _ hw', hv⟩
    · rintro ⟨w', v, rfl, hw', hv⟩
      rcases List.mem_cons.mp hw' with rfl | hw'
      · exact Or.inl ⟨v, rfl, hv⟩
      · exact Or.inr ⟨w', v, rfl, hw', hv⟩

/-- From behind: a suffix has a suffix in `L` if it is in `L` itself or its tail has one. -/
theorem Tabulates.afterRun (h : Tabulates L cs t) :
    Tabulates (fun s => ∃ w v, s = w ++ v ∧ L v) cs (afterRun t) := by
  induction h with
  | nil hb =>
    refine .nil ?_
    simp [hb, Piece.afterRun]
  | @cons c cs b t hb _ ih =>
    refine .cons ?_ ih
    rw [Bool.or_eq_true, hb, ih.head]
    constructor
    · rintro (hL | ⟨w, v, rfl, hv⟩)
      · exact ⟨[], c :: cs, rfl, hL⟩
      · exact ⟨c :: w, v, rfl, hv⟩
    · rintro ⟨w, v, he, hv⟩
      cases w with
      | nil =>
        cases he
        exact Or.inl hv
      | cons d w =>
        cases he
        exact Or.inr ⟨w, v, rfl, hv⟩

/-- One piece more: the table's suffixes begin with what the piece takes and go on in `L`. -/
theorem Tabulates.after (p : Piece) (h : Tabulates L cs t) :
    Tabulates (fun s => ∃ w v, s = w ++ v ∧ p.Takes w ∧ L v) cs (after cs p t) := by
  cases p with
  | any =>
    refine (h.afterChar fun _ => true).congr fun s => ?_
    constructor
    · rintro ⟨c, v, rfl, -, hv⟩
      exact ⟨[c], v, rfl, ⟨c, rfl⟩, hv⟩
    · rintro ⟨_, v, rfl, ⟨c, rfl⟩, hv⟩
      exact ⟨c, v, rfl, rfl, hv⟩
  | run => exact h.afterRun.congr fun s => by simp [Takes]
  | among ms =>
    refine (h.afterChar ms.contains).congr fun s => ?_
    constructor
    · rintro ⟨c, v, rfl, hc, hv⟩
      exact ⟨[c], v, rfl, ⟨c, List.contains_iff_mem.mp hc, rfl⟩, hv⟩
    · rintro ⟨_, v, rfl, ⟨c, hc, rfl⟩, hv⟩
      exact ⟨c, v, rfl, List.contains_iff_mem.mpr hc, hv⟩
  | words ws => exact h.afterWords ws

end

/-- The tables find a cut if there is one. -/
theorem accepts_iff_cutInto (ps : List Piece) (cs : List Char) :
    accepts ps cs = true ↔ CutInto Takes ps cs := by
  have htable : Tabulates (CutInto Takes ps) cs (ps.foldr (after cs) (atEnd cs)) := by
    induction ps with
    | nil => exact (tabulates_atEnd cs).congr fun s => (cutInto_nil s).symm
    | cons p ps ih => exact (ih.after p).congr fun s => (cutInto_cons p ps s).symm
  exact htable.head

end Piece

end AppLinks
