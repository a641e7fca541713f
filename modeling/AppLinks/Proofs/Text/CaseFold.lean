import Mathlib.Data.List.Chain
import Mathlib.Logic.Relation
import AppLinks.Text.CaseFold

/-!
# Characters that differ by case

An entry of the folding table leads from each code point that it covers to another one.
`CaseVariants` is the equivalence that these steps generate, taken in either direction and as often
as it needs.  No code point is covered twice and none that a step leads to is covered itself, so
folding once brings all variants of a character to the same one.

    CaseVariants c d ↔ fold c = fold d                                     (caseVariants_iff)
    c.toNat < 0x40 → CaseVariants c d → c = d                              (eq_of_caseVariants)
-/

namespace AppLinks.Text

/-! ## Variants -/

/-- An entry of the table leads from one character to the other. -/
def FoldsTo (c d : Char) : Prop :=
  ∃ r ∈ foldRanges, r.covers c.toNat = true ∧ (d.toNat : Int) = c.toNat + r.shift

/-- Equal up to case. -/
def CaseVariants : Char → Char → Prop := Relation.EqvGen FoldsTo

theorem CaseVariants.refl (c : Char) : CaseVariants c c := Relation.EqvGen.refl c

theorem CaseVariants.symm {c d : Char} (h : CaseVariants c d) : CaseVariants d c :=
  Relation.EqvGen.symm c d h

/-! ## Code points of the table -/

namespace FoldRange

/-- The code points of an interval, in order. -/
def codes (r : FoldRange) : List Nat :=
  (List.range ((r.last - r.first) / r.stride + 1)).map fun i => r.first + i * r.stride

/-- The code points that these lead to. -/
def targets (r : FoldRange) : List Nat :=
  r.codes.map fun n : Nat => (n + r.shift).toNat

theorem mem_codes_of_covers {r : FoldRange} {n : Nat} (h : r.covers n = true) : n ∈ r.codes := by
  unfold covers at h
  simp only [Bool.and_eq_true, decide_eq_true_eq, beq_iff_eq] at h
  obtain ⟨⟨hfirst, hlast⟩, hstride⟩ := h
  have hmul : (n - r.first) / r.stride * r.stride = n - r.first :=
    Nat.div_mul_cancel (Nat.dvd_of_mod_eq_zero hstride)
  have hle : (n - r.first) / r.stride ≤ (r.last - r.first) / r.stride :=
    Nat.div_le_div_right (by omega)
  refine List.mem_map.mpr ⟨(n - r.first) / r.stride, List.mem_range.mpr (by omega), ?_⟩
  rw [hmul]
  omega

theorem mem_targets_of_covers {r : FoldRange} {n : Nat} (h : r.covers n = true) :
    (n + r.shift).toNat ∈ r.targets :=
  List.mem_map_of_mem (mem_codes_of_covers h)

end FoldRange

/-- The code points of a list as the bits of a number; two lists are compared by one operation. -/
def codeMask (ns : List Nat) : Nat :=
  ns.foldr (fun n m => 1 <<< n ||| m) 0

theorem testBit_codeMask (ns : List Nat) (n : Nat) :
    (codeMask ns).testBit n = decide (n ∈ ns) := by
  induction ns with
  | nil => simp [codeMask]
  | cons m ns ih =>
    show (1 <<< m ||| codeMask ns).testBit n = decide (n ∈ m :: ns)
    rw [Nat.testBit_or, Nat.one_shiftLeft, Nat.testBit_two_pow, ih]
    simp [eq_comm]

theorem not_mem_of_codeMask {ns ms : List Nat} (h : codeMask ns &&& codeMask ms = 0) {n : Nat}
    (hn : n ∈ ns) : n ∉ ms := by
  intro hm
  have hbit : (codeMask ns &&& codeMask ms).testBit n = true := by
    rw [Nat.testBit_and, testBit_codeMask, testBit_codeMask]
    simp [hn, hm]
  rw [h, Nat.zero_testBit] at hbit
  cases hbit

/-! ## Facts about the table -/

/-- No code point stands in the table twice. -/
theorem pairwise_codes : (foldRanges.flatMap FoldRange.codes).Pairwise (· < ·) := by
  rw [← List.isChain_iff_pairwise]
  decide +kernel

/-- What a code point folds to does not fold on. -/
theorem codes_disjoint_targets :
    codeMask (foldRanges.flatMap FoldRange.codes) &&&
      codeMask (foldRanges.flatMap FoldRange.targets) = 0 := by
  decide +kernel

/-- Digits and most signs fold to themselves alone. -/
theorem le_first : ∀ r ∈ foldRanges, 0x40 ≤ r.first := by
  decide +kernel

theorem targets_valid :
    ∀ n ∈ foldRanges.flatMap FoldRange.targets, 0x40 ≤ n ∧ n.isValidChar := by
  decide +kernel

/-! ## Folding -/

theorem find?_covers {r : FoldRange} (hr : r ∈ foldRanges) {n : Nat} (h : r.covers n = true) :
    foldRanges.find? (·.covers n) = some r := by
  obtain ⟨before, after, hsplit⟩ := List.append_of_mem hr
  rw [List.find?_eq_some_iff_append]
  refine ⟨h, before, after, hsplit, ?_⟩
  intro q hq
  rw [Bool.not_eq_true']
  apply Bool.eq_false_iff.mpr
  intro hcovers
  have hpairs := pairwise_codes
  rw [hsplit, List.flatMap_append, List.pairwise_append] at hpairs
  have hlt := hpairs.2.2 n (List.mem_flatMap.mpr ⟨q, hq, q.mem_codes_of_covers hcovers⟩) n
    (List.mem_flatMap.mpr ⟨r, List.mem_cons_self, r.mem_codes_of_covers h⟩)
  omega

/-- A character that is covered folds to where its entry leads, which is a target. -/
theorem fold_of_covers {r : FoldRange} (hr : r ∈ foldRanges) {c : Char}
    (h : r.covers c.toNat = true) :
    ((fold c).toNat : Int) = c.toNat + r.shift ∧
      (fold c).toNat ∈ foldRanges.flatMap FoldRange.targets := by
  have htarget : ((c.toNat : Int) + r.shift).toNat ∈ foldRanges.flatMap FoldRange.targets :=
    List.mem_flatMap.mpr ⟨r, hr, r.mem_targets_of_covers h⟩
  obtain ⟨hle, hvalid⟩ := targets_valid _ htarget
  have hfold : (fold c).toNat = ((c.toNat : Int) + r.shift).toNat := by
    unfold fold
    rw [find?_covers hr h]
    exact toNat_ofNat_of_valid hvalid
  rw [hfold]
  exact ⟨by omega, htarget⟩

/-- Either no entry covers a character, or one does. -/
theorem covered_cases (c : Char) :
    fold c = c ∧ (∀ r ∈ foldRanges, r.covers c.toNat = false) ∨
      ∃ r ∈ foldRanges, r.covers c.toNat = true := by
  by_cases h : ∃ r ∈ foldRanges, r.covers c.toNat = true
  · exact Or.inr h
  · have hnone : ∀ r ∈ foldRanges, r.covers c.toNat = false := by
      intro r hr
      rw [Bool.eq_false_iff]
      exact fun hcovers => h ⟨r, hr, hcovers⟩
    exact Or.inl ⟨fold_eq_self hnone, hnone⟩

theorem fold_eq_self_of_target {c : Char}
    (h : c.toNat ∈ foldRanges.flatMap FoldRange.targets) : fold c = c := by
  apply fold_eq_self
  intro r hr
  rw [Bool.eq_false_iff]
  intro hcovers
  have hcode : c.toNat ∈ foldRanges.flatMap FoldRange.codes :=
    List.mem_flatMap.mpr ⟨r, hr, r.mem_codes_of_covers hcovers⟩
  exact not_mem_of_codeMask codes_disjoint_targets hcode h

/-- Folding a second time changes nothing. -/
theorem fold_fold (c : Char) : fold (fold c) = fold c := by
  rcases covered_cases c with ⟨hself, -⟩ | ⟨r, hr, h⟩
  · rw [hself, hself]
  · exact fold_eq_self_of_target (fold_of_covers hr h).2

theorem fold_eq_of_foldsTo {c d : Char} (h : FoldsTo c d) : fold c = d := by
  obtain ⟨r, hr, hcovers, hd⟩ := h
  have hfold := (fold_of_covers hr hcovers).1
  have htoNat : (fold c).toNat = d.toNat := by omega
  rw [← Char.ofNat_toNat (fold c), htoNat, Char.ofNat_toNat]

theorem caseVariants_fold (c : Char) : CaseVariants c (fold c) := by
  rcases covered_cases c with ⟨hself, -⟩ | ⟨r, hr, h⟩
  · rw [hself]
    exact .refl c
  · exact .rel c (fold c) ⟨r, hr, h, (fold_of_covers hr h).1⟩

/-! ## Top theorem -/

/-- Two characters are equal up to case exactly when they fold to the same one. -/
theorem caseVariants_iff (c d : Char) : CaseVariants c d ↔ fold c = fold d := by
  constructor
  · intro h
    induction h with
    | rel c d h => rw [← fold_eq_of_foldsTo h, fold_fold]
    | refl c => rfl
    | symm c d _ ih => exact ih.symm
    | trans c d e _ _ ih ih' => exact ih.trans ih'
  · intro h
    have hd : CaseVariants (fold c) d := by
      rw [h]
      exact (caseVariants_fold d).symm
    exact (caseVariants_fold c).trans c (fold c) d hd

/-- The long s and the sign for kelvin are variants of letters that they do not fold from. -/
example : fold '\u017f' = fold 'S' ∧ fold '\u212a' = fold 'K' ∧ fold 'S' = 's' := by
  decide

/-- Characters before the letters have no variants. -/
theorem eq_of_caseVariants {c d : Char} (hc : c.toNat < 0x40) (h : CaseVariants c d) : c = d := by
  have hfold := (caseVariants_iff c d).mp h
  have huncovered : ∀ r ∈ foldRanges, r.covers c.toNat = false := by
    intro r hr
    have hfirst := le_first r hr
    rw [Bool.eq_false_iff]
    intro hcovers
    simp only [FoldRange.covers, Bool.and_eq_true, decide_eq_true_eq] at hcovers
    omega
  rw [fold_eq_self huncovered] at hfold
  rcases covered_cases d with ⟨hself, -⟩ | ⟨r, hr, hcovers⟩
  · rw [hfold, hself]
  · have htarget := (targets_valid _ (fold_of_covers hr hcovers).2).1
    rw [← hfold] at htarget
    omega

end AppLinks.Text
