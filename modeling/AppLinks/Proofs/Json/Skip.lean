import AppLinks.Proofs.Json.Reading

/-!
# Passing over printed values

Whatever value is passed over, however deep it nests, nothing of its text is left and nothing of
what follows is taken. Twice the length of the text is fuel enough.

    Delimited rest → skip (ws ++ (text l k j ++ rest)) = .ok rest      (skip_text)
-/

namespace AppLinks.Json

open Text

/-! ## Induction over values -/

theorem induction {P : Json → Prop} (null : P .null) (bool : ∀ b, P (.bool b))
    (number : ∀ n, P (.number n)) (string : ∀ s, P (.string s))
    (array : ∀ js, (∀ j ∈ js, P j) → P (.array js))
    (object : ∀ ms, (∀ m ∈ ms, P m.2) → P (.object ms)) (j : Json) : P j :=
  match j with
  | .null => null
  | .bool b => bool b
  | .number n => number n
  | .string s => string s
  | .array js => array js fun j _ => induction null bool number string array object j
  | .object ms => object ms fun m _ => induction null bool number string array object m.2
termination_by sizeOf j
decreasing_by
  · have := List.sizeOf_lt_of_mem ‹j ∈ js›
    simp only [Json.array.sizeOf_spec]
    omega
  · have := List.sizeOf_lt_of_mem ‹m ∈ ms›
    obtain ⟨n, j⟩ := m
    simp only [Json.object.sizeOf_spec, Prod.mk.sizeOf_spec] at this ⊢
    omega

/-! ## What is passed over -/

/-- Every text of the value is passed over. -/
def Passed (j : Json) : Prop :=
  ∀ ⦃l k ws rest fuel⦄, Blank ws → Delimited rest → 2 * (text l k j).length ≤ fuel →
    skipValue fuel (ws ++ (text l k j ++ rest)) = .ok rest

theorem fuel_pos {l : Layout} {k fuel : Nat} {j : Json} (h : 2 * (text l k j).length ≤ fuel) :
    0 < fuel := by
  obtain ⟨b, x, htext, -⟩ := opens_text l k j
  rw [htext, List.length_cons] at h
  omega

theorem delimited_close {c : UInt8} (hc : c = byte ']' ∨ c = byte '\x7d') (l : Layout) (k : Nat)
    (rest : Input) : Delimited (lineText l k ++ c :: rest) := by
  have hclose : Delimited (c :: rest) := by
    rcases hc with rfl | rfl <;>
      exact delimited_cons rfl (by decide) (by decide) (by decide) rest
  exact hclose.blank_append (blank_lineText l k)

theorem delimited_itemsText (l : Layout) (k k' : Nat) (js : List Json) (rest : Input) :
    Delimited (itemsText l k js ++ (lineText l k' ++ byte ']' :: rest)) := by
  cases js with
  | nil => exact delimited_close (Or.inl rfl) l k' rest
  | cons j js =>
    rw [itemsText_cons]
    exact delimited_cons rfl (by decide) (by decide) (by decide) _

theorem skipItems_text {js : List Json} (l : Layout) (k k' : Nat) (rest : Input)
    (hjs : ∀ j ∈ js, Passed j) : ∀ {j ws fuel}, Passed j → Blank ws →
      2 * ((text l k j).length + (itemsText l k js).length) < fuel →
      skipItems fuel (ws ++ (text l k j ++
        (itemsText l k js ++ (lineText l k' ++ byte ']' :: rest)))) = .ok rest := by
  induction js with
  | nil =>
    intro j ws fuel hj hws hfuel
    obtain ⟨fuel, rfl⟩ := Nat.exists_eq_add_one.mpr (Nat.zero_lt_of_lt hfuel)
    have hnil : itemsText l k [] = [] := rfl
    rw [skipItems, hj hws (delimited_itemsText l k k' [] rest) (by omega), ok_bind, hnil,
      List.nil_append, skipSpace_blank_cons (blank_lineText l k') rfl]
    rfl
  | cons i js ih =>
    intro j ws fuel hj hws hfuel
    obtain ⟨fuel, rfl⟩ := Nat.exists_eq_add_one.mpr (Nat.zero_lt_of_lt hfuel)
    obtain ⟨hi, hjs⟩ := List.forall_mem_cons.mp hjs
    rw [skipItems, hj hws (delimited_itemsText l k k' (i :: js) rest) (by omega), ok_bind]
    simp only [itemsText_cons, List.length_cons, List.length_append] at hfuel
    rw [itemsText_cons, List.cons_append, List.append_assoc, List.append_assoc,
      skipSpace_cons rfl]
    exact ih hjs hi (blank_lineText l k) (by omega)

theorem passed_array {js : List Json} (hjs : ∀ j ∈ js, Passed j) : Passed (.array js) := by
  intro l k ws rest fuel hws hrest hfuel
  obtain ⟨fuel, rfl⟩ := Nat.exists_eq_add_one.mpr (fuel_pos hfuel)
  cases js with
  | nil =>
    rw [text_array_nil, List.cons_append, skipValue, nextValue_blank_cons hws rfl, ok_bind]
    rfl
  | cons j js =>
    obtain ⟨hj, hjs⟩ := List.forall_mem_cons.mp hjs
    rw [text_array_cons] at hfuel
    simp only [List.length_cons, List.length_append] at hfuel
    obtain ⟨b, x, htext, hopen⟩ := text_append_eq_cons l (k + 1) j
      (itemsText l (k + 1) js ++ (lineText l k ++ byte ']' :: rest))
    have hitems : skipItems fuel (b :: x) = .ok rest := by
      rw [← htext]
      exact skipItems_text l (k + 1) k rest hjs hj blank_nil (by omega)
    simp only [text_array_cons, List.cons_append, List.append_assoc, List.nil_append, htext]
    rw [skipValue, nextValue_blank_cons hws rfl, ok_bind]
    simp +decide only [skipSpace_blank_cons (blank_lineText l (k + 1)) hopen.isSpace, if_false,
      if_true, hopen.ne_close, hitems]

theorem skipName_stringText {ws : Input} (hws : Blank ws) (l : Layout) (n : String) (x : Input) :
    ∃ ws', Blank ws' ∧
      skipName (ws ++ byte '"' :: (stringText n ++ byte '"' :: (colonText l ++ x))) =
        .ok (ws' ++ x) := by
  obtain ⟨ws', hws', hcolon⟩ := readColon_colonText l x
  refine ⟨ws', hws', ?_⟩
  unfold skipName
  rw [skipSpace_blank_cons hws rfl]
  dsimp only
  rw [if_pos rfl, skipString_stringText, ok_bind, hcolon]

theorem skipMembers_text {ms : List (String × Json)} (l : Layout) (k k' : Nat) (rest : Input)
    (hms : ∀ m ∈ ms, Passed m.2) : ∀ {n j ws fuel}, Passed j → Blank ws →
      2 * ((text l k j).length + (membersText l k ms).length) < fuel →
      skipMembers fuel (ws ++ byte '"' :: (stringText n ++ byte '"' :: (colonText l ++
        (text l k j ++ (membersText l k ms ++ (lineText l k' ++ byte '\x7d' :: rest)))))) =
          .ok rest := by
  induction ms with
  | nil =>
    intro n j ws fuel hj hws hfuel
    obtain ⟨fuel, rfl⟩ := Nat.exists_eq_add_one.mpr (Nat.zero_lt_of_lt hfuel)
    obtain ⟨ws', hws', hname⟩ := skipName_stringText hws l n
      (text l k j ++ (membersText l k [] ++ (lineText l k' ++ byte '\x7d' :: rest)))
    have hnil : membersText l k [] = [] := rfl
    rw [skipMembers, hname, ok_bind, hj hws' (delimited_membersText l k k' [] rest) (by omega),
      ok_bind, hnil, List.nil_append, skipSpace_blank_cons (blank_lineText l k') rfl]
    rfl
  | cons m ms ih =>
    intro n j ws fuel hj hws hfuel
    obtain ⟨fuel, rfl⟩ := Nat.exists_eq_add_one.mpr (Nat.zero_lt_of_lt hfuel)
    obtain ⟨i, v⟩ := m
    obtain ⟨hv, hms⟩ := List.forall_mem_cons.mp hms
    obtain ⟨ws', hws', hname⟩ := skipName_stringText hws l n
      (text l k j ++ (membersText l k ((i, v) :: ms) ++ (lineText l k' ++ byte '\x7d' :: rest)))
    rw [skipMembers, hname, ok_bind,
      hj hws' (delimited_membersText l k k' ((i, v) :: ms) rest) (by omega), ok_bind]
    simp only [membersText_cons, List.length_cons, List.length_append] at hfuel
    simp only [membersText_cons, List.cons_append, List.append_assoc]
    rw [skipSpace_cons rfl]
    exact ih hms hv (blank_lineText l k) (by omega)

theorem passed_object {ms : List (String × Json)} (hms : ∀ m ∈ ms, Passed m.2) :
    Passed (.object ms) := by
  intro l k ws rest fuel hws hrest hfuel
  obtain ⟨fuel, rfl⟩ := Nat.exists_eq_add_one.mpr (fuel_pos hfuel)
  cases ms with
  | nil =>
    rw [text_object_nil, List.cons_append, skipValue, nextValue_blank_cons hws rfl, ok_bind]
    rfl
  | cons m ms =>
    obtain ⟨n, j⟩ := m
    obtain ⟨hj, hms⟩ : Passed j ∧ ∀ m ∈ ms, Passed m.2 := List.forall_mem_cons.mp hms
    rw [text_object_cons] at hfuel
    simp only [List.length_cons, List.length_append] at hfuel
    have hmembers : skipMembers fuel (byte '"' :: (stringText n ++ byte '"' :: (colonText l ++
        (text l (k + 1) j ++ (membersText l (k + 1) ms ++ (lineText l k ++
          byte '\x7d' :: rest)))))) = .ok rest :=
      skipMembers_text l (k + 1) k rest hms hj blank_nil (by omega)
    simp only [text_object_cons, List.cons_append, List.append_assoc, List.nil_append]
    rw [skipValue, nextValue_blank_cons hws rfl, ok_bind]
    simp +decide only [skipSpace_blank_cons (b := byte '"') (blank_lineText l (k + 1)) rfl,
      if_false, if_true, hmembers]

/-- Every value is passed over. -/
theorem passed (j : Json) : Passed j := by
  induction j using induction with
  | null =>
    intro l k ws rest fuel hws _ hfuel
    obtain ⟨fuel, rfl⟩ := Nat.exists_eq_add_one.mpr (fuel_pos hfuel)
    have htext : text l k .null = byte 'n' :: ['u', 'l', 'l'].map byte := rfl
    rw [htext, List.cons_append, skipValue, nextValue_blank_cons hws rfl, ok_bind]
    exact readWord_append ['u', 'l', 'l'] rest
  | bool b =>
    intro l k ws rest fuel hws _ hfuel
    obtain ⟨fuel, rfl⟩ := Nat.exists_eq_add_one.mpr (fuel_pos hfuel)
    cases b with
    | true =>
      have htext : text l k (.bool true) = byte 't' :: ['r', 'u', 'e'].map byte := rfl
      rw [htext, List.cons_append, skipValue, nextValue_blank_cons hws rfl, ok_bind]
      exact readWord_append ['r', 'u', 'e'] rest
    | false =>
      have htext : text l k (.bool false) = byte 'f' :: ['a', 'l', 's', 'e'].map byte := rfl
      rw [htext, List.cons_append, skipValue, nextValue_blank_cons hws rfl, ok_bind]
      exact readWord_append ['a', 'l', 's', 'e'] rest
  | number n =>
    intro l k ws rest fuel hws hrest hfuel
    obtain ⟨fuel, rfl⟩ := Nat.exists_eq_add_one.mpr (fuel_pos hfuel)
    have hnumber := skipNumber_unsignedText n hrest
    rw [text_number]
    split
    · rw [List.append_assoc, List.singleton_append, skipValue, nextValue_blank_cons hws rfl,
        ok_bind]
      exact hnumber
    · obtain ⟨b, ds, hdigits, -⟩ := digitsText_eq_cons n.whole
      have hb : isDigit b = true := isDigit_digitsText b (hdigits ▸ List.mem_cons_self)
      have hopen : Opens (.number n) b := Or.inr hb
      have hminus : b ≠ byte '-' := by
        rintro rfl
        exact absurd hb (by decide)
      simp only [unsignedText, hdigits, List.cons_append, List.nil_append] at hnumber ⊢
      rw [skipValue, nextValue_blank_cons hws hopen.isSpace, ok_bind]
      simpa [hopen.null_iff, hopen.true_iff, hopen.false_iff, hminus, hb] using hnumber
  | string s =>
    intro l k ws rest fuel hws _ hfuel
    obtain ⟨fuel, rfl⟩ := Nat.exists_eq_add_one.mpr (fuel_pos hfuel)
    rw [text_string, List.cons_append, List.append_assoc, List.singleton_append, skipValue,
      nextValue_blank_cons hws rfl, ok_bind]
    dsimp only
    rw [if_neg (by decide), if_neg (by decide), if_neg (by decide), if_neg (by decide),
      if_neg (by decide), if_pos rfl, skipString_stringText]
  | array js ih => exact passed_array ih
  | object ms ih => exact passed_object ih

theorem skip_text {l : Layout} {k : Nat} {ws rest : Input} (j : Json) (hws : Blank ws)
    (hrest : Delimited rest) : skip (ws ++ (text l k j ++ rest)) = .ok rest := by
  unfold skip
  apply passed j hws hrest
  simp only [List.length_append]
  omega

end AppLinks.Json
