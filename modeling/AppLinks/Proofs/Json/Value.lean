import AppLinks.Proofs.Document.Schema

/-!
# Reading any printed value

A value that holds no numbers and does not nest too deep is read back from its text, in either
layout and whatever its strings and names hold.

    Textual n j → n < depth → Reader.value depth (ws ++ (text l k j ++ rest)) = .ok (j, rest)
                                                                            (Textual.readsBack)
    Textual n j → n < depthLimit → readText Reader.value (j.render l) = .ok j
                                                                            (Textual.readText_render)
-/

namespace AppLinks.Json

/-- No numbers in it, and at most `n` containers one inside the other. -/
inductive Textual : Nat → Json → Prop
  | null {n : Nat} : Textual n .null
  | bool {n : Nat} (b : Bool) : Textual n (.bool b)
  | string {n : Nat} (s : String) : Textual n (.string s)
  | array {n : Nat} {js : List Json} : (∀ j ∈ js, Textual n j) → Textual (n + 1) (.array js)
  | object {n : Nat} {ms : List (String × Json)} : (∀ m ∈ ms, Textual n m.2) →
      Textual (n + 1) (.object ms)

/-- Every text of the value is read as the value, and no more than that text. -/
def ReadsBack (read : Input → Except Fault (Json × Input)) (j : Json) : Prop :=
  ∀ ⦃l k ws rest⦄, Blank ws → read (ws ++ (text l k j ++ rest)) = .ok (j, rest)

variable {value : Input → Except Fault (Json × Input)} {l : Layout} {k : Nat}

/-! ## Items -/

theorem items_of_readsBack {rest : Input} {js : List Json} (h : ∀ j ∈ js, ReadsBack value j) :
    ∀ {fuel first input}, AtItems l k rest first js input → js.length < fuel →
      items value fuel first input = .ok (js, byte ']' :: rest) := by
  induction js with
  | nil =>
    intro fuel first input hat hfuel
    obtain ⟨fuel, rfl⟩ := Nat.exists_eq_add_one.mpr hfuel
    rw [items, hat.1, ok_bind]
    rfl
  | cons j js ih =>
    intro fuel first input hat hfuel
    obtain ⟨fuel, rfl⟩ := Nat.exists_eq_add_one.mpr (Nat.zero_lt_of_lt hfuel)
    obtain ⟨-, tail, hnext, htail⟩ := hat
    obtain ⟨hj, hjs⟩ := List.forall_mem_cons.mp h
    have hread : value (text l k j ++ tail) = .ok (j, tail) := hj blank_nil
    have hrest := ih hjs htail (Nat.lt_of_succ_lt_succ hfuel)
    rw [items, hnext, ok_bind]
    simp only [if_true, hread, ok_bind, hrest]

/-! ## Members -/

theorem collect_of_readsBack {j : Json} (h : ReadsBack value j) (acc : List (String × Json))
    (n : String) (rest : Input) :
    collect value acc n (colonText l ++ (text l k j ++ rest)) = .ok ((n, j) :: acc, rest) := by
  obtain ⟨ws, hws, hcolon⟩ := readColon_colonText l (text l k j ++ rest)
  unfold collect
  rw [hcolon, ok_bind, h hws, ok_bind]

/-- The members after the first. -/
theorem members_of_readsBack {ms : List (String × Json)} (h : ∀ m ∈ ms, ReadsBack value m.2)
    (k' : Nat) (rest : Input) : ∀ {fuel acc}, ms.length < fuel →
      members (collect value) fuel false acc
          (membersText l k ms ++ (lineText l k' ++ byte '\x7d' :: rest)) =
        .ok (ms.reverse ++ acc, byte '\x7d' :: rest) := by
  induction ms with
  | nil =>
    intro fuel acc hfuel
    obtain ⟨fuel, rfl⟩ := Nat.exists_eq_add_one.mpr hfuel
    exact members_close (collect value) fuel false acc (blank_lineText l k') rest
  | cons m ms ih =>
    intro fuel acc hfuel
    obtain ⟨fuel, rfl⟩ := Nat.exists_eq_add_one.mpr (Nat.zero_lt_of_lt hfuel)
    obtain ⟨n, j⟩ := m
    obtain ⟨hj, hms⟩ := List.forall_mem_cons.mp h
    simp only [membersText_cons, List.cons_append, List.append_assoc]
    rw [members, nextName_comma (blank_lineText l k), ok_bind]
    simp only [collect_of_readsBack hj, ok_bind]
    rw [ih hms (Nat.lt_of_succ_lt_succ hfuel), List.reverse_cons, List.append_assoc]
    rfl

/-- Behind the opening brace, up to the closing one. -/
theorem readMembers_of_readsBack {ms : List (String × Json)} (h : ∀ m ∈ ms, ReadsBack value m.2)
    {b : UInt8} {x rest : Input} (htext : text l k (.object ms) ++ rest = b :: x) :
    readMembers value x = .ok (ms, byte '\x7d' :: rest) := by
  rw [readMembers_eq_ok_iff]
  cases ms with
  | nil =>
    simp only [text_object_nil, List.cons_append, List.nil_append, List.cons.injEq] at htext
    obtain ⟨-, rfl⟩ := htext
    exact members_close (collect value) _ true [] blank_nil rest
  | cons m ms =>
    obtain ⟨n, j⟩ := m
    obtain ⟨hj, hms⟩ := List.forall_mem_cons.mp h
    simp only [text_object_cons, List.cons_append, List.append_assoc, List.nil_append,
      List.cons.injEq] at htext
    obtain ⟨-, rfl⟩ := htext
    have hlength := length_le_membersText l (k + 1) ms
    rw [members, nextName_first (blank_lineText l (k + 1)), ok_bind]
    simp only [collect_of_readsBack hj, ok_bind]
    rw [members_of_readsBack hms k rest (by simp only [List.length_append, List.length_cons]; omega),
      List.reverse_cons]

/-! ## Values -/

theorem enclosed_of_ok {α : Type} {leave : Input → Option Cause × Input} {close rest : Input}
    {a : α} (h : leave close = (none, rest)) : enclosed leave (.ok (a, close)) = .ok (a, rest) :=
  enclosed_eq_ok_iff.mpr ⟨close, rfl, h⟩

theorem readsBack_array {depth : Nat} {js : List Json} (hdepth : 0 < depth)
    (h : ∀ j ∈ js, ReadsBack (Reader.value depth) j) :
    ReadsBack (Reader.value (depth + 1)) (.array js) := by
  intro l k ws rest hws
  obtain ⟨b, x, htext, hopen⟩ := text_append_eq_cons l k (.array js) rest
  obtain rfl : b = byte '[' := hopen
  obtain ⟨hat, hlength⟩ := atItems_array htext
  have hitems := items_of_readsBack h hat (Nat.lt_succ_of_le hlength)
  rw [htext, Reader.value, nextValue_blank_cons hws rfl, ok_bind]
  dsimp only
  rw [if_neg (by decide), if_neg (by decide), if_neg (by decide), if_neg (by decide),
    if_neg (by decide), if_neg (by decide), if_pos rfl, if_neg (Nat.ne_of_gt hdepth), hitems]
  exact enclosed_of_ok (leaveArray_close rest)

theorem readsBack_object {depth : Nat} {ms : List (String × Json)} (hdepth : 0 < depth)
    (h : ∀ m ∈ ms, ReadsBack (Reader.value depth) m.2) :
    ReadsBack (Reader.value (depth + 1)) (.object ms) := by
  intro l k ws rest hws
  obtain ⟨b, x, htext, hopen⟩ := text_append_eq_cons l k (.object ms) rest
  obtain rfl : b = byte '\x7b' := hopen
  rw [htext, Reader.value, nextValue_blank_cons hws rfl, ok_bind]
  dsimp only
  rw [if_neg (by decide), if_neg (by decide), if_neg (by decide), if_neg (by decide),
    if_neg (by decide), if_neg (by decide), if_neg (by decide), if_pos rfl,
    if_neg (Nat.ne_of_gt hdepth), readMembers_of_readsBack h htext]
  exact enclosed_of_ok (leaveObject_close rest)

theorem readsBack_string (depth : Nat) (s : String) :
    ReadsBack (Reader.value (depth + 1)) (.string s) := by
  intro l k ws rest hws
  rw [text_string, List.cons_append, List.append_assoc, List.singleton_append, Reader.value,
    nextValue_blank_cons hws rfl, ok_bind]
  dsimp only
  rw [if_neg (by decide), if_neg (by decide), if_neg (by decide), if_neg (by decide),
    if_neg (by decide), if_pos rfl, readString_stringText]
  rfl

/-- A word for a value, up to its first letter. -/
theorem readsBack_word {depth : Nat} {j : Json} {b : UInt8} (cs : List Char)
    (htext : ∀ l k, text l k j = b :: cs.map byte) (hb : isSpace b = false)
    (hread : ∀ rest, Reader.value (depth + 1) (b :: rest) =
      (readWord cs rest).map (j, ·)) : ReadsBack (Reader.value (depth + 1)) j := by
  intro l k ws rest hws
  have hnext : nextValue (b :: (cs.map byte ++ rest)) = .ok (b :: (cs.map byte ++ rest)) :=
    nextValue_blank_cons blank_nil hb _
  have hspace : Reader.value (depth + 1) (ws ++ b :: (cs.map byte ++ rest)) =
      Reader.value (depth + 1) (b :: (cs.map byte ++ rest)) := by
    rw [Reader.value, Reader.value, nextValue_blank_cons hws hb, hnext]
  rw [htext, List.cons_append, hspace, hread, readWord_append]
  rfl

theorem Textual.readsBack {n : Nat} {j : Json} (h : Textual n j) :
    ∀ {depth}, n < depth → ReadsBack (Reader.value depth) j := by
  induction h with
  | null =>
    intro depth hdepth
    obtain ⟨depth, rfl⟩ := Nat.exists_eq_add_one.mpr (Nat.zero_lt_of_lt hdepth)
    exact readsBack_word ['u', 'l', 'l'] (fun _ _ => rfl) rfl fun _ => rfl
  | bool b =>
    intro depth hdepth
    obtain ⟨depth, rfl⟩ := Nat.exists_eq_add_one.mpr (Nat.zero_lt_of_lt hdepth)
    cases b with
    | true => exact readsBack_word ['r', 'u', 'e'] (fun _ _ => rfl) rfl fun _ => rfl
    | false => exact readsBack_word ['a', 'l', 's', 'e'] (fun _ _ => rfl) rfl fun _ => rfl
  | string s =>
    intro depth hdepth
    obtain ⟨depth, rfl⟩ := Nat.exists_eq_add_one.mpr (Nat.zero_lt_of_lt hdepth)
    exact readsBack_string depth s
  | @array n js _ ih =>
    intro depth hdepth
    obtain ⟨depth, rfl⟩ := Nat.exists_eq_add_one.mpr (Nat.zero_lt_of_lt hdepth)
    have hlt : n < depth := Nat.lt_of_succ_lt_succ hdepth
    exact readsBack_array (Nat.zero_lt_of_lt hlt) fun j hj => ih j hj hlt
  | @object n ms _ ih =>
    intro depth hdepth
    obtain ⟨depth, rfl⟩ := Nat.exists_eq_add_one.mpr (Nat.zero_lt_of_lt hdepth)
    have hlt : n < depth := Nat.lt_of_succ_lt_succ hdepth
    exact readsBack_object (Nat.zero_lt_of_lt hlt) fun m hm => ih m hm hlt

theorem Textual.readText_render {n : Nat} {j : Json} (h : Textual n j) (hn : n < depthLimit)
    (l : Layout) : readText Reader.value (j.render l) = .ok j := by
  have htext : Text.Utf8.encode (j.render l).toList = [] ++ (text l 0 j ++ []) := by
    rw [render, String.toList_ofList, List.append_nil, List.nil_append, text]
  unfold readText
  rw [htext]
  exact readAll_eq_ok_iff.mpr ⟨[], h.readsBack hn blank_nil, rfl⟩

end AppLinks.Json
