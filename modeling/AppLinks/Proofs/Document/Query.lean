import AppLinks.Document.Reader
import AppLinks.Proofs.Json.Reading
import Mathlib.Tactic.SplitIfs

/-!
# Reading query constraints

A query constraint is read as a value of any kind and then looked at. Whatever the input, that
comes to the same as reading a string, or else an object of strings: a value of another kind is
refused in the end, wherever in the object it stood.

    QueryConstraint.reader depth input = .ok (.values m, rest) exactly when
    Reader.map Reader.string depth input = .ok (es, rest) for an `es` with m = .ofList es
                                                        (QueryConstraint.reader_eq_ok_iff)
-/

namespace AppLinks

open Json

namespace Json

variable {depth : Nat} {input rest : Input}

/-! ## Values that are strings or objects -/

/-- A value that is read begins with a byte that opens it. -/
theorem opens_of_value {j : Json} (h : Reader.value (depth + 1) input = .ok (j, rest)) :
    ∃ b x, nextValue input = .ok (b :: x) ∧ Opens j b := by
  rw [Reader.value, bind_eq_ok_iff] at h
  obtain ⟨next, hnext, h⟩ := h
  cases next with
  | nil => cases h
  | cons b x =>
    refine ⟨b, x, hnext, ?_⟩
    have hmap : ∀ {γ : Type} {y : Except Fault γ} {f : γ → Json × Input} {r : Input},
        y.map f = .ok (j, r) → (∀ c, Opens (f c).1 b) → Opens j b := by
      intro γ y f r hy hopen
      obtain ⟨c, -, hc⟩ := map_eq_ok_iff.mp hy
      have hj := hopen c
      rwa [← hc] at hj
    dsimp only at h
    by_cases hn : b = byte 'n'
    · rw [if_pos hn] at h
      exact hmap h fun _ => hn
    rw [if_neg hn] at h
    by_cases ht : b = byte 't'
    · rw [if_pos ht] at h
      exact hmap h fun _ => ht
    rw [if_neg ht] at h
    by_cases hf : b = byte 'f'
    · rw [if_pos hf] at h
      exact hmap h fun _ => hf
    rw [if_neg hf] at h
    by_cases hminus : b = byte '-'
    · rw [if_pos hminus] at h
      exact hmap h fun _ => Or.inl hminus
    rw [if_neg hminus] at h
    by_cases hdigit : isDigit b = true
    · rw [if_pos hdigit] at h
      exact hmap h fun _ => Or.inr hdigit
    rw [if_neg hdigit] at h
    by_cases hquote : b = byte '"'
    · rw [if_pos hquote] at h
      exact hmap h fun _ => hquote
    rw [if_neg hquote] at h
    by_cases hbracket : b = byte '['
    · rw [if_pos hbracket] at h
      split_ifs at h
      obtain ⟨mid, h, -⟩ := enclosed_eq_ok_iff.mp h
      exact hmap h fun _ => hbracket
    rw [if_neg hbracket] at h
    split_ifs at h with hbrace
    obtain ⟨mid, h, -⟩ := enclosed_eq_ok_iff.mp h
    exact hmap h fun _ => hbrace

theorem string_eq_ok_iff {s : String} : Reader.string depth input = .ok (s, rest) ↔
    ∃ x, nextValue input = .ok (byte '"' :: x) ∧ readString x = .ok (s, rest) := by
  rw [Reader.string, bind_eq_ok_iff]
  constructor
  · rintro ⟨next, hnext, h⟩
    cases next with
    | nil => cases h
    | cons b x =>
      dsimp only at h
      split_ifs at h with hb
      subst hb
      exact ⟨x, hnext, h⟩
  · rintro ⟨x, hnext, h⟩
    exact ⟨_, hnext, h⟩

theorem value_eq_string_iff {s : String} :
    Reader.value (depth + 1) input = .ok (.string s, rest) ↔
      Reader.string (depth + 1) input = .ok (s, rest) := by
  rw [string_eq_ok_iff]
  constructor
  · intro h
    obtain ⟨b, x, hnext, hopen⟩ := opens_of_value h
    obtain rfl : b = byte '"' := hopen
    rw [Reader.value, hnext, ok_bind] at h
    obtain ⟨q, hq, heq⟩ := map_eq_ok_iff.mp h
    obtain ⟨hs, rfl⟩ := Prod.mk.inj heq
    obtain rfl := Json.string.inj hs
    exact ⟨x, hnext, hq⟩
  · rintro ⟨x, hnext, h⟩
    rw [Reader.value, hnext, ok_bind]
    exact map_eq_ok_iff.mpr ⟨(s, rest), h, rfl⟩

theorem value_eq_object_iff {ms : List (String × Json)} :
    Reader.value (depth + 2) input = .ok (.object ms, rest) ↔
      ∃ x, nextValue input = .ok (byte '\x7b' :: x) ∧
        enclosed leaveObject (readMembers (Reader.value (depth + 1)) x) = .ok (ms, rest) := by
  have hobject : ∀ x, enclosed leaveObject ((readMembers (Reader.value (depth + 1)) x).map
        fun r => (Json.object r.1, r.2)) = .ok (.object ms, rest) ↔
      enclosed leaveObject (readMembers (Reader.value (depth + 1)) x) = .ok (ms, rest) := by
    intro x
    simp only [enclosed_eq_ok_iff, map_eq_ok_iff, Prod.mk.injEq, Json.object.injEq]
    constructor
    · rintro ⟨mid, ⟨q, hq, rfl, rfl⟩, hleave⟩
      exact ⟨q.2, hq, hleave⟩
    · rintro ⟨mid, hq, hleave⟩
      exact ⟨mid, ⟨_, hq, rfl, rfl⟩, hleave⟩
  constructor
  · intro h
    obtain ⟨b, x, hnext, hopen⟩ := opens_of_value h
    obtain rfl : b = byte '\x7b' := hopen
    rw [Reader.value, hnext, ok_bind] at h
    exact ⟨x, hnext, (hobject x).mp h⟩
  · rintro ⟨x, hnext, h⟩
    rw [Reader.value, hnext, ok_bind]
    exact (hobject x).mpr h

theorem map_eq_iff {α : Type} {r : Reader α} {es : List (String × α)} :
    Reader.map r (depth + 2) input = .ok (es, rest) ↔
      ∃ x, nextValue input = .ok (byte '\x7b' :: x) ∧
        enclosed leaveObject (readMembers (r (depth + 1)) x) = .ok (es, rest) := by
  rw [Reader.map, bind_eq_ok_iff]
  constructor
  · rintro ⟨next, hnext, h⟩
    cases next with
    | nil => cases h
    | cons b x =>
      dsimp only at h
      split_ifs at h with hb
      subst hb
      exact ⟨x, hnext, h⟩
  · rintro ⟨x, hnext, h⟩
    exact ⟨_, hnext, h⟩

/-! ## Members that are strings -/

/-- A member that was kept stays. -/
theorem subset_of_members_collect {α : Type} {value : Input → Except Fault (α × Input)} {fuel : Nat}
    {first : Bool} {acc acc' : List (String × α)}
    (h : members (collect value) fuel first acc input = .ok (acc', rest)) : acc ⊆ acc' := by
  induction fuel generalizing first acc input with
  | zero => cases h
  | succ fuel ih =>
    rw [members, bind_eq_ok_iff] at h
    obtain ⟨⟨name, next⟩, -, h⟩ := h
    cases name with
    | none =>
      obtain ⟨rfl, -⟩ := Prod.mk.inj (Except.ok.inj h)
      exact List.Subset.refl _
    | some name =>
      obtain ⟨⟨mid, behind⟩, hstep, h⟩ := bind_eq_ok_iff.mp h
      obtain ⟨_, -, hstep⟩ := bind_eq_ok_iff.mp hstep
      obtain ⟨v, -, hstep⟩ := bind_eq_ok_iff.mp hstep
      obtain ⟨rfl, rfl⟩ := Prod.mk.inj (Except.ok.inj hstep)
      exact List.subset_of_cons_subset (ih h)

/-- The members as members of any kind. -/
def asStrings (es : List (String × String)) : List (String × Json) :=
  es.map fun e => (e.1, .string e.2)

theorem asStrings_inj {es es' : List (String × String)} (h : asStrings es = asStrings es') :
    es = es' := by
  refine List.map_injective_iff.mpr ?_ h
  intro e e' heq
  obtain ⟨hname, hvalue⟩ := Prod.mk.inj heq
  exact Prod.ext hname (Json.string.inj hvalue)

/-- A run that ends with strings only met strings only. -/
theorem members_collect_value_iff {fuel : Nat} {first : Bool} {acc acc' : List (String × String)} :
    members (collect (Reader.value (depth + 1))) fuel first (asStrings acc) input =
        .ok (asStrings acc', rest) ↔
      members (collect (Reader.string (depth + 1))) fuel first acc input = .ok (acc', rest) := by
  induction fuel generalizing first acc input with
  | zero => exact iff_of_false (error_ne_ok _ _) (error_ne_ok _ _)
  | succ fuel ih =>
    rw [members, members, bind_eq_ok_iff, bind_eq_ok_iff]
    refine exists_congr fun q => and_congr_right fun _ => ?_
    obtain ⟨name, next⟩ := q
    cases name with
    | none =>
      constructor
      · intro h
        obtain ⟨hacc, rfl⟩ := Prod.mk.inj (Except.ok.inj h)
        rw [asStrings_inj hacc]
      · intro h
        obtain ⟨rfl, rfl⟩ := Prod.mk.inj (Except.ok.inj h)
        rfl
    | some name =>
      simp only [bind_eq_ok_iff, collect]
      constructor
      · rintro ⟨st, ⟨colon, hcolon, ⟨j, behind⟩, hvalue, hst⟩, h⟩
        obtain rfl := Except.ok.inj hst
        obtain ⟨e, -, he⟩ := List.mem_map.mp (subset_of_members_collect h List.mem_cons_self)
        obtain ⟨-, rfl⟩ := Prod.mk.inj he
        exact ⟨_, ⟨colon, hcolon, _, value_eq_string_iff.mp hvalue, rfl⟩, ih.mp h⟩
      · rintro ⟨st, ⟨colon, hcolon, ⟨s, behind⟩, hvalue, hst⟩, h⟩
        obtain rfl := Except.ok.inj hst
        exact ⟨_, ⟨colon, hcolon, _, value_eq_string_iff.mpr hvalue, rfl⟩, ih.mpr h⟩

theorem readMembers_value_iff {x : Input} {es : List (String × String)} :
    readMembers (Reader.value (depth + 1)) x = .ok (asStrings es, rest) ↔
      readMembers (Reader.string (depth + 1)) x = .ok (es, rest) := by
  rw [readMembers_eq_ok_iff, readMembers_eq_ok_iff, ← members_collect_value_iff]
  simp [asStrings]

end Json

namespace QueryConstraint

theorem wildcardOf?_eq_some_iff {m : String × Json} {e : String × String} :
    wildcardOf? m = some e ↔ m = (e.1, .string e.2) := by
  obtain ⟨n, j⟩ := m
  obtain ⟨n', w⟩ := e
  cases j <;> simp [wildcardOf?]

theorem mapM_wildcardOf?_eq_some_iff {ms : List (String × Json)} {es : List (String × String)} :
    ms.mapM wildcardOf? = some es ↔ ms = asStrings es := by
  induction ms generalizing es with
  | nil => cases es <;> simp [asStrings]
  | cons m ms ih =>
    rw [List.mapM_cons]
    simp only [bind, Option.bind_eq_some_iff, wildcardOf?_eq_some_iff, ih, pure, Option.some.injEq]
    constructor
    · rintro ⟨e, rfl, es, rfl, rfl⟩
      rfl
    · intro h
      cases es with
      | nil => cases h
      | cons e es =>
        obtain ⟨rfl, rfl⟩ := List.cons.inj h
        exact ⟨e, rfl, es, rfl, rfl⟩

theorem ofJson?_eq_some_iff {j : Json} {q : QueryConstraint} :
    ofJson? j = some q ↔ (∃ s, j = .string s ∧ q = .name s) ∨
      (∃ es, j = .object (asStrings es) ∧ q = .values (.ofList es)) := by
  cases j with
  | object ms =>
    rw [ofJson?, Option.map_eq_some_iff]
    simp only [mapM_wildcardOf?_eq_some_iff, Json.object.injEq, reduceCtorEq, false_and,
      exists_false, false_or]
    exact exists_congr fun es => and_congr_right fun _ => eq_comm
  | string s => simp [ofJson?, eq_comm]
  | null | bool | number | array => simp [ofJson?]

theorem reader_eq_ok_iff {depth : Nat} (hdepth : 1 < depth) {input rest : Input}
    {q : QueryConstraint} : reader depth input = .ok (q, rest) ↔
      (∃ s, Reader.string depth input = .ok (s, rest) ∧ q = .name s) ∨
      (∃ es, Reader.map Reader.string depth input = .ok (es, rest) ∧ q = .values (.ofList es)) := by
  obtain ⟨depth, rfl⟩ := Nat.exists_eq_add_of_le' (Nat.succ_le_of_lt hdepth)
  have hread : reader (depth + 2) input = .ok (q, rest) ↔
      ∃ j, Reader.value (depth + 2) input = .ok (j, rest) ∧ ofJson? j = some q := by
    rw [reader, bind_eq_ok_iff]
    constructor
    · rintro ⟨⟨j, behind⟩, hvalue, h⟩
      dsimp only at h
      split at h
      · next hq =>
        obtain ⟨rfl, rfl⟩ := Prod.mk.inj (Except.ok.inj h)
        exact ⟨j, hvalue, hq⟩
      · cases h
    · rintro ⟨j, hvalue, hq⟩
      refine ⟨(j, rest), hvalue, ?_⟩
      dsimp only
      rw [hq]
  have hmap : ∀ es, Reader.value (depth + 2) input = .ok (.object (asStrings es), rest) ↔
      Reader.map Reader.string (depth + 2) input = .ok (es, rest) := by
    intro es
    simp only [value_eq_object_iff, map_eq_iff, enclosed_eq_ok_iff, readMembers_value_iff]
  simp only [hread, ofJson?_eq_some_iff, ← value_eq_string_iff, ← hmap]
  constructor
  · rintro ⟨j, hvalue, ⟨s, rfl, rfl⟩ | ⟨es, rfl, rfl⟩⟩
    · exact Or.inl ⟨s, hvalue, rfl⟩
    · exact Or.inr ⟨es, hvalue, rfl⟩
  · rintro (⟨s, hvalue, rfl⟩ | ⟨es, hvalue, rfl⟩)
    · exact ⟨_, hvalue, Or.inl ⟨s, rfl, rfl⟩⟩
    · exact ⟨_, hvalue, Or.inr ⟨es, rfl, rfl⟩⟩

end QueryConstraint

end AppLinks
