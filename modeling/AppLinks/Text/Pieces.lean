/-!
# Pieces of a text

    split sep (a ++ s :: b) = split sep a ++ split sep b, for a separator `s`     (split_append)
-/

namespace AppLinks.Text

/-- A character put in front of the first piece. -/
def extendFirst (c : Char) : List (List Char) → List (List Char)
  | [] => [[c]]
  | p :: ps => (c :: p) :: ps

/-- The pieces between separators, empty ones too: one more than there are separators. -/
def split (sep : Char → Bool) : List Char → List (List Char)
  | [] => [[]]
  | c :: cs => if sep c then [] :: split sep cs else extendFirst c (split sep cs)

theorem split_ne_nil (sep : Char → Bool) (cs : List Char) : split sep cs ≠ [] := by
  cases cs with
  | nil => simp [split]
  | cons c cs =>
    simp only [split]
    split
    · simp
    · cases Text.split sep cs <;> simp [extendFirst]

theorem extendFirst_append (c : Char) {ps : List (List Char)} (qs : List (List Char))
    (h : ps ≠ []) : extendFirst c (ps ++ qs) = extendFirst c ps ++ qs := by
  cases ps with
  | nil => exact absurd rfl h
  | cons p ps => rfl

theorem split_append {sep : Char → Bool} {s : Char} (hs : sep s = true) (a b : List Char) :
    split sep (a ++ s :: b) = split sep a ++ split sep b := by
  induction a with
  | nil => simp [split, hs]
  | cons c a ih =>
    simp only [List.cons_append, split]
    split
    · rw [ih]; rfl
    · rw [ih, extendFirst_append c _ (split_ne_nil sep a)]

/-- What holds no separator lengthens the first piece. -/
theorem split_append_of_not_mem {a : Char} {xs : List Char} (h : a ∉ xs) {ys p : List Char}
    {ps : List (List Char)} (hys : split (· == a) ys = p :: ps) :
    split (· == a) (xs ++ ys) = (xs ++ p) :: ps := by
  induction xs with
  | nil => exact hys
  | cons x xs ih =>
    have hx : (x == a) = false := beq_eq_false_iff_ne.mpr fun hx => h (by simp [hx])
    have hxs : a ∉ xs := fun hmem => h (List.mem_cons_of_mem _ hmem)
    rw [List.cons_append, split, hx, ih hxs]
    rfl

theorem split_of_not_mem {a : Char} {cs : List Char} (h : a ∉ cs) :
    split (· == a) cs = [cs] := by
  simpa using split_append_of_not_mem h (show split (· == a) [] = [[]] from rfl)

theorem length_split (sep : Char → Bool) (cs : List Char) :
    (split sep cs).length = cs.countP sep + 1 := by
  induction cs with
  | nil => rfl
  | cons c cs ih =>
    obtain ⟨p, ps, hsplit⟩ := List.exists_cons_of_ne_nil (split_ne_nil sep cs)
    rw [hsplit] at ih
    cases hc : sep c with
    | true => simpa [split, hc, hsplit] using ih
    | false => simpa [split, hc, hsplit, extendFirst] using ih

end AppLinks.Text
