import Mathlib.Data.List.Basic
import AppLinks.Text.Pieces
import AppLinks.Text.Quoted

/-!
# Lines

A line feed ends a line.  What is read back as lines of a text that was printed line by line is
what was printed as long as no line holds a line feed; a quoted text and a number never do.

    lines (a ++ "\n" ++ b) = stretches a ++ lines b                        (lines_append_end)
    (stretches a).length = lineFeeds a + 1                                 (length_stretches)
    lineFeeds (quote s) = 0                                                (lineFeeds_quote)
-/

namespace AppLinks.Text

/-- How many line feeds are in a text. -/
def lineFeeds (s : String) : Nat := s.toList.count '\n'

/-- What stands between line feeds, before the first and behind the last. -/
def stretches (s : String) : List String :=
  (split (· == '\n') s.toList).map String.ofList

/-- The lines of a text; behind the last line feed there is one more only if something is there. -/
def lines (s : String) : List String :=
  if (stretches s).getLast? = some "" then (stretches s).dropLast else stretches s

/-! ## Line feeds -/

theorem lineFeeds_append (a b : String) : lineFeeds (a ++ b) = lineFeeds a + lineFeeds b := by
  unfold lineFeeds
  rw [String.toList_append, List.count_append]

theorem lineFeeds_eq_zero_iff (s : String) : lineFeeds s = 0 ↔ '\n' ∉ s.toList :=
  List.count_eq_zero

theorem newline_not_mem_toDigits {b : Nat} (hb : 1 < b) (n : Nat) : '\n' ∉ Nat.toDigits b n := by
  induction n using Nat.strongRecOn with
  | ind n ih =>
    rw [Nat.toDigits_eq_if hb]
    split
    · simp
    · have hlt : n / b < n := Nat.div_lt_self (by omega) hb
      simp [ih _ hlt]

theorem lineFeeds_toString (n : Nat) : lineFeeds (toString n) = 0 := by
  rw [lineFeeds_eq_zero_iff]
  show '\n' ∉ (String.ofList (Nat.toDigits 10 n)).toList
  rw [String.toList_ofList]
  exact newline_not_mem_toDigits (by decide) n

theorem newline_not_mem_quoteChar (c : Char) : '\n' ∉ quoteChar c := by
  unfold quoteChar
  split
  · decide
  split
  · decide
  split
  · decide
  · next hc =>
    repeat' split
    any_goals decide
    · simpa using Ne.symm hc
    · simpa [hex] using newline_not_mem_toDigits (by decide) c.toNat

/-- A quoted text stands on one line, whatever it holds. -/
theorem lineFeeds_quote (s : String) : lineFeeds (quote s) = 0 := by
  rw [lineFeeds_eq_zero_iff]
  unfold quote
  simp [newline_not_mem_quoteChar]

/-! ## Stretches -/

theorem stretches_ne_nil (s : String) : stretches s ≠ [] := by
  simpa [stretches] using split_ne_nil (· == '\n') s.toList

theorem length_stretches (s : String) : (stretches s).length = lineFeeds s + 1 := by
  unfold stretches lineFeeds
  rw [List.length_map, length_split]
  rfl

theorem stretches_append_of_lineFeeds {a : String} (h : lineFeeds a = 0) (b : String) :
    ∃ p ps, stretches b = p :: ps ∧ stretches (a ++ b) = (a ++ p) :: ps := by
  obtain ⟨p, ps, hsplit⟩ := List.exists_cons_of_ne_nil (split_ne_nil (· == '\n') b.toList)
  refine ⟨String.ofList p, ps.map String.ofList, by rw [stretches, hsplit]; rfl, ?_⟩
  unfold stretches
  rw [String.toList_append, split_append_of_not_mem ((lineFeeds_eq_zero_iff a).mp h) hsplit,
    List.map_cons, String.ofList_append, String.ofList_toList]

theorem stretches_of_lineFeeds {a : String} (h : lineFeeds a = 0) : stretches a = [a] := by
  unfold stretches
  rw [split_of_not_mem ((lineFeeds_eq_zero_iff a).mp h), List.map_singleton, String.ofList_toList]

/-! ## Lines -/

/-- A line feed ends the stretch before it, and what stands behind it is read for itself. -/
theorem lines_append_end (a b : String) : lines (a ++ "\n" ++ b) = stretches a ++ lines b := by
  have happend : stretches (a ++ "\n" ++ b) = stretches a ++ stretches b := by
    unfold stretches
    rw [String.toList_append, String.toList_append, List.append_assoc]
    show (split _ (a.toList ++ '\n' :: b.toList)).map _ = _
    rw [split_append rfl, List.map_append]
  unfold lines
  rw [happend, List.getLast?_append_of_ne_nil _ (stretches_ne_nil b),
    List.dropLast_append_of_ne_nil (stretches_ne_nil b)]
  split
  · rfl
  · rfl

theorem lines_empty : lines "" = [] := rfl

/-- Texts that each end with a line feed are read one after the other, then what stands behind. -/
theorem lines_join_append (as : List String) (b : String) :
    lines (String.join (as.map fun a => a ++ "\n") ++ b) = as.flatMap stretches ++ lines b := by
  induction as with
  | nil => simp
  | cons a as ih =>
    rw [List.map_cons, String.join_cons, String.append_assoc, lines_append_end, ih,
      List.flatMap_cons, List.append_assoc]

theorem lines_join (as : List String) :
    lines (String.join (as.map fun a => a ++ "\n")) = as.flatMap stretches := by
  simpa [lines_empty] using lines_join_append as ""

/-- What is printed on lines of its own reads back if it holds no line feed. -/
theorem lines_join_of_lineFeeds {as : List String} (h : ∀ a ∈ as, lineFeeds a = 0) :
    lines (String.join (as.map fun a => a ++ "\n")) = as := by
  rw [lines_join, List.flatMap_congr fun a ha => stretches_of_lineFeeds (h a ha)]
  simp

end AppLinks.Text
