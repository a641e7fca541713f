/-!
# Maps from names

A map keeps its entries in the order of their names (code point by code point), each name once, so
two maps with the same entries are the same value. Building from a list lets a later entry replace
an earlier one of its name.

    (m.insert k v).get? k' = if k' = k then some v else m.get? k'     (get?_insert)
    ofList m.toList = m                                               (ofList_toList)
-/

namespace AppLinks

/-- Names strictly increase. -/
def SortedByName {β : Type} (l : List (String × β)) : Prop :=
  l.Pairwise fun a b => a.1 < b.1

structure NameMap (β : Type) where
  entries : List (String × β)
  sorted : SortedByName entries
  deriving DecidableEq

namespace NameMap

variable {β : Type}

/-! ## Operations -/

def empty : NameMap β := ⟨[], List.Pairwise.nil⟩

instance : EmptyCollection (NameMap β) := ⟨empty⟩
instance : Inhabited (NameMap β) := ⟨empty⟩

def toList (m : NameMap β) : List (String × β) := m.entries

def size (m : NameMap β) : Nat := m.entries.length

def values (m : NameMap β) : List β := m.entries.map (·.2)

def get? (m : NameMap β) (k : String) : Option β :=
  m.entries.lookup k

/-- Puts an entry where its name belongs, over one of the same name. -/
def insertEntry (k : String) (v : β) : List (String × β) → List (String × β)
  | [] => [(k, v)]
  | e :: l =>
    if k < e.1 then (k, v) :: e :: l
    else if k = e.1 then (k, v) :: l
    else e :: insertEntry k v l

theorem mem_insertEntry {k : String} {v : β} {x : String × β} {l : List (String × β)}
    (h : x ∈ insertEntry k v l) : x = (k, v) ∨ x ∈ l := by
  induction l with
  | nil => simpa [insertEntry] using h
  | cons e l ih =>
    simp only [insertEntry] at h
    split at h
    · simpa using h
    · split at h
      · rcases List.mem_cons.mp h with h | h
        · exact Or.inl h
        · exact Or.inr (List.mem_cons_of_mem _ h)
      · rcases List.mem_cons.mp h with h | h
        · exact Or.inr (by simp [h])
        · rcases ih h with h | h
          · exact Or.inl h
          · exact Or.inr (List.mem_cons_of_mem _ h)

theorem lt_of_not_lt_of_ne {a b : String} (h : ¬ a < b) (hne : a ≠ b) : b < a := by
  rcases String.le_total b a with hle | hle
  · apply Decidable.byContradiction
    intro hlt
    exact hne (String.le_antisymm (String.not_lt.mp hlt) hle)
  · exact absurd (String.le_antisymm hle (String.not_lt.mp h)) hne

theorem sorted_insertEntry (k : String) (v : β) {l : List (String × β)} (h : SortedByName l) :
    SortedByName (insertEntry k v l) := by
  induction l with
  | nil => simp [insertEntry, SortedByName]
  | cons e l ih =>
    have he := List.pairwise_cons.mp h
    simp only [insertEntry]
    split
    · next hlt =>
      refine List.pairwise_cons.mpr ⟨?_, h⟩
      intro b hb
      rcases List.mem_cons.mp hb with rfl | hb
      · exact hlt
      · exact String.lt_trans hlt (he.1 b hb)
    · split
      · next heq =>
        refine List.pairwise_cons.mpr ⟨?_, he.2⟩
        intro b hb
        have := he.1 b hb
        simpa [heq] using this
      · next hlt hne =>
        refine List.pairwise_cons.mpr ⟨?_, ih he.2⟩
        intro b hb
        rcases mem_insertEntry hb with rfl | hb
        · exact lt_of_not_lt_of_ne hlt hne
        · exact he.1 b hb

def insert (m : NameMap β) (k : String) (v : β) : NameMap β :=
  ⟨insertEntry k v m.entries, sorted_insertEntry k v m.sorted⟩

def ofList (l : List (String × β)) : NameMap β :=
  l.foldl (fun m e => m.insert e.1 e.2) empty

/-! ## Lemmas -/

theorem ext {a b : NameMap β} (h : a.entries = b.entries) : a = b := by
  cases a; cases b; cases h; rfl

theorem lookup_cons_eq_ite (k' : String) (e : String × β) (l : List (String × β)) :
    (e :: l).lookup k' = if k' = e.1 then some e.2 else l.lookup k' := by
  rw [List.lookup_cons]
  split
  · next h => rw [if_pos (by simpa using h)]
  · next h => rw [if_neg (by simpa using h)]

theorem lookup_insertEntry (k : String) (v : β) (k' : String) (l : List (String × β)) :
    (insertEntry k v l).lookup k' = if k' = k then some v else l.lookup k' := by
  induction l with
  | nil => rw [insertEntry, lookup_cons_eq_ite]
  | cons e l ih =>
    simp only [insertEntry]
    split
    · rw [lookup_cons_eq_ite]
    · split
      · next heq =>
        rw [lookup_cons_eq_ite, lookup_cons_eq_ite, ← heq]
        by_cases h : k' = k <;> simp [h]
      · next hlt hne =>
        rw [lookup_cons_eq_ite, lookup_cons_eq_ite, ih]
        by_cases h : k' = k
        · subst h; simp [hne]
        · simp [h]

theorem get?_insert (m : NameMap β) (k : String) (v : β) (k' : String) :
    (m.insert k v).get? k' = if k' = k then some v else m.get? k' :=
  lookup_insertEntry k v k' m.entries

@[simp] theorem get?_empty (k : String) : (empty : NameMap β).get? k = none := rfl

theorem lookup_eq_some_iff_of_sorted {l : List (String × β)} (h : SortedByName l) (k : String)
    (v : β) : l.lookup k = some v ↔ (k, v) ∈ l := by
  induction l with
  | nil => simp
  | cons e l ih =>
    obtain ⟨hbefore, hl⟩ := List.pairwise_cons.mp h
    rw [lookup_cons_eq_ite, List.mem_cons]
    split
    · next hk =>
      subst hk
      have hnot : (e.1, v) ∉ l := fun hm => String.ne_of_lt (hbefore _ hm) rfl
      simp [hnot, Prod.ext_iff, eq_comm]
    · next hk =>
      rw [ih hl]
      simp [Prod.ext_iff, hk]

theorem get?_eq_some_iff (m : NameMap β) (k : String) (v : β) :
    m.get? k = some v ↔ (k, v) ∈ m.toList :=
  lookup_eq_some_iff_of_sorted m.sorted k v

/-- An entry whose name comes after all others goes last. -/
theorem insertEntry_append {k : String} {v : β} {l : List (String × β)} (h : ∀ e ∈ l, e.1 < k) :
    insertEntry k v l = l ++ [(k, v)] := by
  induction l with
  | nil => rfl
  | cons e l ih =>
    have he := h e (by simp)
    have hne : ¬ k = e.1 := fun hk => String.ne_of_lt he hk.symm
    simp only [insertEntry, if_neg (String.lt_asymm he), if_neg hne, List.cons_append]
    rw [ih fun x hx => h x (List.mem_cons_of_mem _ hx)]

theorem entries_foldl_insert (l : List (String × β)) :
    ∀ m : NameMap β, SortedByName (m.entries ++ l) →
      (l.foldl (fun m e => m.insert e.1 e.2) m).entries = m.entries ++ l := by
  induction l with
  | nil => intro m _; simp
  | cons e l ih =>
    intro m h
    have hlt : ∀ x ∈ m.entries, x.1 < e.1 := fun x hx =>
      (List.pairwise_append.mp h).2.2 x hx e (by simp)
    have hins : (m.insert e.1 e.2).entries = m.entries ++ [e] := insertEntry_append hlt
    rw [List.foldl_cons, ih, hins, List.append_assoc, List.singleton_append]
    rw [hins, List.append_assoc, List.singleton_append]
    exact h

theorem ofList_toList (m : NameMap β) : ofList m.toList = m :=
  ext (by simpa [ofList, toList, empty] using entries_foldl_insert m.entries empty m.sorted)

end NameMap

end AppLinks
