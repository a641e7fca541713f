import AppLinks.Json.Record
import AppLinks.Proofs.Json.Skip

/-!
# What a record is read from

The names of a record's fields say which value belongs to which field, whether an object or an
array is read. The fields are then filled one by one in their order; in whatever order an object
has them comes to the same, since filling two fields commutes.

    Reads (Reader.record name (s.fields.map (·.toRecordField)) blank) (n + 1) (s.RecordOf blank)
                                                                            (Schema.reads)
-/

namespace AppLinks.Json

open Text

variable {α β : Type} {n : Nat}

/-! ## Fields -/

/-- A field, what its values say, and what they do to the record. -/
structure KnownField (α : Type) (n : Nat) extends RecordField α where
  {Value : Type}
  Says : Json → Value → Prop
  set : Value → α → α
  reads : Reads read n fun j g => ∃ v, Says j v ∧ g = set v

namespace KnownField

def defaulted (name : String) {r : Reader β} {S : Json → β → Prop} (h : Reads r n S)
    (set : β → α → α) : KnownField α n :=
  { RecordField.defaulted name r set with
    Says := S
    set := set
    reads := h.mapped set }

def required (name : String) {r : Reader β} {S : Json → β → Prop} (h : Reads r n S)
    (set : β → α → α) : KnownField α n :=
  { RecordField.required name r set with
    Says := S
    set := set
    reads := h.mapped set }

/-- What a value may do to the record. -/
def Means (f : KnownField α n) (j : Json) (g : α → α) : Prop := ∃ v, f.Says j v ∧ g = f.set v

/-- The two fields have different names, and in which order they are set makes no difference. -/
def Apart (f f' : KnownField α n) : Prop :=
  f.name ≠ f'.name ∧ ∀ v v' x, f.set v (f'.set v' x) = f'.set v' (f.set v x)

theorem Apart.comm {f f' : KnownField α n} (h : f.Apart f') {j j' : Json} {g g' : α → α}
    (hg : f.Means j g) (hg' : f'.Means j' g') (x : α) : g (g' x) = g' (g x) := by
  obtain ⟨v, -, rfl⟩ := hg
  obtain ⟨v', -, rfl⟩ := hg'
  exact h.2 v v' x

end KnownField

/-- The fields of a record in their order. -/
structure Schema (α : Type) (n : Nat) where
  fields : List (KnownField α n)
  apart : fields.Pairwise KnownField.Apart

/-! ## Values of fields -/

/-- Which value belongs to which name: in an object, which has each of the names at most once, the
member of that name; in an array, which has no more items than there are names, the item in that
place. -/
inductive Assigns (names : List String) : Json → (String → Option Json) → Prop
  | object {ms : List (String × Json)} :
      (∀ n ∈ names, (ms.map (·.1)).count n ≤ 1) → Assigns names (.object ms) fun n => ms.lookup n
  | array {js : List Json} :
      js.length ≤ names.length → Assigns names (.array js) fun n => (names.zip js).lookup n

/-- `y` is `x` with the fields filled that have a value. -/
def Filled (look : String → Option Json) : List (KnownField α n) → α → α → Prop
  | [], x, y => y = x
  | f :: fs, x, y =>
    match look f.name with
    | none => Filled look fs x y
    | some j => ∃ g, f.Means j g ∧ Filled look fs (g x) y

/-- Every field that has to be there is there. -/
def Complete (look : String → Option Json) (fs : List (KnownField α n)) : Prop :=
  ∀ f ∈ fs, f.isRequired = true → (look f.name).isSome = true

/-- `y` is the record that starts as `x` and is filled. -/
structure Built (look : String → Option Json) (fs : List (KnownField α n)) (x y : α) : Prop where
  complete : Complete look fs
  filled : Filled look fs x y

namespace Schema

def names (s : Schema α n) : List String := s.fields.map (·.name)

/-- The record that starts as `blank` and is filled from the value `j`. -/
def RecordOf (s : Schema α n) (blank : α) (j : Json) (x : α) : Prop :=
  ∃ look, Assigns s.names j look ∧ Built look s.fields blank x

end Schema

theorem filled_congr {look look' : String → Option Json} {fs : List (KnownField α n)}
    (h : ∀ f ∈ fs, look f.name = look' f.name) (x y : α) :
    Filled look fs x y ↔ Filled look' fs x y := by
  induction fs generalizing x with
  | nil => rfl
  | cons f fs ih =>
    obtain ⟨hf, hfs⟩ := List.forall_mem_cons.mp h
    simp only [Filled, hf, ih hfs]

theorem built_nil {look : String → Option Json} {x y : α} :
    Built look ([] : List (KnownField α n)) x y ↔ y = x :=
  ⟨fun h => h.filled, fun h => ⟨List.forall_mem_nil _, h⟩⟩

theorem built_cons_of_none {look : String → Option Json} {f : KnownField α n}
    {fs : List (KnownField α n)} (h : look f.name = none) {x y : α} :
    Built look (f :: fs) x y ↔ f.isRequired = false ∧ Built look fs x y := by
  constructor
  · rintro ⟨hcomplete, hfilled⟩
    obtain ⟨hf, hfs⟩ := List.forall_mem_cons.mp hcomplete
    simp only [Filled, h] at hf hfilled
    exact ⟨by simpa using hf, hfs, hfilled⟩
  · rintro ⟨hf, hfs, hfilled⟩
    refine ⟨List.forall_mem_cons.mpr ⟨by simp [hf], hfs⟩, ?_⟩
    simpa only [Filled, h] using hfilled

theorem built_cons_of_some {look : String → Option Json} {f : KnownField α n}
    {fs : List (KnownField α n)} {j : Json} (h : look f.name = some j) {x y : α} :
    Built look (f :: fs) x y ↔ ∃ g, f.Means j g ∧ Built look fs (g x) y := by
  constructor
  · rintro ⟨hcomplete, hfilled⟩
    simp only [Filled, h] at hfilled
    obtain ⟨g, hg, hfilled⟩ := hfilled
    exact ⟨g, hg, (List.forall_mem_cons.mp hcomplete).2, hfilled⟩
  · rintro ⟨g, hg, hfs, hfilled⟩
    refine ⟨List.forall_mem_cons.mpr ⟨fun _ => by rw [h]; rfl, hfs⟩, ?_⟩
    simp only [Filled, h]
    exact ⟨g, hg, hfilled⟩

theorem built_congr {look look' : String → Option Json} {fs : List (KnownField α n)}
    (h : ∀ f ∈ fs, look f.name = look' f.name) (x y : α) :
    Built look fs x y ↔ Built look' fs x y := by
  have hcomplete : Complete look fs ↔ Complete look' fs :=
    forall₂_congr fun f hf => by rw [h f hf]
  have hfilled := filled_congr h x y
  exact ⟨fun hb => ⟨hcomplete.mp hb.1, hfilled.mp hb.2⟩,
    fun hb => ⟨hcomplete.mpr hb.1, hfilled.mpr hb.2⟩⟩

/-- What a value says that may be left out. -/
def Absentable (S : Json → β → Prop) (blank : β) : Option Json → β → Prop
  | none, b => b = blank
  | some j, b => S j b

/-- What a value says that has to be there. -/
def Present (S : Json → β → Prop) : Option Json → β → Prop
  | none, _ => False
  | some j, b => S j b

section
variable {look : String → Option Json} {name : String} {r : Reader β} {S : Json → β → Prop}
  {h : Reads r n S} {set : β → α → α} {fs : List (KnownField α n)} {x y : α}

theorem built_defaulted (blank : β) (hset : set blank x = x) :
    Built look (.defaulted name h set :: fs) x y ↔
      ∃ b, Absentable S blank (look name) b ∧ Built look fs (set b x) y := by
  cases hlook : look name with
  | none =>
    rw [built_cons_of_none hlook]
    simp [KnownField.defaulted, RecordField.defaulted, Absentable, hset]
  | some j =>
    rw [built_cons_of_some hlook]
    simp [KnownField.Means, KnownField.defaulted, Absentable]

theorem built_required : Built look (.required name h set :: fs) x y ↔
    ∃ b, Present S (look name) b ∧ Built look fs (set b x) y := by
  cases hlook : look name with
  | none =>
    rw [built_cons_of_none hlook]
    simp [KnownField.required, RecordField.required, Present]
  | some j =>
    rw [built_cons_of_some hlook]
    simp [KnownField.Means, KnownField.required, Present]

end

/-- A value found for one more field fills it, before the others as well as in its turn. -/
theorem filled_of_found {look look' : String → Option Json} {fs : List (KnownField α n)}
    (hapart : fs.Pairwise KnownField.Apart) {f : KnownField α n} (hf : f ∈ fs) {j : Json}
    (hnone : look f.name = none) (hsome : look' f.name = some j)
    (hother : ∀ k, k ≠ f.name → look' k = look k) (x y : α) :
    Filled look' fs x y ↔ ∃ g, f.Means j g ∧ Filled look fs (g x) y := by
  induction fs generalizing x with
  | nil => cases hf
  | cons f' fs ih =>
    obtain ⟨hhead, hapart⟩ := List.pairwise_cons.mp hapart
    rcases List.mem_cons.mp hf with rfl | hf
    · have hsame : ∀ f' ∈ fs, look' f'.name = look f'.name :=
        fun f' hf' => hother _ (hhead f' hf').1.symm
      simp only [Filled, hnone, hsome, filled_congr hsame]
    · have hf' := hhead f hf
      simp only [Filled, hother _ hf'.1, ih hapart hf]
      cases hlook : look f'.name with
      | none => rfl
      | some j' =>
        constructor
        · rintro ⟨g', hg', g, hg, hrest⟩
          exact ⟨g, hg, g', hg', by rwa [hf'.comm hg' hg]⟩
        · rintro ⟨g, hg, g', hg', hrest⟩
          exact ⟨g', hg', g, hg, by rwa [← hf'.comm hg' hg]⟩

/-! ## Reading members -/

/-- What a member does to a record that is being read. -/
def FieldStep (fs : List (KnownField α n)) (p : Partial α) (name : String) (j : Json)
    (p' : Partial α) : Prop :=
  match fs.find? (·.name == name) with
  | none => p' = p
  | some f => name ∉ p.seen ∧ ∃ g, f.Means j g ∧ p' = ⟨name :: p.seen, g p.record⟩

theorem stepsAs_readField (fs : List (KnownField α n)) {depth : Nat} (hdepth : n < depth) :
    StepsAs (readField (fs.map (·.toRecordField)) depth) (FieldStep fs) := by
  intro p name l k j rest q hrest
  have hfind : (fs.map (·.toRecordField)).find? (·.name == name) =
      (fs.find? (·.name == name)).map (·.toRecordField) := List.find?_map
  unfold readField FieldStep
  rw [hfind]
  cases fs.find? (·.name == name) with
  | none =>
    refine readColon_bind_eq_ok_iff fun ws hws => ?_
    rw [skip_text j hws hrest, ok_bind]
    simp [eq_comm]
  | some f =>
    dsimp only [Option.map_some]
    split
    · next hseen =>
      have hmem : name ∈ p.seen := by simpa using hseen
      simp [hmem]
    · next hseen =>
      have hmem : name ∉ p.seen := by simpa using hseen
      refine readColon_bind_eq_ok_iff fun ws hws => ?_
      simp only [bind_eq_ok_iff, f.reads depth hdepth hws]
      constructor
      · rintro ⟨_, ⟨g, hg, rfl⟩, hq⟩
        exact ⟨_, ⟨hmem, g, hg, rfl⟩, (Except.ok.inj hq).symm⟩
      · rintro ⟨_, ⟨-, g, hg, rfl⟩, rfl⟩
        exact ⟨(g, rest), ⟨g, hg, rfl⟩, rfl⟩

/-- The names among `names` that the members have, last first. -/
def namesSeen (names : List String) (ms : List (String × Json)) : List String :=
  ((ms.map (·.1)).filter (names.contains ·)).reverse

theorem namesSeen_cons_of_mem {names : List String} {m : String × Json} (h : m.1 ∈ names)
    (ms : List (String × Json)) : namesSeen names (m :: ms) = namesSeen names ms ++ [m.1] := by
  simp [namesSeen, h]

theorem namesSeen_cons_of_not_mem {names : List String} {m : String × Json} (h : m.1 ∉ names)
    (ms : List (String × Json)) : namesSeen names (m :: ms) = namesSeen names ms := by
  simp [namesSeen, h]

/-- How often a name may still be met, when those in `seen` were. -/
def allowance (seen : List String) (k : String) : Nat := if k ∈ seen then 0 else 1

theorem allowance_nil (k : String) : allowance [] k = 1 := by simp [allowance]

theorem count_cons_le_allowance_iff {names : List String} {i : String} (hi : i ∈ names)
    (is seen : List String) :
    (∀ k ∈ names, (i :: is).count k ≤ allowance seen k) ↔
      i ∉ seen ∧ ∀ k ∈ names, is.count k ≤ allowance (i :: seen) k := by
  constructor
  · intro h
    have hfirst := h i hi
    rw [List.count_cons_self] at hfirst
    have hseen : i ∉ seen := by
      intro hmem
      simp [allowance, hmem] at hfirst
    refine ⟨hseen, fun k hk => ?_⟩
    by_cases heq : i = k
    · subst heq
      simp only [allowance, hseen, if_false] at hfirst
      simp only [allowance, List.mem_cons_self, if_true]
      omega
    · have hle := h k hk
      rw [List.count_cons_of_ne heq] at hle
      simpa [allowance, Ne.symm heq] using hle
  · rintro ⟨hseen, h⟩ k hk
    have hle := h k hk
    by_cases heq : i = k
    · subst heq
      simp only [allowance, List.mem_cons_self, if_true] at hle
      simp only [List.count_cons_self, allowance, hseen, if_false]
      omega
    · rw [List.count_cons_of_ne heq]
      simpa [allowance, Ne.symm heq] using hle

theorem lookup_cons_of_ne {k : String} {m : String × Json} (h : k ≠ m.1)
    (ms : List (String × Json)) : (m :: ms).lookup k = ms.lookup k := by
  rw [List.lookup_cons, beq_false_of_ne h]

theorem lookup_eq_none_of_not_mem {k : String} {ms : List (String × Json)}
    (h : k ∉ ms.map (·.1)) : ms.lookup k = none := by
  rw [List.lookup_eq_none_iff]
  intro m hm
  have hne : k ≠ m.1 := by
    rintro rfl
    exact h (List.mem_map_of_mem hm)
  exact bne_iff_ne.mpr hne

theorem filled_none (fs : List (KnownField α n)) (x y : α) :
    Filled (fun _ => none) fs x y ↔ y = x := by
  induction fs with
  | nil => rfl
  | cons f fs ih => exact ih

/-- A run over the members meets no name too often, and fills what they assign. -/
theorem folded_fieldStep_iff {fs : List (KnownField α n)} (hapart : fs.Pairwise KnownField.Apart)
    (ms : List (String × Json)) (p p' : Partial α) :
    Folded (FieldStep fs) p ms p' ↔
      (∀ k ∈ fs.map (·.name), (ms.map (·.1)).count k ≤ allowance p.seen k) ∧
      p'.seen = namesSeen (fs.map (·.name)) ms ++ p.seen ∧
      Filled (fun k => ms.lookup k) fs p.record p'.record := by
  induction ms generalizing p with
  | nil =>
    cases p
    cases p'
    simp [Folded, namesSeen, filled_none]
  | cons m ms ih =>
    simp only [Folded, FieldStep]
    cases hfind : fs.find? (·.name == m.1) with
    | none =>
      have hother : ∀ f ∈ fs, f.name ≠ m.1 := fun f hf => by
        simpa using List.find?_eq_none.mp hfind f hf
      have hmem : m.1 ∉ fs.map (·.name) := by simpa using hother
      have hlook : ∀ f ∈ fs, ms.lookup f.name = (m :: ms).lookup f.name :=
        fun f hf => (lookup_cons_of_ne (hother f hf) ms).symm
      have hfilled : ∀ x y, Filled (fun k => ms.lookup k) fs x y ↔
          Filled (fun k => (m :: ms).lookup k) fs x y := filled_congr hlook
      rw [namesSeen_cons_of_not_mem hmem, ← hfilled]
      simp only [exists_eq_left, ih, List.map_cons]
      refine and_congr (forall₂_congr fun k hk => ?_) Iff.rfl
      rw [List.count_cons_of_ne]
      rintro rfl
      exact hmem hk
    | some f =>
      have hf := List.mem_of_find?_eq_some hfind
      have hname : f.name = m.1 := by simpa using List.find?_some hfind
      have hmem : m.1 ∈ fs.map (·.name) := hname ▸ List.mem_map_of_mem hf
      rw [List.map_cons, count_cons_le_allowance_iff hmem, namesSeen_cons_of_mem hmem,
        List.append_assoc, List.singleton_append]
      have hfound : (∀ k ∈ fs.map (·.name), (ms.map (·.1)).count k ≤ allowance (m.1 :: p.seen) k) →
          (Filled (fun k => (m :: ms).lookup k) fs p.record p'.record ↔
            ∃ g, f.Means m.2 g ∧ Filled (fun k => ms.lookup k) fs (g p.record) p'.record) := by
        intro hcount
        have hzero : (ms.map (·.1)).count m.1 = 0 := by
          simpa [allowance] using hcount m.1 hmem
        refine filled_of_found hapart hf ?_ ?_ ?_ p.record p'.record
        · rw [hname]
          exact lookup_eq_none_of_not_mem (List.count_eq_zero.mp hzero)
        · rw [hname]
          exact List.lookup_cons_self
        · rintro k hk
          rw [hname] at hk
          exact lookup_cons_of_ne hk ms
      constructor
      · rintro ⟨mid, ⟨hseen, g, hg, rfl⟩, hrest⟩
        obtain ⟨hcount, hp', hfilled⟩ := (ih _).mp hrest
        exact ⟨⟨hseen, hcount⟩, hp', (hfound hcount).mpr ⟨g, hg, hfilled⟩⟩
      · rintro ⟨⟨hseen, hcount⟩, hp', hfilled⟩
        obtain ⟨g, hg, hfilled⟩ := (hfound hcount).mp hfilled
        exact ⟨⟨m.1 :: p.seen, g p.record⟩, ⟨hseen, g, hg, rfl⟩, (ih _).mpr ⟨hcount, hp', hfilled⟩⟩

theorem isSome_lookup_iff {k : String} {ms : List (String × Json)} :
    (ms.lookup k).isSome = true ↔ k ∈ ms.map (·.1) := by
  simp only [List.lookup_isSome_iff, beq_iff_eq, List.mem_map]
  exact exists_congr fun m => and_congr_right fun _ => eq_comm

theorem mem_namesSeen_iff {names : List String} {ms : List (String × Json)} {k : String}
    (hk : k ∈ names) : k ∈ namesSeen names ms ↔ (ms.lookup k).isSome = true := by
  rw [isSome_lookup_iff, namesSeen, List.mem_reverse, List.mem_filter]
  simp [hk]

theorem find?_missing_eq_none_iff (s : Schema α n) (ms : List (String × Json)) :
    (s.fields.map (·.toRecordField)).find?
        (fun f => f.isRequired && !(namesSeen s.names ms).contains f.name) = none ↔
      Complete (fun k => ms.lookup k) s.fields := by
  rw [List.find?_eq_none, List.forall_mem_map]
  refine forall₂_congr fun f hf => ?_
  have hmem : f.name ∈ s.names := List.mem_map_of_mem hf
  rw [← mem_namesSeen_iff hmem]
  simp

/-- The record of an object's members, from behind the opening brace. -/
theorem recordOfMembers_object (s : Schema α n) (blank : α) {depth : Nat} (hdepth : n < depth)
    {l : Layout} {k : Nat} {ms : List (String × Json)} {b : UInt8} {x rest : Input}
    (htext : text l k (.object ms) ++ rest = b :: x) (p : α × Input) :
    recordOfMembers (s.fields.map (·.toRecordField)) blank depth x = .ok p ↔
      ∃ y, s.RecordOf blank (.object ms) y ∧ p = (y, byte '\x7d' :: rest) := by
  have hmissing := find?_missing_eq_none_iff s ms
  unfold recordOfMembers
  simp only [bind_eq_ok_iff, members_object (stepsAs_readField s.fields hdepth) htext,
    folded_fieldStep_iff s.apart, allowance_nil, List.append_nil]
  constructor
  · rintro ⟨_, ⟨p', ⟨hcount, hseen, hfilled⟩, rfl⟩, hp⟩
    rw [hseen] at hp
    split at hp
    · cases hp
    · next hfind =>
      obtain rfl := Except.ok.inj hp
      exact ⟨p'.record, ⟨_, .object hcount, hmissing.mp hfind, hfilled⟩, rfl⟩
  · rintro ⟨y, ⟨look, hassigns, hcomplete, hfilled⟩, rfl⟩
    cases hassigns with
    | object hcount =>
      refine ⟨(⟨namesSeen s.names ms, y⟩, _), ⟨_, ⟨hcount, rfl, hfilled⟩, rfl⟩, ?_⟩
      dsimp only
      rw [hmissing.mpr hcomplete]

/-! ## Reading items -/

/-- The values of the fields, in their order. -/
def lookItem (fs : List (KnownField α n)) (js : List Json) (k : String) : Option Json :=
  ((fs.map (·.name)).zip js).lookup k

theorem lookItem_nil (fs : List (KnownField α n)) (k : String) : lookItem fs [] k = none := by
  simp [lookItem]

theorem lookItem_cons_self (f : KnownField α n) (fs : List (KnownField α n)) (j : Json)
    (js : List Json) : lookItem (f :: fs) (j :: js) f.name = some j := by
  simp [lookItem]

theorem lookItem_cons_of_mem {f : KnownField α n} {fs : List (KnownField α n)}
    (hhead : ∀ f' ∈ fs, f.Apart f') (j : Json) (js : List Json) :
    ∀ f' ∈ fs, lookItem (f :: fs) (j :: js) f'.name = lookItem fs js f'.name :=
  fun f' hf' => lookup_cons_of_ne (hhead f' hf').1.symm _

/-- The record of an array's items is left where the array ends, or not at all. -/
theorem recordOfItems_of_atItems (title : String) {depth : Nat} (hdepth : n < depth) {l : Layout}
    {k : Nat} {rest : Input} {fs : List (KnownField α n)} (hapart : fs.Pairwise KnownField.Apart) :
    ∀ {js index input}, AtItems l k rest (index == 0) js input → ∀ x p,
      ((∃ mid, recordOfItems title depth (fs.map (·.toRecordField)) index x input =
          .ok (p.1, mid) ∧ leaveArray mid = (none, p.2)) ↔
        ∃ y, (js.length ≤ fs.length ∧ Built (lookItem fs js) fs x y) ∧ p = (y, rest)) := by
  induction fs with
  | nil =>
    intro js index input hat x p
    cases js with
    | nil =>
      constructor
      · rintro ⟨mid, hmid, hleave⟩
        obtain ⟨rfl, rfl⟩ := Prod.mk.inj (Except.ok.inj hmid)
        rw [hat.2] at hleave
        exact ⟨_, ⟨Nat.le_refl _, built_nil.mpr rfl⟩, by rw [(Prod.mk.inj hleave).2]⟩
      · rintro ⟨y, ⟨-, hbuilt⟩, rfl⟩
        obtain rfl := built_nil.mp hbuilt
        exact ⟨input, rfl, hat.2⟩
    | cons j js =>
      refine iff_of_false ?_ (by simp)
      rintro ⟨mid, hmid, hleave⟩
      obtain ⟨-, rfl⟩ := Prod.mk.inj (Except.ok.inj hmid)
      exact hat.1 (by rw [hleave])
  | cons f fs ih =>
    intro js index input hat x p
    obtain ⟨hhead, hapart⟩ := List.pairwise_cons.mp hapart
    cases js with
    | nil =>
      have hrest := ih hapart (atItems_close l k (index == 0) blank_nil rest) x p
      have hlook : ∀ f' ∈ fs, lookItem (f :: fs) [] f'.name = lookItem fs [] f'.name :=
        fun f' _ => by rw [lookItem_nil, lookItem_nil]
      rw [List.map_cons, recordOfItems, hat.1, ok_bind]
      simp only [built_cons_of_none (lookItem_nil (f :: fs) f.name), built_congr hlook]
      cases hrequired : f.isRequired with
      | true => simp
      | false => simpa [hrequired] using hrest
    | cons j js =>
      obtain ⟨-, tail, hnext, htail⟩ := hat
      have hindex : (index + 1 == 0) = false := by simp
      have hrest := fun x => ih hapart (hindex ▸ htail) x p
      have hlook := lookItem_cons_of_mem hhead j js
      rw [List.map_cons, recordOfItems, hnext, ok_bind]
      simp only [if_true, bind_eq_ok_iff, built_cons_of_some (lookItem_cons_self f fs j js),
        built_congr hlook, List.length_cons, Nat.add_le_add_iff_right]
      constructor
      · rintro ⟨mid, ⟨q, hq, hmid⟩, hleave⟩
        obtain ⟨g, hg, rfl⟩ := (f.reads depth hdepth blank_nil).mp hq
        obtain ⟨y, ⟨hlength, hbuilt⟩, hp⟩ := (hrest (g x)).mp ⟨mid, hmid, hleave⟩
        exact ⟨y, ⟨hlength, g, hg, hbuilt⟩, hp⟩
      · rintro ⟨y, ⟨hlength, g, hg, hbuilt⟩, hp⟩
        obtain ⟨mid, hmid, hleave⟩ := (hrest (g x)).mpr ⟨y, ⟨hlength, hbuilt⟩, hp⟩
        exact ⟨mid, ⟨(g, tail), (f.reads depth hdepth blank_nil).mpr ⟨g, hg, rfl⟩, hmid⟩, hleave⟩

theorem Schema.recordOf_array_iff (s : Schema α n) (blank : α) (js : List Json) (y : α) :
    s.RecordOf blank (.array js) y ↔
      js.length ≤ s.fields.length ∧ Built (lookItem s.fields js) s.fields blank y := by
  constructor
  · rintro ⟨look, hassigns, hbuilt⟩
    cases hassigns with
    | array hlength =>
      rw [Schema.names, List.length_map] at hlength
      exact ⟨hlength, hbuilt⟩
  · rintro ⟨hlength, hbuilt⟩
    refine ⟨_, .array ?_, hbuilt⟩
    rwa [Schema.names, List.length_map]

/-- The record of an array's items, from behind the opening bracket. -/
theorem recordOfItems_array (s : Schema α n) (title : String) (blank : α) {depth : Nat}
    (hdepth : n < depth) {l : Layout} {k : Nat} {js : List Json} {b : UInt8} {x rest : Input}
    (htext : text l k (.array js) ++ rest = b :: x) (p : α × Input) :
    enclosed leaveArray
        (recordOfItems title depth (s.fields.map (·.toRecordField)) 0 blank x) = .ok p ↔
      ∃ y, s.RecordOf blank (.array js) y ∧ p = (y, rest) := by
  simp only [enclosed_eq_ok_iff, s.recordOf_array_iff]
  exact recordOfItems_of_atItems title hdepth s.apart (atItems_array htext).1 blank p

/-! ## Reading records -/

theorem Schema.reads (s : Schema α n) (name : String) (blank : α) :
    Reads (Reader.record name (s.fields.map (·.toRecordField)) blank) (n + 1)
      (s.RecordOf blank) := by
  intro depth hdepth l k j ws rest p hws
  obtain ⟨b, x, htext, hopen⟩ := text_append_eq_cons l k j rest
  have hdeeper : n < depth - 1 := by omega
  rw [htext]
  simp only [Reader.record, nextValue_blank_cons hws hopen.isSpace, ok_bind]
  split
  · next hb =>
    obtain ⟨js, rfl⟩ := hopen.array_iff.mp hb
    rw [deeper, if_neg (by omega), recordOfItems_array s _ blank hdeeper htext]
  · next hb =>
    split
    · next hbrace =>
      obtain ⟨ms, rfl⟩ := hopen.object_iff.mp hbrace
      rw [deeper, if_neg (by omega), enclosed_iff_of_close (leaveObject_close rest)
        (recordOfMembers_object s blank hdeeper htext)]
    · next hbrace =>
      refine iff_of_false (error_ne_ok _ _) ?_
      rintro ⟨y, ⟨look, hassigns, -⟩, -⟩
      cases hassigns with
      | object => exact hbrace (hopen.object_iff.mpr ⟨_, rfl⟩)
      | array => exact hb (hopen.array_iff.mpr ⟨_, rfl⟩)

/-- A record whose fields are read as `P` says is read from the values that assign them. -/
theorem Schema.reads_of_built_iff (s : Schema α n) {blank : α}
    {P : (String → Option Json) → α → Prop}
    (h : ∀ {look x}, Built look s.fields blank x ↔ P look x) (name : String) :
    Reads (Reader.record name (s.fields.map (·.toRecordField)) blank) (n + 1)
      (fun j x => ∃ look, Assigns s.names j look ∧ P look x) := by
  have heq : (fun j x => ∃ look, Assigns s.names j look ∧ P look x) = s.RecordOf blank := by
    funext j x
    simp only [Schema.RecordOf, h]
  rw [heq]
  exact s.reads name blank

end AppLinks.Json
