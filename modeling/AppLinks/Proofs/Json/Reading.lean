import AppLinks.Proofs.Json.Leaf
import Mathlib.Data.List.Forall2

/-!
# What readers make of printed values

`Reads r n S` says that `r`, with `n` containers to nest, reads the text of `j` as `a` if and only
if `S j a`, behind any blanks and whatever follows, and that it reads that text and no more.

    Reads r n S → Reads (Reader.optional r) n (Nullable S)           (Reads.optional)
    Reads r n S → Reads (Reader.list r) (n + 1) (ListOf S)           (Reads.list)
    Reads r n S → Reads (Reader.map r) (n + 1) (MapOf S)             (Reads.map)
-/

namespace AppLinks.Json

open Text

variable {α β σ : Type}

/-! ## Outcomes -/

theorem error_ne_ok {ε : Type} (e : ε) (a : α) : Except.error e ≠ .ok a := by simp

theorem ok_bind {ε : Type} (a : α) (f : α → Except ε β) : (Except.ok a >>= f) = f a := rfl

theorem bind_eq_ok_iff {ε : Type} {x : Except ε α} {f : α → Except ε β} {b : β} :
    (x >>= f) = .ok b ↔ ∃ a, x = .ok a ∧ f a = .ok b := by
  cases x <;> simp [bind, Except.bind]

theorem map_eq_ok_iff {ε : Type} {x : Except ε α} {f : α → β} {b : β} :
    x.map f = .ok b ↔ ∃ a, x = .ok a ∧ b = f a := by
  cases x <;> simp [Except.map, eq_comm]

/-! ## Reading -/

/-- `read` makes of a printed value what `S` says. -/
def ReadsAs (read : Input → Except Fault (α × Input)) (S : Json → α → Prop) : Prop :=
  ∀ ⦃l k j ws rest p⦄, Blank ws →
    (read (ws ++ (text l k j ++ rest)) = .ok p ↔ ∃ a, S j a ∧ p = (a, rest))

def Reads (r : Reader α) (n : Nat) (S : Json → α → Prop) : Prop :=
  ∀ depth, n < depth → ReadsAs (r depth) S

theorem Reads.mono {r : Reader α} {n m : Nat} {S : Json → α → Prop} (h : Reads r n S)
    (hle : n ≤ m) : Reads r m S :=
  fun depth hdepth => h depth (Nat.lt_of_le_of_lt hle hdepth)

theorem Reads.mapped {r : Reader α} {n : Nat} {S : Json → α → Prop} (h : Reads r n S)
    (f : α → β) : Reads (fun depth input => (r depth input).map fun p => (f p.1, p.2)) n
      (fun j b => ∃ a, S j a ∧ b = f a) := by
  intro depth hdepth l k j ws rest p hws
  rw [map_eq_ok_iff]
  constructor
  · rintro ⟨q, hq, rfl⟩
    obtain ⟨a, ha, rfl⟩ := (h depth hdepth hws).mp hq
    exact ⟨f a, ⟨a, ha, rfl⟩, rfl⟩
  · rintro ⟨_, ⟨a, ha, rfl⟩, rfl⟩
    exact ⟨(a, rest), (h depth hdepth hws).mpr ⟨a, ha, rfl⟩, rfl⟩

theorem text_append_eq_cons (l : Layout) (k : Nat) (j : Json) (rest : Input) :
    ∃ b x, text l k j ++ rest = b :: x ∧ Opens j b := by
  obtain ⟨b, x, htext, hopen⟩ := opens_text l k j
  exact ⟨b, x ++ rest, by rw [htext, List.cons_append], hopen⟩

/-! ## Leaves -/

def IsBool (j : Json) (b : Bool) : Prop := j = .bool b

def IsString (j : Json) (s : String) : Prop := j = .string s

/-- A value that may be `null`. -/
def Nullable (S : Json → α → Prop) (j : Json) (o : Option α) : Prop :=
  (j = .null ∧ o = none) ∨ (j ≠ .null ∧ ∃ a, S j a ∧ o = some a)

theorem readWord_text {l : Layout} {k : Nat} {j : Json} {c : Char} {cs : List Char}
    (hword : text l k j = byte c :: cs.map byte) {b : UInt8} {x rest : Input}
    (htext : text l k j ++ rest = b :: x) : readWord cs x = .ok rest := by
  rw [hword, List.cons_append] at htext
  obtain ⟨-, rfl⟩ := List.cons.inj htext
  exact readWord_append cs rest

theorem reads_bool : Reads Reader.bool 0 IsBool := by
  intro depth _ l k j ws rest p hws
  obtain ⟨b, x, htext, hopen⟩ := text_append_eq_cons l k j rest
  rw [htext]
  simp only [Reader.bool, nextValue_blank_cons hws hopen.isSpace, bind, Except.bind]
  split
  · next hb =>
    obtain rfl := hopen.true_iff.mp hb
    rw [readWord_text rfl htext]
    simp [Except.map, IsBool, eq_comm]
  · next hb =>
    split
    · next hf =>
      obtain rfl := hopen.false_iff.mp hf
      rw [readWord_text rfl htext]
      simp [Except.map, IsBool, eq_comm]
    · next hf =>
      refine iff_of_false (error_ne_ok _ _) ?_
      rintro ⟨v, rfl, -⟩
      cases v with
      | true => exact hb (hopen.true_iff.mpr rfl)
      | false => exact hf (hopen.false_iff.mpr rfl)

theorem reads_string : Reads Reader.string 0 IsString := by
  intro depth _ l k j ws rest p hws
  obtain ⟨b, x, htext, hopen⟩ := text_append_eq_cons l k j rest
  rw [htext]
  simp only [Reader.string, nextValue_blank_cons hws hopen.isSpace, bind, Except.bind]
  split
  · next hb =>
    obtain ⟨s, rfl⟩ := hopen.string_iff.mp hb
    rw [text_string, List.cons_append, List.append_assoc, List.singleton_append] at htext
    obtain ⟨-, rfl⟩ := List.cons.inj htext
    rw [readString_stringText]
    simp [IsString, eq_comm]
  · next hb =>
    refine iff_of_false (error_ne_ok _ _) ?_
    rintro ⟨s, rfl, -⟩
    exact hb (hopen.string_iff.mpr ⟨s, rfl⟩)

theorem Reads.optional {r : Reader α} {n : Nat} {S : Json → α → Prop} (h : Reads r n S) :
    Reads (Reader.optional r) n (Nullable S) := by
  intro depth hdepth l k j ws rest p hws
  obtain ⟨b, x, htext, hopen⟩ := text_append_eq_cons l k j rest
  have hread : ∀ q, r depth (b :: x) = .ok q ↔ ∃ a, S j a ∧ q = (a, rest) := by
    intro q
    rw [← htext]
    exact h depth hdepth blank_nil
  rw [htext]
  simp only [Reader.optional, skipSpace_blank_cons hws hopen.isSpace]
  split
  · next hb =>
    obtain rfl := hopen.null_iff.mp hb
    rw [readWord_text rfl htext]
    simp [Except.map, Nullable, eq_comm]
  · next hb =>
    have hnull : j ≠ .null := fun hj => hb (hopen.null_iff.mpr hj)
    rw [map_eq_ok_iff]
    constructor
    · rintro ⟨q, hq, rfl⟩
      obtain ⟨a, ha, rfl⟩ := (hread q).mp hq
      exact ⟨some a, Or.inr ⟨hnull, a, ha, rfl⟩, rfl⟩
    · rintro ⟨o, ⟨hj, -⟩ | ⟨-, a, ha, rfl⟩, rfl⟩
      · exact absurd hj hnull
      · exact ⟨(a, rest), (hread _).mpr ⟨a, ha, rfl⟩, rfl⟩

/-! ## Leaving containers -/

theorem enclosed_eq_ok_iff {leave : Input → Option Cause × Input}
    {contents : Except Fault (α × Input)} {p : α × Input} :
    enclosed leave contents = .ok p ↔
      ∃ mid, contents = .ok (p.1, mid) ∧ leave mid = (none, p.2) := by
  unfold enclosed
  split
  · next a mid =>
    split
    · next rest hleave =>
      constructor
      · intro h
        obtain rfl := Except.ok.inj h
        exact ⟨mid, rfl, hleave⟩
      · rintro ⟨mid', hcontents, hleave'⟩
        obtain ⟨rfl, rfl⟩ := Prod.mk.inj (Except.ok.inj hcontents)
        rw [hleave] at hleave'
        rw [(Prod.mk.inj hleave').2]
    · next cause rest hleave =>
      refine iff_of_false (error_ne_ok _ _) ?_
      rintro ⟨mid', hcontents, hleave'⟩
      obtain ⟨-, rfl⟩ := Prod.mk.inj (Except.ok.inj hcontents)
      rw [hleave] at hleave'
      cases hleave'
  · refine iff_of_false ?_ ?_
    · split <;> exact error_ne_ok _ _
    · rintro ⟨mid, hcontents, -⟩
      cases hcontents

theorem leaveArray_close (rest : Input) : leaveArray (byte ']' :: rest) = (none, rest) := by
  unfold leaveArray
  rw [skipSpace_cons rfl]
  rfl

theorem leaveObject_close (rest : Input) : leaveObject (byte '\x7d' :: rest) = (none, rest) := by
  unfold leaveObject
  rw [skipSpace_cons rfl]
  rfl

/-- Contents that end where their container does. -/
theorem enclosed_iff_of_close {leave : Input → Option Cause × Input} {close rest : Input}
    {contents : Except Fault (α × Input)} {P : α → Prop} (hleave : leave close = (none, rest))
    (h : ∀ q, contents = .ok q ↔ ∃ a, P a ∧ q = (a, close)) (p : α × Input) :
    enclosed leave contents = .ok p ↔ ∃ a, P a ∧ p = (a, rest) := by
  rw [enclosed_eq_ok_iff]
  constructor
  · rintro ⟨mid, hcontents, hrest⟩
    obtain ⟨a, ha, hq⟩ := (h _).mp hcontents
    obtain ⟨rfl, rfl⟩ := Prod.mk.inj hq
    rw [hleave] at hrest
    exact ⟨p.1, ha, by rw [(Prod.mk.inj hrest).2]⟩
  · rintro ⟨a, ha, rfl⟩
    exact ⟨close, (h _).mpr ⟨a, ha, rfl⟩, hleave⟩

/-! ## Items -/

/-- An array of what `S` says, item by item. -/
def ListOf (S : Json → α → Prop) (j : Json) (as : List α) : Prop :=
  ∃ js, j = .array js ∧ List.Forall₂ S js as

theorem nextItem_close (first : Bool) {ws : Input} (hws : Blank ws) (rest : Input) :
    nextItem first (ws ++ byte ']' :: rest) = .ok (false, byte ']' :: rest) := by
  unfold nextItem
  rw [skipSpace_blank_cons hws rfl]
  rfl

theorem nextItem_first {ws : Input} (hws : Blank ws) (l : Layout) (k : Nat) (j : Json)
    (rest : Input) :
    nextItem true (ws ++ (text l k j ++ rest)) = .ok (true, text l k j ++ rest) := by
  obtain ⟨b, x, htext, hopen⟩ := text_append_eq_cons l k j rest
  unfold nextItem
  rw [htext, skipSpace_blank_cons hws hopen.isSpace]
  dsimp only
  rw [if_neg hopen.ne_close, if_pos rfl]

theorem nextItem_comma {ws : Input} (hws : Blank ws) (l : Layout) (k : Nat) (j : Json)
    (rest : Input) :
    nextItem false (byte ',' :: (ws ++ (text l k j ++ rest))) = .ok (true, text l k j ++ rest) := by
  obtain ⟨b, x, htext, hopen⟩ := text_append_eq_cons l k j rest
  unfold nextItem
  rw [htext, skipSpace_cons rfl]
  dsimp only
  rw [if_neg (by decide), if_neg Bool.false_ne_true, if_pos rfl,
    skipSpace_blank_cons hws hopen.isSpace]
  dsimp only
  rw [if_neg hopen.ne_close]

theorem leaveArray_comma (x : Input) : (leaveArray (byte ',' :: x)).1 ≠ none := by
  unfold leaveArray
  rw [skipSpace_cons rfl]
  dsimp only
  rw [if_neg (by decide), if_pos rfl]
  split <;> simp

theorem leaveArray_text {ws : Input} (hws : Blank ws) (l : Layout) (k : Nat) (j : Json)
    (rest : Input) : (leaveArray (ws ++ (text l k j ++ rest))).1 ≠ none := by
  obtain ⟨b, x, htext, hopen⟩ := text_append_eq_cons l k j rest
  unfold leaveArray
  rw [htext, skipSpace_blank_cons hws hopen.isSpace]
  dsimp only
  rw [if_neg hopen.ne_close]
  split
  · split <;> simp
  · simp

/-- The input stands before the items `js`, the end of their array and `rest`. An array cannot be
left before its last item. -/
def AtItems (l : Layout) (k : Nat) (rest : Input) (first : Bool) : List Json → Input → Prop
  | [], input =>
    nextItem first input = .ok (false, byte ']' :: rest) ∧ leaveArray input = (none, rest)
  | j :: js, input => (leaveArray input).1 ≠ none ∧
    ∃ tail, nextItem first input = .ok (true, text l k j ++ tail) ∧ AtItems l k rest false js tail

theorem atItems_close (l : Layout) (k : Nat) (first : Bool) {ws : Input} (hws : Blank ws)
    (rest : Input) : AtItems l k rest first [] (ws ++ byte ']' :: rest) := by
  refine ⟨nextItem_close first hws rest, ?_⟩
  unfold leaveArray
  rw [skipSpace_blank_cons hws rfl]
  rfl

theorem atItems_itemsText (l : Layout) (k k' : Nat) (rest : Input) (js : List Json) :
    AtItems l k rest false js (itemsText l k js ++ (lineText l k' ++ byte ']' :: rest)) := by
  induction js with
  | nil => exact atItems_close l k false (blank_lineText l k') rest
  | cons j js ih =>
    rw [itemsText_cons, List.cons_append, List.append_assoc, List.append_assoc]
    exact ⟨leaveArray_comma _, _, nextItem_comma (blank_lineText l k) l k j _, ih⟩

/-- Behind the opening bracket. -/
theorem atItems_array {l : Layout} {k : Nat} {js : List Json} {b : UInt8} {x rest : Input}
    (htext : text l k (.array js) ++ rest = b :: x) :
    AtItems l (k + 1) rest true js x ∧ js.length ≤ x.length := by
  cases js with
  | nil =>
    simp only [text_array_nil, List.cons_append, List.nil_append, List.cons.injEq] at htext
    obtain ⟨-, rfl⟩ := htext
    exact ⟨atItems_close l (k + 1) true blank_nil rest, Nat.zero_le _⟩
  | cons j js =>
    simp only [text_array_cons, List.cons_append, List.append_assoc, List.nil_append,
      List.cons.injEq] at htext
    obtain ⟨-, rfl⟩ := htext
    have hline := blank_lineText l (k + 1)
    refine ⟨⟨leaveArray_text hline l (k + 1) j _, _, nextItem_first hline l (k + 1) j _,
      atItems_itemsText l (k + 1) k rest js⟩, ?_⟩
    have hlength := length_le_itemsText l (k + 1) js
    simp only [List.length_append, List.length_cons]
    omega

theorem items_of_atItems {item : Input → Except Fault (α × Input)} {S : Json → α → Prop}
    (h : ReadsAs item S) {l : Layout} {k : Nat} {rest : Input} {js : List Json} :
    ∀ {fuel first input}, AtItems l k rest first js input → js.length < fuel → ∀ p,
      (items item fuel first input = .ok p ↔
        ∃ as, List.Forall₂ S js as ∧ p = (as, byte ']' :: rest)) := by
  induction js with
  | nil =>
    intro fuel first input hat hfuel p
    obtain ⟨fuel, rfl⟩ := Nat.exists_eq_add_one.mpr hfuel
    rw [items, hat.1, ok_bind]
    simp [List.forall₂_nil_left_iff, eq_comm]
  | cons j js ih =>
    intro fuel first input hat hfuel p
    obtain ⟨fuel, rfl⟩ := Nat.exists_eq_add_one.mpr (Nat.zero_lt_of_lt hfuel)
    obtain ⟨-, tail, hnext, htail⟩ := hat
    rw [items, hnext, ok_bind]
    have hrest := ih htail (Nat.lt_of_succ_lt_succ hfuel)
    simp only [if_true, bind_eq_ok_iff, List.forall₂_cons_left_iff]
    constructor
    · rintro ⟨q, hq, q', hq', hp⟩
      obtain ⟨a, ha, rfl⟩ := (h blank_nil).mp hq
      obtain ⟨as, has, rfl⟩ := (hrest q').mp hq'
      exact ⟨a :: as, ⟨a, as, ha, has, rfl⟩, (Except.ok.inj hp).symm⟩
    · rintro ⟨as, ⟨a, as', ha, has, rfl⟩, rfl⟩
      exact ⟨(a, tail), (h blank_nil).mpr ⟨a, ha, rfl⟩, _, (hrest _).mpr ⟨as', has, rfl⟩, rfl⟩

theorem items_array {item : Input → Except Fault (α × Input)} {S : Json → α → Prop}
    (h : ReadsAs item S) {l : Layout} {k : Nat} {js : List Json} {b : UInt8} {x rest : Input}
    (htext : text l k (.array js) ++ rest = b :: x) (p : List α × Input) :
    items item (x.length + 1) true x = .ok p ↔
      ∃ as, List.Forall₂ S js as ∧ p = (as, byte ']' :: rest) :=
  items_of_atItems h (atItems_array htext).1 (Nat.lt_succ_of_le (atItems_array htext).2) p

/-- An array, as deep as `depth` allows. -/
theorem Reads.list {r : Reader α} {n : Nat} {S : Json → α → Prop} (h : Reads r n S) :
    Reads (Reader.list r) (n + 1) (ListOf S) := by
  intro depth hdepth l k j ws rest p hws
  obtain ⟨b, x, htext, hopen⟩ := text_append_eq_cons l k j rest
  rw [htext]
  simp only [Reader.list, nextValue_blank_cons hws hopen.isSpace, ok_bind]
  split
  · next hb =>
    obtain ⟨js, rfl⟩ := hopen.array_iff.mp hb
    have hitem := h (depth - 1) (by omega)
    rw [deeper, if_neg (by omega),
      enclosed_iff_of_close (leaveArray_close rest) (items_array hitem htext)]
    simp [ListOf]
  · next hb =>
    refine iff_of_false (error_ne_ok _ _) ?_
    rintro ⟨as, ⟨js, rfl, -⟩, -⟩
    exact hb (hopen.array_iff.mpr ⟨js, rfl⟩)

/-! ## Members -/

/-- The steps over the members, one after another. -/
def Folded (T : σ → String → Json → σ → Prop) : σ → List (String × Json) → σ → Prop
  | st, [], st' => st' = st
  | st, m :: ms, st' => ∃ mid, T st m.1 m.2 mid ∧ Folded T mid ms st'

/-- `step` makes of a state and a member, from behind its name, what `T` says. -/
def StepsAs (step : σ → String → Input → Except Fault (σ × Input))
    (T : σ → String → Json → σ → Prop) : Prop :=
  ∀ ⦃st n l k j rest p⦄, Delimited rest →
    (step st n (colonText l ++ (text l k j ++ rest)) = .ok p ↔
      ∃ st', T st n j st' ∧ p = (st', rest))

theorem nextName_close (first : Bool) {ws : Input} (hws : Blank ws) (rest : Input) :
    nextName first (ws ++ byte '\x7d' :: rest) = .ok (none, byte '\x7d' :: rest) := by
  unfold nextName
  rw [skipSpace_blank_cons hws rfl]
  rfl

theorem nextName_first {ws : Input} (hws : Blank ws) (n : String) (rest : Input) :
    nextName true (ws ++ byte '"' :: (stringText n ++ byte '"' :: rest)) = .ok (some n, rest) := by
  unfold nextName
  rw [skipSpace_blank_cons hws rfl]
  dsimp only
  rw [if_neg (by decide), if_pos rfl, if_pos rfl, readString_stringText]
  rfl

theorem nextName_comma {ws : Input} (hws : Blank ws) (n : String) (rest : Input) :
    nextName false (byte ',' :: (ws ++ byte '"' :: (stringText n ++ byte '"' :: rest))) =
      .ok (some n, rest) := by
  unfold nextName
  rw [skipSpace_cons rfl]
  dsimp only
  rw [if_neg (by decide), if_neg Bool.false_ne_true, if_pos rfl, skipSpace_blank_cons hws rfl]
  dsimp only
  rw [if_pos rfl, readString_stringText]
  rfl

theorem readColon_colonText (l : Layout) (x : Input) :
    ∃ ws, Blank ws ∧ readColon (colonText l ++ x) = .ok (ws ++ x) := by
  obtain ⟨ws, hws, hcolon⟩ := colonText_eq l
  refine ⟨ws, hws, ?_⟩
  unfold readColon
  rw [hcolon, List.cons_append, skipSpace_cons rfl]
  rfl

/-- What follows a member's value ends it. -/
theorem delimited_membersText (l : Layout) (k k' : Nat) (ms : List (String × Json))
    (rest : Input) :
    Delimited (membersText l k ms ++ (lineText l k' ++ byte '\x7d' :: rest)) := by
  cases ms with
  | nil =>
    exact (delimited_cons rfl (by decide) (by decide) (by decide) rest).blank_append
      (blank_lineText l k')
  | cons m ms =>
    rw [membersText_cons]
    exact delimited_cons rfl (by decide) (by decide) (by decide) _

theorem members_close (step : σ → String → Input → Except Fault (σ × Input)) (fuel : Nat)
    (first : Bool) (st : σ) {ws : Input} (hws : Blank ws) (rest : Input) :
    members step (fuel + 1) first st (ws ++ byte '\x7d' :: rest) =
      .ok (st, byte '\x7d' :: rest) := by
  rw [members, nextName_close first hws]
  rfl

/-- A member, then those behind it. -/
theorem members_cons {step : σ → String → Input → Except Fault (σ × Input)}
    {T : σ → String → Json → σ → Prop} (h : StepsAs step T) {fuel : Nat} {first : Bool} {st : σ}
    {input rest tail : Input} {l : Layout} {k : Nat} {n : String} {j : Json}
    {ms : List (String × Json)} (hdelimited : Delimited rest)
    (hnext : nextName first input = .ok (some n, colonText l ++ (text l k j ++ rest)))
    (hrest : ∀ st q, members step fuel false st rest = .ok q ↔
      ∃ st', Folded T st ms st' ∧ q = (st', tail)) (p : σ × Input) :
    members step (fuel + 1) first st input = .ok p ↔
      ∃ st', Folded T st ((n, j) :: ms) st' ∧ p = (st', tail) := by
  rw [members, hnext, ok_bind]
  simp only [bind_eq_ok_iff, h hdelimited]
  constructor
  · rintro ⟨q, ⟨mid, hmid, rfl⟩, hp⟩
    obtain ⟨st', hst', rfl⟩ := (hrest mid p).mp hp
    exact ⟨st', ⟨mid, hmid, hst'⟩, rfl⟩
  · rintro ⟨st', ⟨mid, hmid, hst'⟩, rfl⟩
    exact ⟨(mid, rest), ⟨mid, hmid, rfl⟩, (hrest mid _).mpr ⟨st', hst', rfl⟩⟩

theorem members_membersText {step : σ → String → Input → Except Fault (σ × Input)}
    {T : σ → String → Json → σ → Prop} (h : StepsAs step T) (l : Layout) (k k' : Nat)
    (rest : Input) (ms : List (String × Json)) :
    ∀ fuel st p, ms.length < fuel →
      (members step fuel false st
          (membersText l k ms ++ (lineText l k' ++ byte '\x7d' :: rest)) = .ok p ↔
        ∃ st', Folded T st ms st' ∧ p = (st', byte '\x7d' :: rest)) := by
  induction ms with
  | nil =>
    intro fuel st p hfuel
    obtain ⟨fuel, rfl⟩ := Nat.exists_eq_add_one.mpr hfuel
    have hclose := members_close step fuel false st (blank_lineText l k') rest
    have hnil : membersText l k [] = [] := rfl
    rw [hnil, List.nil_append, hclose]
    simp [Folded, eq_comm]
  | cons m ms ih =>
    intro fuel st p hfuel
    obtain ⟨n, j⟩ := m
    obtain ⟨fuel, rfl⟩ := Nat.exists_eq_add_one.mpr (Nat.zero_lt_of_lt hfuel)
    simp only [membersText_cons, List.cons_append, List.append_assoc]
    exact members_cons h (delimited_membersText l k k' ms rest)
      (nextName_comma (blank_lineText l k) n _)
      (fun st q => ih fuel st q (Nat.lt_of_succ_lt_succ hfuel)) p

/-- Behind the opening brace, up to the closing one. -/
theorem members_object {step : σ → String → Input → Except Fault (σ × Input)}
    {T : σ → String → Json → σ → Prop} (h : StepsAs step T) {l : Layout} {k : Nat}
    {ms : List (String × Json)} {b : UInt8} {x rest : Input}
    (htext : text l k (.object ms) ++ rest = b :: x) (st : σ) (p : σ × Input) :
    members step (x.length + 1) true st x = .ok p ↔
      ∃ st', Folded T st ms st' ∧ p = (st', byte '\x7d' :: rest) := by
  cases ms with
  | nil =>
    simp only [text_object_nil, List.cons_append, List.nil_append, List.cons.injEq] at htext
    obtain ⟨-, rfl⟩ := htext
    have hclose := members_close step (byte '\x7d' :: rest).length true st blank_nil rest
    rw [List.nil_append] at hclose
    rw [hclose]
    simp [Folded, eq_comm]
  | cons m ms =>
    obtain ⟨n, j⟩ := m
    simp only [text_object_cons, List.cons_append, List.append_assoc, List.nil_append,
      List.cons.injEq] at htext
    obtain ⟨-, rfl⟩ := htext
    refine members_cons h (delimited_membersText l (k + 1) k ms rest)
      (nextName_first (blank_lineText l (k + 1)) n _)
      (fun st q => members_membersText h l (k + 1) k rest ms _ st q ?_) p
    have hlength := length_le_membersText l (k + 1) ms
    simp only [List.length_append, List.length_cons]
    omega

/-! ## Maps -/

/-- An object of what `S` says, member by member, under any names. -/
def MapOf (S : Json → α → Prop) (j : Json) (es : List (String × α)) : Prop :=
  ∃ ms, j = .object ms ∧ List.Forall₂ (fun m e => m.1 = e.1 ∧ S m.2 e.2) ms es

theorem readColon_bind_eq_ok_iff {f : Input → Except Fault β} {S : Prop} {l : Layout} {x : Input}
    {b : β} (h : ∀ ws, Blank ws → (f (ws ++ x) = .ok b ↔ S)) :
    (readColon (colonText l ++ x) >>= f) = .ok b ↔ S := by
  obtain ⟨ws, hws, hcolon⟩ := readColon_colonText l x
  rw [hcolon, ok_bind]
  exact h ws hws

theorem folded_collect_iff {S : Json → α → Prop} (ms : List (String × Json))
    (acc acc' : List (String × α)) :
    Folded (fun acc n j acc' => ∃ a, S j a ∧ acc' = (n, a) :: acc) acc ms acc' ↔
      ∃ es, List.Forall₂ (fun m e => m.1 = e.1 ∧ S m.2 e.2) ms es ∧ acc' = es.reverse ++ acc := by
  induction ms generalizing acc with
  | nil => simp [Folded, List.forall₂_nil_left_iff]
  | cons m ms ih =>
    simp only [Folded, ih, List.forall₂_cons_left_iff]
    constructor
    · rintro ⟨mid, ⟨a, ha, rfl⟩, es, hes, rfl⟩
      exact ⟨(m.1, a) :: es, ⟨(m.1, a), es, ⟨rfl, ha⟩, hes, rfl⟩, by simp⟩
    · rintro ⟨es, ⟨e, es', ⟨hname, he⟩, hes, rfl⟩, rfl⟩
      exact ⟨_, ⟨e.2, he, rfl⟩, es', hes, by simp [hname]⟩

/-- Keeps a member and its name, last first. -/
def collect (value : Input → Except Fault (α × Input)) (acc : List (String × α)) (name : String)
    (input : Input) : Except Fault (List (String × α) × Input) := do
  let input ← readColon input
  let (x, input) ← value input
  .ok ((name, x) :: acc, input)

theorem readMembers_eq_ok_iff {value : Input → Except Fault (α × Input)} {x : Input}
    {p : List (String × α) × Input} : readMembers value x = .ok p ↔
      members (collect value) (x.length + 1) true [] x = .ok (p.1.reverse, p.2) := by
  have hunfold : readMembers value x =
      (members (collect value) (x.length + 1) true [] x >>= fun q => .ok (q.1.reverse, q.2)) := rfl
  rw [hunfold, bind_eq_ok_iff]
  constructor
  · rintro ⟨q, hq, hp⟩
    obtain rfl := Except.ok.inj hp
    rw [hq, List.reverse_reverse]
  · intro h
    exact ⟨_, h, by rw [List.reverse_reverse]⟩

theorem stepsAs_collect {value : Input → Except Fault (α × Input)} {S : Json → α → Prop}
    (h : ReadsAs value S) :
    StepsAs (collect value) (fun acc n j acc' => ∃ a, S j a ∧ acc' = (n, a) :: acc) := by
  intro acc n l k j rest p _
  refine readColon_bind_eq_ok_iff fun ws hws => ?_
  simp only [bind_eq_ok_iff, h hws]
  constructor
  · rintro ⟨_, ⟨a, ha, rfl⟩, hp⟩
    exact ⟨_, ⟨a, ha, rfl⟩, (Except.ok.inj hp).symm⟩
  · rintro ⟨_, ⟨a, ha, rfl⟩, rfl⟩
    exact ⟨_, ⟨a, ha, rfl⟩, rfl⟩

theorem readMembers_object {value : Input → Except Fault (α × Input)} {S : Json → α → Prop}
    (h : ReadsAs value S) {l : Layout} {k : Nat} {ms : List (String × Json)} {b : UInt8}
    {x rest : Input} (htext : text l k (.object ms) ++ rest = b :: x)
    (p : List (String × α) × Input) :
    readMembers value x = .ok p ↔
      ∃ es, List.Forall₂ (fun m e => m.1 = e.1 ∧ S m.2 e.2) ms es ∧
        p = (es, byte '\x7d' :: rest) := by
  rw [readMembers_eq_ok_iff, members_object (stepsAs_collect h) htext]
  simp only [folded_collect_iff, List.append_nil]
  constructor
  · rintro ⟨_, ⟨es, hes, rfl⟩, hp⟩
    obtain ⟨hreverse, hrest⟩ := Prod.mk.inj hp
    exact ⟨es, hes, Prod.ext (List.reverse_inj.mp hreverse) hrest⟩
  · rintro ⟨es, hes, rfl⟩
    exact ⟨_, ⟨es, hes, rfl⟩, rfl⟩

/-- An object of any names. -/
theorem Reads.map {r : Reader α} {n : Nat} {S : Json → α → Prop} (h : Reads r n S) :
    Reads (Reader.map r) (n + 1) (MapOf S) := by
  intro depth hdepth l k j ws rest p hws
  obtain ⟨b, x, htext, hopen⟩ := text_append_eq_cons l k j rest
  rw [htext]
  simp only [Reader.map, nextValue_blank_cons hws hopen.isSpace, ok_bind]
  split
  · next hb =>
    obtain ⟨ms, rfl⟩ := hopen.object_iff.mp hb
    have hvalue := h (depth - 1) (by omega)
    rw [deeper, if_neg (by omega),
      enclosed_iff_of_close (leaveObject_close rest) (readMembers_object hvalue htext)]
    simp [MapOf]
  · next hb =>
    refine iff_of_false (error_ne_ok _ _) ?_
    rintro ⟨as, ⟨ms, rfl, -⟩, -⟩
    exact hb (hopen.object_iff.mpr ⟨ms, rfl⟩)

end AppLinks.Json
