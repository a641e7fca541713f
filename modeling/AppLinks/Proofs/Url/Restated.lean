import Mathlib.Data.List.TakeWhile
import AppLinks.Proofs.Matching.Satisfaction
import AppLinks.Proofs.Text.Percent

/-!
# URLs that say the same

`Alike u v`: decoded, both have one path but for its root, one fragment, and for every name one
first item of the query.  `Restated` lists the ways in which a URL may be put differently: another
scheme or authority, other escapes, empty pieces in the query, other orders of items with other
names, items that repeat a name.  Each of them keeps what is alike.

    parseChars (['&'].intercalate segments) = segments.flatMap parseChars    (parseChars_intercalate)
    Restated u v → Alike u v                                                 (alike_of_restated)
-/

namespace AppLinks

open Text.Percent (Spells)

/-! ## Queries in pieces -/

namespace QueryItem

theorem parseChars_nil : parseChars [] = [] := rfl

theorem parseChars_append (a b : List Char) :
    parseChars (a ++ '&' :: b) = parseChars a ++ parseChars b := by
  unfold parseChars
  rw [Text.split_append rfl, List.filter_append, List.map_append]

/-- A query holds the items of its segments, one segment after the other. -/
theorem parseChars_intercalate (segments : List (List Char)) :
    parseChars (['&'].intercalate segments) = segments.flatMap parseChars := by
  induction segments with
  | nil => rfl
  | cons a segments ih =>
    cases segments with
    | nil =>
      rw [List.intercalate_singleton]
      simp
    | cons b segments =>
      rw [List.intercalate_cons_cons, List.append_assoc, List.singleton_append,
        parseChars_append, ih]
      rfl

/-- A segment that is one piece holds one item, or none if it is empty. -/
theorem parseChars_of_not_mem {cs : List Char} (h : '&' ∉ cs) :
    parseChars cs = if cs = [] then [] else [ofPiece cs] := by
  unfold parseChars
  rw [Text.split_of_not_mem h]
  cases cs with
  | nil => rfl
  | cons c cs => rfl

/-- `segment` writes an item: its name spells the bytes `n`, its value, if it has one, the bytes
`v`. -/
inductive Writes : List Char → List UInt8 → Option (List UInt8) → Prop
  | bare {name : List Char} {n : List UInt8} : '&' ∉ name → '=' ∉ name → Spells name n →
      Writes name n none
  | valued {name value : List Char} {n v : List UInt8} : '&' ∉ name → '=' ∉ name → '&' ∉ value →
      Spells name n → Spells value v → Writes (name ++ '=' :: value) n (some v)

theorem bne_of_not_mem {a : Char} {cs : List Char} (h : a ∉ cs) : ∀ c ∈ cs, (c != a) = true := by
  intro c hc
  rw [bne_iff_ne]
  rintro rfl
  exact h hc

theorem ofPiece_bare {name : List Char} (h : '=' ∉ name) :
    ofPiece name = ⟨decodeText name, none⟩ := by
  have hall := bne_of_not_mem h
  unfold ofPiece
  rw [List.takeWhile_eq_self_iff.mpr hall, List.dropWhile_eq_nil_iff.mpr hall]

theorem ofPiece_valued {name : List Char} (h : '=' ∉ name) (value : List Char) :
    ofPiece (name ++ '=' :: value) = ⟨decodeText name, some (decodeText value)⟩ := by
  have hall := bne_of_not_mem h
  unfold ofPiece
  rw [List.takeWhile_append_of_pos hall, List.dropWhile_append_of_pos hall]
  simp

theorem decodeText_of_spells {cs : List Char} {bs : List UInt8} (h : Spells cs bs) :
    decodeText cs = String.ofList (Text.Utf8.decodeLossy bs) := by
  unfold decodeText
  rw [Text.Percent.decodeChars_of_spells h]

/-- A segment is read as the item that it writes; one of no bytes is empty and holds none. -/
theorem parseChars_of_writes {segment : List Char} {n : List UInt8} {v : Option (List UInt8)}
    (h : Writes segment n v) :
    parseChars segment =
      if n = [] ∧ v = none then []
      else [⟨String.ofList (Text.Utf8.decodeLossy n),
        v.map fun bs => String.ofList (Text.Utf8.decodeLossy bs)⟩] := by
  cases h with
  | bare hamp heq hs =>
    rw [parseChars_of_not_mem hamp, ofPiece_bare heq, decodeText_of_spells hs]
    simp [hs.eq_nil_iff]
  | @valued name value n v hamp heq hvalue hs hv =>
    have hsegment : '&' ∉ name ++ '=' :: value := by simp [hamp, hvalue]
    rw [parseChars_of_not_mem hsegment, if_neg (by simp), ofPiece_valued heq,
      decodeText_of_spells hs, decodeText_of_spells hv, if_neg (by simp)]
    rfl

/-- The item that is written does not tell how. -/
theorem parseChars_eq_of_writes {segment segment' : List Char} {n : List UInt8}
    {v : Option (List UInt8)} (h : Writes segment n v) (h' : Writes segment' n v) :
    parseChars segment = parseChars segment' := by
  rw [parseChars_of_writes h, parseChars_of_writes h']

end QueryItem

/-! ## Alike -/

namespace Url

/-- What is compared of two URLs is the same. -/
structure Alike (u v : Url) : Prop where
  path : relative (Text.Percent.decode u.path) = relative (Text.Percent.decode v.path)
  fragment : (u.fragment.map Text.Percent.decode).getD "" =
    (v.fragment.map Text.Percent.decode).getD ""
  item : ∀ i : QueryItem, i.IsFirst u.items ↔ i.IsFirst v.items

/-- First items are found by their names. -/
theorem isFirst_iff_find? (i : QueryItem) (items : List QueryItem) :
    i.IsFirst items ↔ items.find? (·.name == i.name) = some i := by
  rw [List.find?_eq_some_iff_append]
  unfold QueryItem.IsFirst
  simp

theorem find?_eq_of_isFirst_iff {items items' : List QueryItem}
    (h : ∀ i : QueryItem, i.IsFirst items ↔ i.IsFirst items') (n : String) :
    items.find? (·.name == n) = items'.find? (·.name == n) := by
  apply Option.ext
  intro i
  have hname : ∀ is : List QueryItem, is.find? (·.name == n) = some i → i.name = n := by
    intro is hi
    simpa using List.find?_some hi
  constructor
  · intro hi
    obtain rfl := hname items hi
    exact (isFirst_iff_find? i items').mp ((h i).mp ((isFirst_iff_find? i items).mpr hi))
  · intro hi
    obtain rfl := hname items' hi
    exact (isFirst_iff_find? i items).mp ((h i).mpr ((isFirst_iff_find? i items').mpr hi))

theorem isFirst_iff_of_find?_eq {items items' : List QueryItem}
    (h : ∀ n, items.find? (·.name == n) = items'.find? (·.name == n)) (i : QueryItem) :
    i.IsFirst items ↔ i.IsFirst items' := by
  rw [isFirst_iff_find?, isFirst_iff_find?, h i.name]

theorem Alike.refl (u : Url) : u.Alike u :=
  ⟨rfl, rfl, fun _ => Iff.rfl⟩

theorem Alike.symm {u v : Url} (h : u.Alike v) : v.Alike u :=
  ⟨h.path.symm, h.fragment.symm, fun i => (h.item i).symm⟩

theorem Alike.trans {u v w : Url} (h : u.Alike v) (h' : v.Alike w) : u.Alike w :=
  ⟨h.path.trans h'.path, h.fragment.trans h'.fragment, fun i => (h.item i).trans (h'.item i)⟩

/-! ## Other ways to put a URL -/

/-- The URL with the query that consists of the segments. -/
def withSegments (u : Url) (segments : List (List Char)) : Url :=
  { u with query := some (String.ofList (['&'].intercalate segments)) }

/-- The second URL puts the first in another way. -/
inductive Restated : Url → Url → Prop
  | refl (u : Url) : Restated u u
  | symm {u v : Url} : Restated u v → Restated v u
  | trans {u v w : Url} : Restated u v → Restated v w → Restated u w
  /-- User, password, host and port are parts of the authority. -/
  | origin (u : Url) (scheme : String) (authority : Option Authority) :
      Restated u { u with scheme := scheme, authority := authority }
  | path (u : Url) {cs cs' : List Char} {bs : List UInt8} : Spells cs bs → Spells cs' bs →
      Restated { u with path := String.ofList cs } { u with path := String.ofList cs' }
  | fragment (u : Url) {cs cs' : List Char} {bs : List UInt8} : Spells cs bs → Spells cs' bs →
      Restated { u with fragment := some (String.ofList cs) }
        { u with fragment := some (String.ofList cs') }
  | noFragment (u : Url) : Restated { u with fragment := some "" } { u with fragment := none }
  | noQuery (u : Url) : Restated { u with query := some "" } { u with query := none }
  | item (u : Url) (before after : List (List Char)) {segment segment' : List Char}
      {n : List UInt8} {v : Option (List UInt8)} : QueryItem.Writes segment n v →
      QueryItem.Writes segment' n v →
      Restated (u.withSegments (before ++ segment :: after))
        (u.withSegments (before ++ segment' :: after))
  | emptySegment (u : Url) (before after : List (List Char)) :
      Restated (u.withSegments (before ++ [] :: after)) (u.withSegments (before ++ after))
  /-- Neighbours change places when they have no name in common. -/
  | order (u : Url) (before after : List (List Char)) {s t : List Char} :
      (∀ i ∈ QueryItem.parseChars s, ∀ j ∈ QueryItem.parseChars t, i.name ≠ j.name) →
      Restated (u.withSegments (before ++ s :: t :: after))
        (u.withSegments (before ++ t :: s :: after))
  /-- A name that came before makes no difference when it comes again. -/
  | again (u : Url) (before after : List (List Char)) {s : List Char} :
      (∀ i ∈ QueryItem.parseChars s, ∃ j ∈ before.flatMap QueryItem.parseChars,
        j.name = i.name) →
      Restated (u.withSegments (before ++ s :: after)) (u.withSegments (before ++ after))

theorem items_withSegments (u : Url) (segments : List (List Char)) :
    (u.withSegments segments).items = segments.flatMap QueryItem.parseChars := by
  show QueryItem.parseChars (String.ofList _).toList = _
  rw [String.toList_ofList, QueryItem.parseChars_intercalate]

theorem alike_withSegments (u : Url) {segments segments' : List (List Char)}
    (h : ∀ n : String, (segments.flatMap QueryItem.parseChars).find? (·.name == n) =
      (segments'.flatMap QueryItem.parseChars).find? (·.name == n)) :
    (u.withSegments segments).Alike (u.withSegments segments') := by
  refine ⟨rfl, rfl, ?_⟩
  rw [items_withSegments, items_withSegments]
  exact isFirst_iff_of_find?_eq h

theorem find?_eq_none_of_forall_ne {items : List QueryItem} {n : String}
    (h : ∀ i ∈ items, i.name ≠ n) : items.find? (·.name == n) = none := by
  rw [List.find?_eq_none]
  intro i hi
  simpa using h i hi

/-- Items without a common name are found in either order. -/
theorem find?_append_comm {a b : List QueryItem} (h : ∀ i ∈ a, ∀ j ∈ b, i.name ≠ j.name)
    (n : String) : (a ++ b).find? (·.name == n) = (b ++ a).find? (·.name == n) := by
  rw [List.find?_append, List.find?_append]
  by_cases ha : ∃ i ∈ a, i.name = n
  · obtain ⟨i, hi, rfl⟩ := ha
    have hb : b.find? (·.name == i.name) = none :=
      find?_eq_none_of_forall_ne fun j hj => Ne.symm (h i hi j hj)
    rw [hb, Option.or_none, Option.none_or]
  · have ha' : a.find? (·.name == n) = none :=
      find?_eq_none_of_forall_ne fun i hi hname => ha ⟨i, hi, hname⟩
    rw [ha', Option.or_none, Option.none_or]

/-- Items whose names all came before are never found first. -/
theorem find?_append_of_again {a b : List QueryItem} (h : ∀ i ∈ b, ∃ j ∈ a, j.name = i.name)
    (n : String) : (a ++ b).find? (·.name == n) = a.find? (·.name == n) := by
  rw [List.find?_append]
  cases ha : a.find? (·.name == n) with
  | some i => rfl
  | none =>
    rw [Option.none_or]
    apply find?_eq_none_of_forall_ne
    intro i hi hname
    obtain ⟨j, hj, hji⟩ := h i hi
    have hno := List.find?_eq_none.mp ha j hj
    rw [hji, hname] at hno
    exact hno (beq_self_eq_true n)

/-- However a URL is put, what is compared of it stays. -/
theorem alike_of_restated {u v : Url} (h : Restated u v) : u.Alike v := by
  induction h with
  | refl u => exact .refl u
  | symm _ ih => exact ih.symm
  | trans _ _ ih ih' => exact ih.trans ih'
  | origin u scheme authority => exact ⟨rfl, rfl, fun _ => Iff.rfl⟩
  | path u hs hs' =>
    refine ⟨?_, rfl, fun _ => Iff.rfl⟩
    rw [Text.Percent.decode_of_spells hs, Text.Percent.decode_of_spells hs']
  | fragment u hs hs' =>
    refine ⟨rfl, ?_, fun _ => Iff.rfl⟩
    simp only [Option.map_some, Text.Percent.decode_of_spells hs,
      Text.Percent.decode_of_spells hs']
  | noFragment u => exact ⟨rfl, rfl, fun _ => Iff.rfl⟩
  | noQuery u => exact ⟨rfl, rfl, fun _ => Iff.rfl⟩
  | item u before after hw hw' =>
    apply alike_withSegments
    intro n
    rw [List.flatMap_append, List.flatMap_append, List.flatMap_cons, List.flatMap_cons,
      QueryItem.parseChars_eq_of_writes hw hw']
  | emptySegment u before after =>
    apply alike_withSegments
    intro n
    rw [List.flatMap_append, List.flatMap_append, List.flatMap_cons, QueryItem.parseChars_nil,
      List.nil_append]
  | @order u before after s t hne =>
    apply alike_withSegments
    intro n
    have hswap := find?_append_comm hne n
    simp only [List.find?_append] at hswap
    simp only [List.flatMap_append, List.flatMap_cons, List.find?_append]
    congr 1
    rw [← Option.or_assoc, hswap, Option.or_assoc]
  | again u before after hagain =>
    apply alike_withSegments
    intro n
    simp only [List.flatMap_append, List.flatMap_cons]
    rw [← List.append_assoc, List.find?_append, find?_append_of_again hagain n,
      List.find?_append]

end Url

end AppLinks
