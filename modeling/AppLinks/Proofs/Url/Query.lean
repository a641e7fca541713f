import AppLinks.Proofs.Text.Decoding
import AppLinks.Proofs.Url.Restated

/-!
# Queries read back

A list of items may be written as a query in many ways: with any escapes in names and values, with
any number of ampersands between the items and around them.  Where the separators and the percent
signs of a name or value are escaped, splitting finds the pieces that were written and decoding
then gives the items back.  Only an item of no name and no value leaves nothing to be found.

    ListedAs items text.toList → parse text = items, if every item has a name or a value
                                                                          (parse_of_listed)
-/

namespace AppLinks

open Text
open Text.Percent (Escaped Escapes IsMark)

namespace QueryItem

/-! ## Ways to write a query -/

/-- What does not stand for itself in a name. -/
def nameReserved : List Char := ['&', '=', '%']

/-- What does not stand for itself in a value; it may hold equals signs. -/
def valueReserved : List Char := ['&', '%']

/-- The piece of a query that writes an item. -/
inductive WrittenAs : QueryItem → List Char → Prop
  | bare {name : String} {ns : List Char} : Escaped nameReserved name.toList ns →
      WrittenAs ⟨name, none⟩ ns
  | valued {name value : String} {ns vs : List Char} : Escaped nameReserved name.toList ns →
      Escaped valueReserved value.toList vs → WrittenAs ⟨name, some value⟩ (ns ++ '=' :: vs)

/-- The query that lists items, with ampersands between them and more wherever one may stand. -/
inductive ListedAs : List QueryItem → List Char → Prop
  | nothing : ListedAs [] []
  | ampersand {items : List QueryItem} {cs : List Char} : ListedAs items cs →
      ListedAs items ('&' :: cs)
  | last {i : QueryItem} {ps : List Char} : WrittenAs i ps → ListedAs [i] ps
  | next {i : QueryItem} {ps : List Char} {items : List QueryItem} {cs : List Char} :
      WrittenAs i ps → ListedAs items cs → ListedAs (i :: items) (ps ++ '&' :: cs)

/-! ## Reading them -/

theorem isMark_ampersand : IsMark '&' := by
  unfold IsMark
  decide +kernel

theorem isMark_equals : IsMark '=' := by
  unfold IsMark
  decide +kernel

/-- The piece spells the bytes of the item, and no separator stands where it does not belong. -/
theorem WrittenAs.writes {i : QueryItem} {ps : List Char} (h : WrittenAs i ps) :
    Writes ps (Utf8.encode i.name.toList) (i.value.map fun s => Utf8.encode s.toList) := by
  cases h with
  | bare hname =>
    exact .bare (hname.not_mem_mark isMark_ampersand (by decide))
      (hname.not_mem_mark isMark_equals (by decide)) (hname.spells (by decide))
  | valued hname hvalue =>
    exact .valued (hname.not_mem_mark isMark_ampersand (by decide))
      (hname.not_mem_mark isMark_equals (by decide))
      (hvalue.not_mem_mark isMark_ampersand (by decide)) (hname.spells (by decide))
      (hvalue.spells (by decide))

theorem ofList_decodeLossy_encode (s : String) :
    String.ofList (Utf8.decodeLossy (Utf8.encode s.toList)) = s := by
  rw [Utf8.decodeLossy_of_decode? (Utf8.decode?_encode _), String.ofList_toList]

/-- A piece is read as the item that it writes. -/
theorem parseChars_of_written {i : QueryItem} {ps : List Char} (h : WrittenAs i ps)
    (hi : ¬ (i.name = "" ∧ i.value = none)) : parseChars ps = [i] := by
  have hbytes : ¬ (Utf8.encode i.name.toList = [] ∧
      (i.value.map fun s => Utf8.encode s.toList) = none) := by
    rw [Utf8.encode_eq_nil_iff, String.toList_eq_nil_iff, Option.map_eq_none_iff]
    exact hi
  have hvalue : (fun bs => String.ofList (Utf8.decodeLossy bs)) ∘
      (fun s : String => Utf8.encode s.toList) = id := funext ofList_decodeLossy_encode
  rw [parseChars_of_writes h.writes, if_neg hbytes, ofList_decodeLossy_encode, Option.map_map,
    hvalue, Option.map_id]
  rfl

theorem parseChars_of_listed {items : List QueryItem} {cs : List Char} (h : ListedAs items cs)
    (hitems : ∀ i ∈ items, ¬ (i.name = "" ∧ i.value = none)) : parseChars cs = items := by
  induction h with
  | nothing => rfl
  | @ampersand items cs _ ih =>
    have hsplit := parseChars_append [] cs
    rw [List.nil_append, parseChars_nil, List.nil_append] at hsplit
    rw [hsplit, ih hitems]
  | last hps => exact parseChars_of_written hps (hitems _ List.mem_cons_self)
  | @next i ps items cs hps _ ih =>
    rw [parseChars_append, parseChars_of_written hps (hitems i List.mem_cons_self),
      ih fun j hj => hitems j (List.mem_cons_of_mem _ hj)]
    rfl

/-! ## Top theorem -/

/-- **Reading a query gives back the items that were listed in it**, in their order, however they
are written; and an ampersand divides a query into queries that are read apart. -/
theorem parse_of_listed :
    (∀ (items : List QueryItem) (text : String), (∀ i ∈ items, ¬ (i.name = "" ∧ i.value = none)) →
      ListedAs items text.toList → parse text = items) ∧
    ∀ a b : String, parse (a ++ "&" ++ b) = parse a ++ parse b := by
  constructor
  · intro items text hitems h
    exact parseChars_of_listed h hitems
  · intro a b
    have hchars : (a ++ "&" ++ b).toList = a.toList ++ '&' :: b.toList := by
      rw [String.toList_append, String.toList_append, List.append_assoc]
      rfl
    unfold parse
    rw [hchars, parseChars_append]

/-- Separators in a name and in a value, an item without a value, one whose value is empty and one
whose name is. -/
theorem parse_of_listed_separators :
    let items : List QueryItem :=
      [⟨"a=&", some "x=y&"⟩, ⟨"b", none⟩, ⟨"d", some ""⟩, ⟨"", some "é"⟩]
    (∀ i ∈ items, ¬ (i.name = "" ∧ i.value = none)) ∧
      ListedAs items "&a%3D%26=x=y%26&&b&d=&=%c3%A9&".toList ∧
      parse "&a%3D%26=x=y%26&&b&d=&=%c3%A9&" = items := by
  intro items
  have hitems : ∀ i ∈ items, ¬ (i.name = "" ∧ i.value = none) := by decide +kernel
  have hamp : Escapes (String.utf8EncodeChar '&') "%26".toList :=
    .cons (by decide) (by decide) .nil
  have hequals : Escapes (String.utf8EncodeChar '=') "%3D".toList :=
    .cons (by decide) (by decide) .nil
  have hletter : Escapes (String.utf8EncodeChar 'é') "%c3%A9".toList :=
    .cons (by decide) (by decide) (.cons (by decide) (by decide) .nil)
  have hname : Escaped nameReserved "a=&".toList "a%3D%26".toList :=
    .itself (by decide) (.escapes hequals (.escapes hamp .nil))
  have hvalue : Escaped valueReserved "x=y&".toList "x=y%26".toList :=
    .itself (by decide) (.itself (by decide) (.itself (by decide) (.escapes hamp .nil)))
  have hfirst : WrittenAs ⟨"a=&", some "x=y&"⟩ "a%3D%26=x=y%26".toList :=
    .valued hname hvalue
  have hsecond : WrittenAs ⟨"b", none⟩ "b".toList := .bare (.itself (by decide) .nil)
  have hd : Escaped nameReserved "d".toList "d".toList := .itself (by decide) .nil
  have hempty : ∀ reserved, Escaped reserved "".toList "".toList := fun _ => .nil
  have hthird : WrittenAs ⟨"d", some ""⟩ "d=".toList := .valued hd (hempty _)
  have haccent : Escaped valueReserved "é".toList "%c3%A9".toList := .escapes hletter .nil
  have hlast : WrittenAs ⟨"", some "é"⟩ "=%c3%A9".toList := .valued (hempty _) haccent
  have hlisted : ListedAs items "&a%3D%26=x=y%26&&b&d=&=%c3%A9&".toList :=
    .ampersand (.next hfirst (.ampersand (.next hsecond (.next hthird (.next hlast .nothing)))))
  exact ⟨hitems, hlisted, parse_of_listed.1 items _ hitems hlisted⟩

end QueryItem

end AppLinks
