import AppLinks.Proofs.Text.Percent
import AppLinks.Proofs.Text.Utf8

/-!
# Decoding what was written with escapes

A text may be written with escapes in many ways: each character as itself or as the escapes of all
its bytes, each digit of an escape as a small letter or a capital.  As long as the percent signs of
the text are escaped, what is written spells the bytes of the text and nothing else.  So decoding
gives the text back, meets no ill-formed piece, and is done once: what comes out is not read again.

A text may also be cut at an ASCII character that is no part of an escape.  It begins and ends every
piece of the decoded bytes, so nothing on one side of it changes how the other side is read.

    Escaped reserved cs ws → Spells ws (Utf8.encode cs), if `'%'` is reserved    (Escaped.spells)
    Escaped ['%'] s.toList e.toList → decode e = s                        (decode_of_escaped)
    decodeChars (a ++ c :: b) = decodeChars a ++ c :: decodeChars b       (decodeChars_append_mark)
-/

namespace AppLinks.Text.Percent

open Json (byte encodeChar_ascii)

/-! ## Ways to write a text -/

/-- The hexadecimal digit of a number below 16, a small letter or a capital from ten on. -/
def DigitOf (n : Nat) (d : Char) : Prop :=
  d = n.digitChar ∨ d = n.digitChar.toUpper

instance (n : Nat) (d : Char) : Decidable (DigitOf n d) := inferInstanceAs (Decidable (_ ∨ _))

/-- Every byte is written as an escape. -/
inductive Escapes : List UInt8 → List Char → Prop
  | nil : Escapes [] []
  | cons {b : UInt8} {hi lo : Char} {bs : List UInt8} {ws : List Char} :
      DigitOf (b.toNat / 16) hi → DigitOf (b.toNat % 16) lo → Escapes bs ws →
      Escapes (b :: bs) ('%' :: hi :: lo :: ws)

/-- Every character is written as itself, unless it is reserved, or as the escapes of all its
bytes. -/
inductive Escaped (reserved : List Char) : List Char → List Char → Prop
  | nil : Escaped reserved [] []
  | itself {c : Char} {cs ws : List Char} : c ∉ reserved → Escaped reserved cs ws →
      Escaped reserved (c :: cs) (c :: ws)
  | escapes {c : Char} {es cs ws : List Char} : Escapes (String.utf8EncodeChar c) es →
      Escaped reserved cs ws → Escaped reserved (c :: cs) (es ++ ws)

/-! ## What they spell -/

theorem isHexDigit_digitChar : ∀ n < 16,
    IsHexDigit n.digitChar (UInt8.ofNat n) ∧ IsHexDigit n.digitChar.toUpper (UInt8.ofNat n) := by
  unfold IsHexDigit
  decide

theorem DigitOf.isHexDigit {n : Nat} {d : Char} (h : DigitOf n d) (hn : n < 16) :
    IsHexDigit d (UInt8.ofNat n) := by
  obtain ⟨hsmall, hcapital⟩ := isHexDigit_digitChar n hn
  rcases h with rfl | rfl
  · exact hsmall
  · exact hcapital

theorem ofNat_digits (b : UInt8) :
    UInt8.ofNat (b.toNat / 16) * 16 + UInt8.ofNat (b.toNat % 16) = b := by
  have hdigits : b.toNat / 16 * 16 + b.toNat % 16 = b.toNat := Nat.div_add_mod' b.toNat 16
  calc UInt8.ofNat (b.toNat / 16) * 16 + UInt8.ofNat (b.toNat % 16)
      = UInt8.ofNat (b.toNat / 16 * 16 + b.toNat % 16) := by
        rw [UInt8.ofNat_add, UInt8.ofNat_mul]
        rfl
    _ = b := by rw [hdigits, UInt8.ofNat_toNat]

theorem Escapes.spells_append {bs bs' : List UInt8} {es ws : List Char} (h : Escapes bs es)
    (hws : Spells ws bs') : Spells (es ++ ws) (bs ++ bs') := by
  induction h with
  | nil => exact hws
  | @cons b hi lo bs es hhi hlo _ ih =>
    have hlt : b.toNat < 256 := b.toNat_lt
    have hescape := Spells.escape (hhi.isHexDigit (by omega)) (hlo.isHexDigit (by omega)) ih
    rw [ofNat_digits] at hescape
    exact hescape

/-- However a text is written, its bytes are spelled. -/
theorem Escaped.spells {reserved cs ws : List Char} (h : Escaped reserved cs ws)
    (hpercent : '%' ∈ reserved) : Spells ws (Utf8.encode cs) := by
  induction h with
  | nil => exact .nil
  | @itself c cs ws hc _ ih =>
    have hne : c ≠ '%' := by
      rintro rfl
      exact hc hpercent
    exact .plain hne ih
  | escapes hes _ ih => exact hes.spells_append ih

theorem Escaped.decode?_eq {reserved cs ws : List Char} (h : Escaped reserved cs ws)
    (hpercent : '%' ∈ reserved) :
    Utf8.decode? (decodeBytes (Utf8.encode ws)) = some cs := by
  rw [decodeBytes_of_spells (h.spells hpercent), Utf8.decode?_encode]

theorem Escaped.decode_eq {reserved : List Char} {s e : String}
    (h : Escaped reserved s.toList e.toList) (hpercent : '%' ∈ reserved) : decode e = s := by
  unfold decode decodeChars
  rw [Utf8.decodeLossy_of_decode? (h.decode?_eq hpercent), String.ofList_toList]

/-- A text without reserved characters may be written as it is. -/
theorem escaped_self {reserved cs : List Char} (h : ∀ c ∈ cs, c ∉ reserved) :
    Escaped reserved cs cs := by
  induction cs with
  | nil => exact .nil
  | cons c cs ih =>
    exact .itself (h c List.mem_cons_self) (ih fun d hd => h d (List.mem_cons_of_mem _ hd))

/-! ## Sparing work -/

/-- Decoding that passes a text without percent signs on as it is, and replaces ill-formed pieces
only if there are any. -/
def decodeSparing (s : String) : String :=
  if '%' ∈ s.toList then
    match Utf8.decode? (decodeBytes (Utf8.encode s.toList)) with
    | some cs => String.ofList cs
    | none => String.ofList (Utf8.decodeLossy (decodeBytes (Utf8.encode s.toList)))
  else s

theorem decode_of_not_mem {s : String} (h : '%' ∉ s.toList) : decode s = s := by
  have hself : Escaped ['%'] s.toList s.toList := by
    apply escaped_self
    rintro c hc hmem
    exact h (List.mem_singleton.mp hmem ▸ hc)
  exact hself.decode_eq List.mem_cons_self

/-- The work that is spared does not show. -/
theorem decodeSparing_eq (s : String) : decodeSparing s = decode s := by
  unfold decodeSparing
  split
  · unfold decode decodeChars
    split
    · next cs hcs => rw [Utf8.decodeLossy_of_decode? hcs]
    · rfl
  · next h => exact (decode_of_not_mem h).symm

theorem decodeChars_percent (cs : List Char) :
    decodeChars ('%' :: '2' :: '5' :: cs) = '%' :: decodeChars cs := by
  have htwo : IsHexDigit '2' 2 := (isHexDigit_digitChar 2 (by decide)).1
  have hfive : IsHexDigit '5' 5 := (isHexDigit_digitChar 5 (by decide)).1
  unfold decodeChars
  rw [decodeBytes_escape htwo hfive]
  exact Utf8.decodeLossy_append_ascii [] (by decide) _

/-! ## Cutting at a mark -/

/-- ASCII, and no part of any escape. -/
def IsMark (c : Char) : Prop :=
  c.toNat < 0x80 ∧ c ∉ "%0123456789abcdefABCDEF".toList

theorem mem_digits_of_hexValue : ∀ n < 0x80, hexValue (UInt8.ofNat n) ≠ none →
    Char.ofNat n ∈ "%0123456789abcdefABCDEF".toList := by
  decide +kernel

theorem IsMark.not_isHexDigit {c : Char} (h : IsMark c) (n : UInt8) : ¬ IsHexDigit c n := by
  rintro ⟨hlt, hvalue⟩
  have hmem := mem_digits_of_hexValue c.toNat hlt (by
    rw [show hexValue (UInt8.ofNat c.toNat) = some n from hvalue]
    simp)
  rw [Char.ofNat_toNat] at hmem
  exact h.2 hmem

theorem IsMark.ne_percent {c : Char} (h : IsMark c) : c ≠ '%' := by
  rintro rfl
  exact h.2 (by decide +kernel)

theorem Escapes.not_mem_mark {c : Char} (hc : IsMark c) {bs : List UInt8} {es : List Char}
    (h : Escapes bs es) : c ∉ es := by
  induction h with
  | nil => exact List.not_mem_nil
  | @cons b hi lo bs es hhi hlo _ ih =>
    have hlt : b.toNat < 256 := b.toNat_lt
    simp only [List.mem_cons, not_or]
    refine ⟨hc.ne_percent, ?_, ?_, ih⟩
    · rintro rfl
      exact hc.not_isHexDigit _ (hhi.isHexDigit (by omega))
    · rintro rfl
      exact hc.not_isHexDigit _ (hlo.isHexDigit (by omega))

/-- A mark that is reserved does not stand in what is written. -/
theorem Escaped.not_mem_mark {reserved cs ws : List Char} {c : Char} (h : Escaped reserved cs ws)
    (hc : IsMark c) (hreserved : c ∈ reserved) : c ∉ ws := by
  induction h with
  | nil => exact List.not_mem_nil
  | itself hd _ ih =>
    rw [List.mem_cons, not_or]
    refine ⟨?_, ih⟩
    rintro rfl
    exact hd hreserved
  | escapes hes _ ih =>
    rw [List.mem_append, not_or]
    exact ⟨hes.not_mem_mark hc, ih⟩

/-- An escape does not reach over a mark, so both sides spell what they spell alone. -/
theorem Spells.append_mark {a b : List Char} {as bs : List UInt8} {c : Char} (hc : IsMark c)
    (ha : Spells a as) (hb : Spells b bs) : Spells (a ++ c :: b) (as ++ byte c :: bs) := by
  induction ha with
  | nil =>
    have hplain := Spells.plain hc.ne_percent hb
    rw [encodeChar_ascii hc.1] at hplain
    exact hplain
  | @plain d a as hd _ ih =>
    rw [List.append_assoc]
    exact .plain hd ih
  | escape hhi hlo _ ih => exact .escape hhi hlo ih
  | @stray a as hstray _ ih =>
    refine .stray ?_ ih
    intro hi lo rest h l heq hhi hlo
    -- the two digits would stand before the mark, or the mark would be one of them
    match a, heq with
    | [], heq =>
      cases heq
      exact hc.not_isHexDigit h hhi
    | [_], heq =>
      cases heq
      exact hc.not_isHexDigit l hlo
    | _ :: _ :: a, heq =>
      cases heq
      exact hstray hi lo a h l rfl hhi hlo

theorem decodeChars_append_mark {c : Char} (hc : IsMark c) (a b : List Char) :
    decodeChars (a ++ c :: b) = decodeChars a ++ c :: decodeChars b := by
  have hspells : Spells (a ++ c :: b)
      (decodeBytes (Utf8.encode a) ++ byte c :: decodeBytes (Utf8.encode b)) :=
    (spells_decodeBytes a).append_mark hc (spells_decodeBytes b)
  have hbyte : (byte c).toNat = c.toNat :=
    Utf8.toNat_ofNat_of_lt (Nat.lt_trans hc.1 (by decide))
  have hascii : (byte c).toNat < 0x80 := by
    rw [hbyte]
    exact hc.1
  rw [decodeChars_of_spells hspells, Utf8.decodeLossy_append_ascii _ hascii, hbyte,
    Char.ofNat_toNat]
  rfl

/-- A text in segments is decoded segment by segment. -/
theorem decodeChars_intercalate {c : Char} (hc : IsMark c) (segments : List (List Char)) :
    decodeChars ([c].intercalate segments) = [c].intercalate (segments.map decodeChars) := by
  induction segments with
  | nil => rfl
  | cons a segments ih =>
    cases segments with
    | nil => simp [List.intercalate_singleton]
    | cons b segments =>
      rw [List.map_cons, List.map_cons, List.intercalate_cons_cons, List.intercalate_cons_cons,
        List.append_assoc, List.append_assoc, List.singleton_append, List.singleton_append,
        decodeChars_append_mark hc, ih, List.map_cons]

/-! ## Top theorems -/

/-- **Decoding undoes every way of writing with escapes**: the bytes are well-formed and give the
text back; a text without percent signs is left as it is, which may be seen beforehand; and an
escaped percent sign stays one, whatever follows it. -/
theorem decode_of_escaped :
    (∀ s e : String, Escaped ['%'] s.toList e.toList →
      Utf8.decode? (decodeBytes (Utf8.encode e.toList)) = some s.toList ∧ decode e = s) ∧
    (∀ s : String, '%' ∉ s.toList → decode s = s) ∧
    (∀ s : String, decodeSparing s = decode s) ∧
    ∀ t : String, decode ("%25" ++ t) = "%" ++ decode t := by
  refine ⟨?_, fun s => decode_of_not_mem, decodeSparing_eq, ?_⟩
  · intro s e h
    exact ⟨h.decode?_eq List.mem_cons_self, h.decode_eq List.mem_cons_self⟩
  · intro t
    have hchars : ("%25" ++ t).toList = '%' :: '2' :: '5' :: t.toList := by
      rw [String.toList_append]
      rfl
    unfold decode
    rw [hchars, decodeChars_percent, ← List.singleton_append, String.ofList_append]

/-- A percent sign before hexadecimal digits, and one character of two bytes in digits of both
kinds. -/
theorem decode_of_escaped_percent_sign :
    Escaped ['%'] "%41é/".toList "%2541%c3%A9/".toList ∧
      decode "%2541%c3%A9/" = "%41é/" ∧ '%' ∉ "/é".toList ∧ decode "/é" = "/é" := by
  have hpercent : Escapes (String.utf8EncodeChar '%') "%25".toList :=
    .cons (by decide) (by decide) .nil
  have hletter : Escapes (String.utf8EncodeChar 'é') "%c3%A9".toList :=
    .cons (by decide) (by decide) (.cons (by decide) (by decide) .nil)
  have hescaped : Escaped ['%'] "%41é/".toList "%2541%c3%A9/".toList :=
    .escapes hpercent (.itself (by decide) (.itself (by decide)
      (.escapes hletter (.itself (by decide) .nil))))
  have hplain : '%' ∉ "/é".toList := by decide +kernel
  exact ⟨hescaped, (decode_of_escaped.1 _ _ hescaped).2, hplain, decode_of_escaped.2.1 _ hplain⟩

/-- **Segments between marks are decoded apart**, whatever they hold: escapes that are cut short or
malformed, and bytes that begin a character and do not end it. -/
theorem decode_intercalate (c : Char) (hascii : c.toNat < 0x80)
    (hc : c ∉ "%0123456789abcdefABCDEF".toList) (segments : List String) :
    decode ((String.singleton c).intercalate segments) =
      (String.singleton c).intercalate (segments.map decode) := by
  have hdecode : (segments.map decode).map String.toList =
      (segments.map String.toList).map decodeChars := by
    simp only [List.map_map]
    apply List.map_congr_left
    intro s _
    exact String.toList_ofList
  apply String.toList_inj.mp
  unfold decode
  rw [String.toList_ofList, String.toList_intercalate, String.toList_intercalate,
    String.toList_singleton, decodeChars_intercalate ⟨hascii, hc⟩]
  exact congrArg _ hdecode.symm

/-- The first segment ends in a character begun, the second is half an escape, the third begins
with digits. -/
theorem decode_intercalate_begun_characters :
    '/'.toNat < 0x80 ∧ '/' ∉ "%0123456789abcdefABCDEF".toList ∧
      decode ((String.singleton '/').intercalate ["%e2%82", "%4", "1%ac"]) =
        (String.singleton '/').intercalate (["%e2%82", "%4", "1%ac"].map decode) ∧
      ["%e2%82", "%4", "1%ac"].map decode = ["\uFFFD", "%4", "1\uFFFD"] := by
  have hascii : '/'.toNat < 0x80 := by decide
  have hmark : '/' ∉ "%0123456789abcdefABCDEF".toList := by decide +kernel
  exact ⟨hascii, hmark, decode_intercalate '/' hascii hmark _, by decide +kernel⟩

end AppLinks.Text.Percent
