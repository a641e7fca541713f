import AppLinks.Proofs.Json.Leaf
import AppLinks.Text.Percent

/-!
# What escapes spell

A text with escapes spells bytes: an escape spells its byte, in digits of either case, and anything
else the bytes of its own characters.  Texts that spell the same bytes are decoded alike, however
much of them is escaped.

    Spells cs bs ↔ decodeBytes (Utf8.encode cs) = bs           (spells_iff)
    Spells cs bs → decodeChars cs = Utf8.decodeLossy bs        (decodeChars_of_spells)
-/

namespace AppLinks.Text.Percent

open Json (byte byte_inj encodeChar_ascii high_of_mem_encodeChar)

/-- A hexadecimal digit in either case, and its value. -/
def IsHexDigit (c : Char) (n : UInt8) : Prop :=
  c.toNat < 0x80 ∧ hexValue (byte c) = some n

/-- `cs` spells the bytes `bs`. -/
inductive Spells : List Char → List UInt8 → Prop
  | nil : Spells [] []
  | plain {c : Char} {cs : List Char} {bs : List UInt8} : c ≠ '%' → Spells cs bs →
      Spells (c :: cs) (String.utf8EncodeChar c ++ bs)
  | escape {hi lo : Char} {h l : UInt8} {cs : List Char} {bs : List UInt8} : IsHexDigit hi h →
      IsHexDigit lo l → Spells cs bs → Spells ('%' :: hi :: lo :: cs) ((h * 16 + l) :: bs)
  /-- A percent sign that begins no escape stands for itself. -/
  | stray {cs : List Char} {bs : List UInt8} :
      (∀ hi lo rest h l, cs = hi :: lo :: rest → IsHexDigit hi h → ¬ IsHexDigit lo l) →
      Spells cs bs → Spells ('%' :: cs) (0x25 :: bs)

/-! ## Bytes of characters -/

theorem lt_of_hexValue {b n : UInt8} (h : hexValue b = some n) : b.toNat < 0x80 := by
  unfold hexValue at h
  simp only [Bool.and_eq_true, decide_eq_true_eq, UInt8.le_iff_toNat_le] at h
  split at h
  · next hb => exact Nat.lt_of_le_of_lt hb.2 (by decide)
  · split at h
    · next hb => exact Nat.lt_of_le_of_lt hb.2 (by decide)
    · split at h
      · next hb => exact Nat.lt_of_le_of_lt hb.2 (by decide)
      · cases h

theorem encodeChar_ne_nil (c : Char) : String.utf8EncodeChar c ≠ [] := by
  intro hnil
  have hlen := congrArg List.length hnil
  have hpos := c.utf8Size_pos
  rw [String.length_utf8EncodeChar, List.length_nil] at hlen
  omega

theorem ne_percent_of_mem {c : Char} (hc : c ≠ '%') {b : UInt8}
    (hb : b ∈ String.utf8EncodeChar c) : b ≠ 0x25 := by
  rintro rfl
  by_cases hascii : c.toNat < 0x80
  · rw [encodeChar_ascii hascii, List.mem_singleton] at hb
    have hbyte : byte '%' = byte c := hb
    exact hc (byte_inj (by decide) hascii hbyte).symm
  · have hhigh := high_of_mem_encodeChar (Nat.le_of_not_lt hascii) hb
    exact absurd hhigh (by decide)

theorem decodeBytes_append_of_ne {as : List UInt8} (h : ∀ b ∈ as, b ≠ 0x25) (bs : List UInt8) :
    decodeBytes (as ++ bs) = as ++ decodeBytes bs := by
  induction as with
  | nil => rfl
  | cons a as ih =>
    have hrest : decodeBytes (as ++ bs) = as ++ decodeBytes bs :=
      ih fun b hb => h b (List.mem_cons_of_mem _ hb)
    rw [List.cons_append, decodeBytes_cons_of_ne (h a List.mem_cons_self), hrest]
    rfl

/-- An ASCII byte at the front comes from a character of its own. -/
theorem exists_char_of_encode {cs : List Char} {b : UInt8} {bs : List UInt8}
    (h : Utf8.encode cs = b :: bs) (hb : b.toNat < 0x80) :
    ∃ c rest, cs = c :: rest ∧ c.toNat < 0x80 ∧ byte c = b ∧ Utf8.encode rest = bs := by
  cases cs with
  | nil => cases h
  | cons c rest =>
    rw [Utf8.encode_cons] at h
    by_cases hascii : c.toNat < 0x80
    · rw [encodeChar_ascii hascii] at h
      obtain ⟨hbyte, hrest⟩ := List.cons.inj h
      exact ⟨c, rest, rfl, hascii, hbyte, hrest⟩
    · have hmem : b ∈ String.utf8EncodeChar c := by
        obtain ⟨d, ds, hds⟩ := List.exists_cons_of_ne_nil (encodeChar_ne_nil c)
        rw [hds] at h ⊢
        cases h
        exact List.mem_cons_self
      have hhigh := high_of_mem_encodeChar (Nat.le_of_not_lt hascii) hmem
      omega

/-! ## Decoding -/

theorem decodeBytes_stray {cs : List Char}
    (h : ∀ hi lo rest h l, cs = hi :: lo :: rest → IsHexDigit hi h → ¬ IsHexDigit lo l) :
    decodeBytes (0x25 :: Utf8.encode cs) = 0x25 :: decodeBytes (Utf8.encode cs) := by
  match hbytes : Utf8.encode cs with
  | [] => rfl
  | [_] => rfl
  | a :: b :: bs =>
    rw [decodeBytes, if_pos rfl]
    cases ha : hexValue a with
    | none => rfl
    | some x =>
      cases hb : hexValue b with
      | none => rfl
      | some y =>
        -- both bytes are digits, and so are the characters that they come from
        obtain ⟨hi, cs', rfl, hhi, rfl, hrest⟩ := exists_char_of_encode hbytes (lt_of_hexValue ha)
        obtain ⟨lo, rest, rfl, hlo, rfl, -⟩ := exists_char_of_encode hrest (lt_of_hexValue hb)
        exact absurd ⟨hlo, hb⟩ (h hi lo rest x y rfl ⟨hhi, ha⟩)

theorem decodeBytes_escape {hi lo : Char} {h l : UInt8} (hhi : IsHexDigit hi h)
    (hlo : IsHexDigit lo l) (cs : List Char) :
    decodeBytes (Utf8.encode ('%' :: hi :: lo :: cs)) =
      (h * 16 + l) :: decodeBytes (Utf8.encode cs) := by
  have hbytes : Utf8.encode ('%' :: hi :: lo :: cs) =
      0x25 :: byte hi :: byte lo :: Utf8.encode cs := by
    rw [Utf8.encode_cons, Utf8.encode_cons, Utf8.encode_cons, encodeChar_ascii hhi.1,
      encodeChar_ascii hlo.1]
    rfl
  rw [hbytes, decodeBytes, if_pos rfl, hhi.2, hlo.2]

theorem decodeBytes_plain {c : Char} (hc : c ≠ '%') (cs : List Char) :
    decodeBytes (Utf8.encode (c :: cs)) =
      String.utf8EncodeChar c ++ decodeBytes (Utf8.encode cs) := by
  rw [Utf8.encode_cons, decodeBytes_append_of_ne fun b hb => ne_percent_of_mem hc hb]

theorem decodeBytes_of_spells {cs : List Char} {bs : List UInt8} (h : Spells cs bs) :
    decodeBytes (Utf8.encode cs) = bs := by
  induction h with
  | nil => rfl
  | @plain c cs bs hc _ ih => rw [decodeBytes_plain hc, ih]
  | @escape hi lo h l cs bs hhi hlo _ ih => rw [decodeBytes_escape hhi hlo, ih]
  | @stray cs bs hstray _ ih =>
    have hbytes : Utf8.encode ('%' :: cs) = 0x25 :: Utf8.encode cs := rfl
    rw [hbytes, decodeBytes_stray hstray, ih]

theorem spells_decodeBytes (cs : List Char) : Spells cs (decodeBytes (Utf8.encode cs)) := by
  -- an escape is passed as a whole, so the induction is on the length
  induction hn : cs.length using Nat.strongRecOn generalizing cs with
  | _ n ih =>
    match cs with
    | [] => exact .nil
    | c :: cs =>
      have hrest : Spells cs (decodeBytes (Utf8.encode cs)) :=
        ih cs.length (by rw [← hn]; simp) cs rfl
      by_cases hc : c = '%'
      · subst hc
        by_cases hescape : ∃ hi lo rest h l, cs = hi :: lo :: rest ∧ IsHexDigit hi h ∧
            IsHexDigit lo l
        · obtain ⟨hi, lo, rest, h, l, rfl, hhi, hlo⟩ := hescape
          rw [decodeBytes_escape hhi hlo]
          exact .escape hhi hlo (ih rest.length (by rw [← hn]; simp; omega) rest rfl)
        · have hstray : ∀ hi lo rest h l, cs = hi :: lo :: rest → IsHexDigit hi h →
              ¬ IsHexDigit lo l := by
            intro hi lo rest h l hcs hhi hlo
            exact hescape ⟨hi, lo, rest, h, l, hcs, hhi, hlo⟩
          have hbytes : Utf8.encode ('%' :: cs) = 0x25 :: Utf8.encode cs := rfl
          rw [hbytes, decodeBytes_stray hstray]
          exact .stray hstray hrest
      · rw [decodeBytes_plain hc]
        exact .plain hc hrest

/-- A text spells the bytes that decoding finds in it, and no others. -/
theorem spells_iff (cs : List Char) (bs : List UInt8) :
    Spells cs bs ↔ decodeBytes (Utf8.encode cs) = bs := by
  constructor
  · exact decodeBytes_of_spells
  · rintro rfl
    exact spells_decodeBytes cs

/-- Decoding gives the text of the bytes that are spelled. -/
theorem decodeChars_of_spells {cs : List Char} {bs : List UInt8} (h : Spells cs bs) :
    decodeChars cs = Utf8.decodeLossy bs := by
  rw [decodeChars, decodeBytes_of_spells h]

theorem decode_of_spells {cs : List Char} {bs : List UInt8} (h : Spells cs bs) :
    decode (String.ofList cs) = String.ofList (Utf8.decodeLossy bs) := by
  rw [decode, String.toList_ofList, decodeChars_of_spells h]

/-- Only the empty text spells no bytes. -/
theorem Spells.eq_nil_iff {cs : List Char} {bs : List UInt8} (h : Spells cs bs) :
    cs = [] ↔ bs = [] := by
  cases h with
  | nil => exact iff_of_true rfl rfl
  | @plain c cs bs hc _ =>
    refine iff_of_false (by simp) ?_
    intro hnil
    exact encodeChar_ne_nil c (List.append_eq_nil_iff.mp hnil).1
  | escape => exact iff_of_false (by simp) (by simp)
  | stray => exact iff_of_false (by simp) (by simp)

end AppLinks.Text.Percent
