import AppLinks.Json.Skip
import AppLinks.Proofs.Json.Text
import Mathlib.Data.List.TakeDrop

/-!
# Reading printed strings, and passing over strings and numbers

Every character of a string is printed in one of three ways, and both readers of strings take each
of them whole. A number ends where its text ends, if what stands behind it could not go on with it.

    readString (stringText s ++ byte '"' :: x) = .ok (s, x)      (readString_stringText)
    skipString (stringText s ++ byte '"' :: x) = .ok x           (skipString_stringText)
    Delimited x → skipNumber (unsignedText n ++ x) = .ok x       (skipNumber_unsignedText)
-/

namespace AppLinks.Json

open Text

/-! ## How a character is printed -/

/-- A byte that stands for itself in a string. -/
def Plain (b : UInt8) : Prop := b ≠ byte '"' ∧ b ≠ byte '\\' ∧ ¬ b < 0x20

/-- The bytes that may spell a character in a string. -/
inductive Spells (c : Char) : Input → Prop
  | short {e : UInt8} : shortEscape e = some (byte c) → c.toNat < 0x80 → Spells c [byte '\\', e]
  | code {d₁ d₂ d₃ d₄ : UInt8} : hexCode [d₁, d₂, d₃, d₄] = some c.toNat → c.toNat < 0xD800 →
      Spells c [byte '\\', byte 'u', d₁, d₂, d₃, d₄]
  | plain : (∀ b ∈ String.utf8EncodeChar c, Plain b) → Spells c (String.utf8EncodeChar c)

theorem high_of_mem_encodeChar {c : Char} (h : 0x80 ≤ c.toNat) {b : UInt8}
    (hb : b ∈ String.utf8EncodeChar c) : 0x80 ≤ b.toNat := by
  have hv : ¬ c.val.toNat ≤ 127 := Nat.not_le.mpr h
  have hhigh : ∀ m, 0x80 ≤ m → m < 256 → 0x80 ≤ (UInt8.ofNat m).toNat := by
    intro m hm hlt
    rwa [Utf8.toNat_ofNat_of_lt hlt]
  revert b
  unfold String.utf8EncodeChar
  simp only [if_neg hv]
  split
  · simp only [List.forall_mem_cons, List.not_mem_nil, false_implies, implies_true, and_true]
    exact ⟨hhigh _ (by omega) (by omega), hhigh _ (by omega) (by omega)⟩
  · split
    · simp only [List.forall_mem_cons, List.not_mem_nil, false_implies, implies_true, and_true]
      exact ⟨hhigh _ (by omega) (by omega), hhigh _ (by omega) (by omega),
        hhigh _ (by omega) (by omega)⟩
    · simp only [List.forall_mem_cons, List.not_mem_nil, false_implies, implies_true, and_true]
      exact ⟨hhigh _ (by omega) (by omega), hhigh _ (by omega) (by omega),
        hhigh _ (by omega) (by omega), hhigh _ (by omega) (by omega)⟩

theorem plain_of_mem_encodeChar {c : Char} (hquote : c ≠ '"') (hslash : c ≠ '\\')
    (hlow : ¬ c.toNat < 0x20) {b : UInt8} (hb : b ∈ String.utf8EncodeChar c) : Plain b := by
  have hquoteByte : (byte '"').toNat = 34 := rfl
  have hslashByte : (byte '\\').toNat = 92 := rfl
  have hspaceByte : (0x20 : UInt8).toNat = 32 := rfl
  simp only [Plain, ne_eq, UInt8.lt_iff_toNat_lt, ← UInt8.toNat_inj, hquoteByte, hslashByte,
    hspaceByte]
  by_cases hascii : c.toNat < 0x80
  · rw [encodeChar_ascii hascii, List.mem_singleton] at hb
    have hbyte : b.toNat = c.toNat := by
      rw [hb]
      exact Utf8.toNat_ofNat_of_lt (by omega)
    have hq : c.toNat ≠ 34 := fun h => hquote (Char.toNat_inj.mp h)
    have hs : c.toNat ≠ 92 := fun h => hslash (Char.toNat_inj.mp h)
    omega
  · have hhigh := high_of_mem_encodeChar (Nat.not_lt.mp hascii) hb
    omega

theorem hexCode_low : ∀ n < 32,
    hexCode [byte '0', byte '0', byte (hexDigit (n / 16)), byte (hexDigit (n % 16))] = some n ∧
      (hexDigit (n / 16)).toNat < 0x80 ∧ (hexDigit (n % 16)).toNat < 0x80 := by
  decide

/-- Every character is printed in one of these ways. -/
theorem spells_escapeChar (c : Char) : Spells c (Utf8.encode (escapeChar c)) := by
  have hshort : ∀ e : Char, e.toNat < 0x80 → shortEscape (byte e) = some (byte c) →
      c.toNat < 0x80 → Spells c (Utf8.encode ['\\', e]) := by
    intro e he hescape hc
    rw [encode_cons_ascii (by decide), encode_cons_ascii he]
    exact .short hescape hc
  unfold escapeChar
  split
  · next h => exact hshort _ (by decide) (by rw [h]; rfl) (by rw [h]; decide)
  split
  · next h => exact hshort _ (by decide) (by rw [h]; rfl) (by rw [h]; decide)
  split
  · next h => exact hshort _ (by decide) (by rw [h]; rfl) (by rw [h]; decide)
  split
  · next h => exact hshort _ (by decide) (by rw [h]; rfl) (by rw [h]; decide)
  split
  · next h => exact hshort _ (by decide) (by rw [h]; rfl) (by rw [h]; decide)
  split
  · next h => exact hshort _ (by decide) (by rw [h]; rfl) (by rw [h]; decide)
  split
  · next h => exact hshort _ (by decide) (by rw [h]; rfl) (by rw [h]; decide)
  split
  · next hlow =>
    obtain ⟨hcode, hhigh, hlast⟩ := hexCode_low c.toNat hlow
    rw [encode_cons_ascii (by decide), encode_cons_ascii (by decide),
      encode_cons_ascii (by decide), encode_cons_ascii (by decide), encode_cons_ascii hhigh,
      encode_cons_ascii hlast]
    exact .code hcode (by omega)
  · next hquote hslash _ _ _ _ _ hlow =>
    rw [Utf8.encode_cons, Utf8.encode_nil, List.append_nil]
    exact .plain fun b hb => plain_of_mem_encodeChar hquote hslash hlow hb

/-! ## Strings -/

theorem readStringBytes_plain {bs : List UInt8} (h : ∀ b ∈ bs, Plain b) (acc : List UInt8)
    (x : Input) :
    readStringBytes .plain acc (bs ++ x) = readStringBytes .plain (bs.reverse ++ acc) x := by
  induction bs generalizing acc with
  | nil => rfl
  | cons b bs ih =>
    obtain ⟨hquote, hslash, hlow⟩ := h b List.mem_cons_self
    rw [List.cons_append, readStringBytes, if_neg hquote, if_neg hslash, if_neg hlow,
      ih fun d hd => h d (List.mem_cons_of_mem _ hd), List.reverse_cons, List.append_assoc,
      List.singleton_append]

theorem skipString_plain {bs : List UInt8} (h : ∀ b ∈ bs, Plain b) (x : Input) :
    skipString (bs ++ x) = skipString x := by
  induction bs with
  | nil => rfl
  | cons b bs ih =>
    obtain ⟨hquote, hslash, hlow⟩ := h b List.mem_cons_self
    rw [List.cons_append, skipString.eq_def]
    dsimp only
    rw [if_neg hquote, if_neg hslash, if_neg hlow, ih fun d hd => h d (List.mem_cons_of_mem _ hd)]

theorem readStringBytes_spells {c : Char} {bs : Input} (h : Spells c bs) (acc : List UInt8)
    (x : Input) : readStringBytes .plain acc (bs ++ x) =
      readStringBytes .plain ((String.utf8EncodeChar c).reverse ++ acc) x := by
  have hquote : byte '\\' ≠ byte '"' := by decide
  cases h with
  | short hshort hascii =>
    rw [encodeChar_ascii hascii]
    simp only [List.cons_append, List.nil_append, readStringBytes, hshort]
    rfl
  | @code d₁ d₂ d₃ d₄ hcode hlow =>
    have hu : shortEscape (byte 'u') = none := rfl
    have hdigits : readStringBytes (.hex none []) acc (d₁ :: d₂ :: d₃ :: d₄ :: x) =
        readStringBytes .plain (pushCode c.toNat acc) x := by
      have hlead : (decide (0xDC00 ≤ c.toNat) && decide (c.toNat ≤ 0xDFFF)) = false := by
        simp; omega
      have htrail : (decide (0xD800 ≤ c.toNat) && decide (c.toNat ≤ 0xDBFF)) = false := by
        simp; omega
      simp [readStringBytes, hcode, hlead, htrail]
    have hpush : pushCode c.toNat acc = (String.utf8EncodeChar c).reverse ++ acc := by
      rw [pushCode, Char.ofNat_toNat]
    rw [← hpush, ← hdigits]
    simp only [List.cons_append, List.nil_append]
    rw [readStringBytes, if_neg hquote, if_pos rfl, readStringBytes, hu]
    rfl
  | plain hplain => exact readStringBytes_plain hplain acc x

theorem skipString_spells {c : Char} {bs : Input} (h : Spells c bs) (x : Input) :
    skipString (bs ++ x) = skipString x := by
  have hquote : byte '\\' ≠ byte '"' := by decide
  cases h with
  | short hshort hascii =>
    simp only [List.cons_append, List.nil_append]
    rw [skipString.eq_def]
    simp only [if_neg hquote, if_true, hshort, Option.isSome_some]
  | code hcode hlow =>
    have hu : shortEscape (byte 'u') = none := rfl
    simp only [List.cons_append, List.nil_append]
    rw [skipString.eq_def]
    simp only [if_neg hquote, if_true, hu, hcode, Option.isSome_some, Option.isSome_none]
    rfl
  | plain hplain => exact skipString_plain hplain x

theorem readStringBytes_escaped (cs : List Char) (acc : List UInt8) (x : Input) :
    readStringBytes .plain acc (Utf8.encode (cs.flatMap escapeChar) ++ byte '"' :: x) =
      .ok (acc.reverse ++ Utf8.encode cs, x) := by
  induction cs generalizing acc with
  | nil => simp [readStringBytes, Utf8.encode_nil]
  | cons c cs ih =>
    rw [List.flatMap_cons, Utf8.encode_append, List.append_assoc,
      readStringBytes_spells (spells_escapeChar c), ih, List.reverse_append, List.reverse_reverse,
      Utf8.encode_cons, List.append_assoc]

theorem readString_stringText (s : String) (x : Input) :
    readString (stringText s ++ byte '"' :: x) = .ok (s, x) := by
  unfold readString stringText
  rw [readStringBytes_escaped]
  simp [Utf8.decode?_encode, bind, Except.bind]

theorem skipString_stringText (s : String) (x : Input) :
    skipString (stringText s ++ byte '"' :: x) = .ok x := by
  unfold stringText
  induction s.toList with
  | nil =>
    rw [List.flatMap_nil, Utf8.encode_nil, List.nil_append, skipString.eq_def]
    rfl
  | cons c cs ih =>
    rw [List.flatMap_cons, Utf8.encode_append, List.append_assoc,
      skipString_spells (spells_escapeChar c), ih]

/-! ## Words -/

theorem readWord_append (cs : List Char) (x : Input) :
    readWord cs (cs.map byte ++ x) = .ok x := by
  induction cs with
  | nil => rfl
  | cons c cs ih => rw [List.map_cons, List.cons_append, readWord, if_pos rfl, ih]

/-! ## Texts of numbers -/

def digitsText (n : Nat) : Input := (Nat.toDigits 10 n).map byte

def fractionText (ds : List (Fin 10)) : Input :=
  if ds.isEmpty then [] else byte '.' :: ds.map fun d => byte (Numeral.digitChar d)

def exponentText : Option Int → Input
  | none => []
  | some e => byte 'e' :: ((if e < 0 then [byte '-'] else []) ++ digitsText e.natAbs)

/-- A number without its sign. -/
def unsignedText (n : Numeral) : Input :=
  digitsText n.whole ++ (fractionText n.fraction ++ exponentText n.exponent)

theorem encode_toDigits (n : Nat) : Utf8.encode (Nat.toDigits 10 n) = digitsText n :=
  encode_map_ascii fun _ hc => (isDigit_byte_of_mem_toDigits hc).1

theorem isDigit_digitsText {n : Nat} : ∀ b ∈ digitsText n, isDigit b = true := by
  intro b hb
  obtain ⟨c, hc, rfl⟩ := List.mem_map.mp hb
  exact (isDigit_byte_of_mem_toDigits hc).2

theorem digitChar_ascii : ∀ d : Fin 10, (Numeral.digitChar d).toNat < 0x80 ∧
    isDigit (byte (Numeral.digitChar d)) = true := by
  decide

theorem text_number (l : Layout) (k : Nat) (n : Numeral) :
    text l k (.number n) = (if n.negative then [byte '-'] else []) ++ unsignedText n := by
  have hsign : Utf8.encode (if n.negative then ['-'] else []) =
      if n.negative then [byte '-'] else [] := by
    split <;> rfl
  have hfraction : Utf8.encode (if n.fraction.isEmpty then [] else
      '.' :: n.fraction.map Numeral.digitChar) = fractionText n.fraction := by
    unfold fractionText
    split
    · rfl
    · rw [encode_cons_ascii (by decide), encode_map_ascii, List.map_map]
      · rfl
      · intro c hc
        obtain ⟨d, -, rfl⟩ := List.mem_map.mp hc
        exact (digitChar_ascii d).1
  unfold text unsignedText
  rw [chars, Numeral.text]
  simp only [Utf8.encode_append, List.append_assoc, hsign, hfraction, encode_toDigits]
  cases n.exponent with
  | none => rfl
  | some e =>
    have hminus : Utf8.encode (if e < 0 then ['-'] else []) =
        if e < 0 then [byte '-'] else [] := by
      split <;> rfl
    simp only [List.cons_append, encode_cons_ascii (c := 'e') (by decide), Utf8.encode_append,
      hminus, encode_toDigits, exponentText]

/-! ## Passing over numbers -/

/-- No number goes on with these bytes. -/
def Delimited (x : Input) : Prop :=
  ∀ b ∈ x.head?, isDigit b = false ∧ b ≠ byte '.' ∧ b ≠ byte 'e' ∧ b ≠ byte 'E'

theorem delimited_cons {b : UInt8} (h : isDigit b = false) (hpoint : b ≠ byte '.')
    (hlower : b ≠ byte 'e') (hupper : b ≠ byte 'E') (x : Input) : Delimited (b :: x) := by
  intro c hc
  obtain rfl : b = c := by simpa using hc
  exact ⟨h, hpoint, hlower, hupper⟩

theorem Delimited.blank_append {ws x : Input} (h : Delimited x) (hws : Blank ws) :
    Delimited (ws ++ x) := by
  cases ws with
  | nil => exact h
  | cons b ws =>
    have hspace := hws b List.mem_cons_self
    refine delimited_cons ?_ ?_ ?_ ?_ _
    · cases hdigit : isDigit b with
      | false => rfl
      | true =>
        rw [isSpace_of_isDigit hdigit] at hspace
        cases hspace
    all_goals
      rintro rfl
      exact absurd hspace (by decide)

theorem spanDigits_append {ds x : Input} (h : ∀ b ∈ ds, isDigit b = true)
    (hx : ∀ b ∈ x.head?, isDigit b = false) : spanDigits (ds ++ x) = (ds, x) := by
  unfold spanDigits
  rw [List.span_eq_takeWhile_dropWhile, List.takeWhile_append_of_pos h,
    List.dropWhile_append_of_pos h]
  cases x with
  | nil => simp
  | cons b x => simp [hx b rfl]

/-- Only zero is written with a leading zero. -/
theorem eq_zero_of_toDigits_eq_cons {n : Nat} {cs : List Char}
    (h : Nat.toDigits 10 n = '0' :: cs) : n = 0 := by
  induction n using Nat.strongRecOn generalizing cs with
  | ind n ih =>
    rw [Nat.toDigits_eq_if (by decide)] at h
    split at h
    · have hsmall : ∀ m < 10, Nat.digitChar m = '0' → m = 0 := by decide
      exact hsmall n ‹_› (List.cons.inj h).1
    · obtain ⟨c, ds, hds⟩ :=
        List.exists_cons_of_ne_nil (Nat.toDigits_ne_nil (n := n / 10) (b := 10))
      rw [hds, List.cons_append] at h
      obtain ⟨rfl, -⟩ := List.cons.inj h
      have := ih (n / 10) (by omega) hds
      omega

theorem byte_inj {c d : Char} (hc : c.toNat < 0x80) (hd : d.toNat < 0x80) (h : byte c = byte d) :
    c = d := by
  have hnat := congrArg UInt8.toNat h
  unfold byte at hnat
  rw [Utf8.toNat_ofNat_of_lt (by omega), Utf8.toNat_ofNat_of_lt (by omega)] at hnat
  exact Char.toNat_inj.mp hnat

theorem digitsText_eq_cons (n : Nat) :
    ∃ b ds, digitsText n = b :: ds ∧ (b = byte '0' → ds = []) := by
  obtain ⟨c, cs, hdigits⟩ := List.exists_cons_of_ne_nil (Nat.toDigits_ne_nil (n := n) (b := 10))
  refine ⟨byte c, cs.map byte, by rw [digitsText, hdigits, List.map_cons], ?_⟩
  intro hzero
  have hascii := (isDigit_byte_of_mem_toDigits (n := n) (hdigits ▸ List.mem_cons_self)).1
  obtain rfl := byte_inj hascii (by decide) hzero
  rw [eq_zero_of_toDigits_eq_cons hdigits, Nat.toDigits_zero] at hdigits
  rw [← (List.cons.inj hdigits).2, List.map_nil]

theorem readWhole_digitsText (n : Nat) (onEmpty : Cause) {x : Input}
    (hx : ∀ b ∈ x.head?, isDigit b = false) :
    ∃ m, readWhole onEmpty (digitsText n ++ x) = .ok (m, x) := by
  obtain ⟨b, ds, htext, hzero⟩ := digitsText_eq_cons n
  have hdigits := isDigit_digitsText (n := n)
  rw [htext] at hdigits ⊢
  obtain ⟨hb, hds⟩ := List.forall_mem_cons.mp hdigits
  rw [List.cons_append, readWhole.eq_def]
  dsimp only
  split
  · next h =>
    rw [hzero h, List.nil_append]
    cases x with
    | nil => exact ⟨0, rfl⟩
    | cons d x => exact ⟨0, by simp [hx d rfl]⟩
  · rw [spanDigits_append hds hx]
    exact ⟨_, rfl⟩

theorem skipExponent_digitsText (e : Int) {x : Input} (hx : ∀ b ∈ x.head?, isDigit b = false) :
    skipExponent ((if e < 0 then [byte '-'] else []) ++ (digitsText e.natAbs ++ x)) = .ok x := by
  obtain ⟨b, ds, htext, -⟩ := digitsText_eq_cons e.natAbs
  have hdigits := isDigit_digitsText (n := e.natAbs)
  rw [htext] at hdigits ⊢
  obtain ⟨hb, hds⟩ := List.forall_mem_cons.mp hdigits
  have hsign : b ≠ byte '+' ∧ b ≠ byte '-' := by
    constructor <;>
      rintro rfl <;>
      exact absurd hb (by decide)
  unfold skipExponent
  by_cases hnegative : e < 0
  · simp [hnegative, hb, spanDigits_append hds hx]
  · simp [hnegative, hsign, hb, spanDigits_append hds hx]

/-- What may follow the whole part of a number, or its fraction, is no digit. -/
theorem head?_exponentText (e : Option Int) {x : Input} (hx : Delimited x) :
    ∀ b ∈ (exponentText e ++ x).head?, isDigit b = false ∧ b ≠ byte '.' := by
  cases e with
  | none => exact fun b hb => ⟨(hx b hb).1, (hx b hb).2.1⟩
  | some e =>
    intro b hb
    obtain rfl : byte 'e' = b := by simpa [exponentText] using hb
    exact ⟨rfl, by decide⟩

theorem head?_fractionText (ds : List (Fin 10)) {x : Input}
    (hx : ∀ b ∈ x.head?, isDigit b = false) :
    ∀ b ∈ (fractionText ds ++ x).head?, isDigit b = false := by
  unfold fractionText
  split
  · exact hx
  · intro b hb
    obtain rfl : byte '.' = b := by simpa using hb
    rfl

/-- Over the point of a number and the digits behind it, if it has them. -/
def skipFraction (input : Input) : Except Fault Input :=
  match input with
  | b :: rest =>
    if b = byte '.' then
      match spanDigits rest with
      | ([], r) => .error (.atNext .invalidNumber r)
      | (_, r) => .ok r
    else .ok input
  | [] => .ok input

/-- Over the exponent of a number, if it has one. -/
def skipLast (input : Input) : Except Fault Input :=
  match input with
  | b :: rest => if b = byte 'e' || b = byte 'E' then skipExponent rest else .ok input
  | [] => .ok input

theorem skipNumber_eq (input : Input) : skipNumber input =
    (readWhole .invalidNumber input >>= fun p => skipFraction p.2 >>= skipLast) := by
  unfold skipNumber
  refine bind_congr fun p => ?_
  obtain ⟨m, input⟩ := p
  cases input with
  | nil => rfl
  | cons b rest =>
    dsimp only [skipFraction]
    obtain ⟨ds, r⟩ := spanDigits rest
    by_cases hpoint : b = byte '.'
    · cases ds <;> simp only [if_pos hpoint] <;> rfl
    · simp only [if_neg hpoint]
      rfl

theorem skipFraction_fractionText (ds : List (Fin 10)) {x : Input}
    (hx : ∀ b ∈ x.head?, isDigit b = false ∧ b ≠ byte '.') :
    skipFraction (fractionText ds ++ x) = .ok x := by
  cases ds with
  | nil =>
    cases x with
    | nil => rfl
    | cons b x => simp [fractionText, skipFraction, hx b rfl]
  | cons d ds =>
    have hspan : spanDigits ((d :: ds).map (fun d => byte (Numeral.digitChar d)) ++ x) =
        ((d :: ds).map (fun d => byte (Numeral.digitChar d)), x) := by
      refine spanDigits_append ?_ fun b hb => (hx b hb).1
      intro b hb
      obtain ⟨d, -, rfl⟩ := List.mem_map.mp hb
      exact (digitChar_ascii d).2
    rw [List.map_cons, List.cons_append] at hspan
    simp [fractionText, skipFraction, hspan]

theorem skipLast_exponentText (e : Option Int) {x : Input} (hx : Delimited x) :
    skipLast (exponentText e ++ x) = .ok x := by
  cases e with
  | none =>
    cases x with
    | nil => rfl
    | cons b x => simp [exponentText, skipLast, hx b rfl]
  | some e =>
    have hdigit : ∀ b ∈ x.head?, isDigit b = false := fun b hb => (hx b hb).1
    simpa [exponentText, skipLast] using skipExponent_digitsText e hdigit

theorem skipNumber_unsignedText (n : Numeral) {x : Input} (hx : Delimited x) :
    skipNumber (unsignedText n ++ x) = .ok x := by
  have hexponent := head?_exponentText n.exponent hx
  have hfraction := head?_fractionText n.fraction fun b hb => (hexponent b hb).1
  obtain ⟨m, hwhole⟩ := readWhole_digitsText n.whole .invalidNumber hfraction
  rw [skipNumber_eq, unsignedText, List.append_assoc, List.append_assoc, hwhole]
  show skipFraction _ >>= skipLast = .ok x
  rw [skipFraction_fractionText n.fraction hexponent]
  exact skipLast_exponentText n.exponent hx

end AppLinks.Json
