import AppLinks.Text.Utf8

/-!
# Percent escapes

`decode` replaces every escape (a percent sign and two hexadecimal digits) by the byte it names
and reads the outcome as UTF-8, ill-formed pieces replaced. A percent sign that begins no escape
stays as it is, and so does a plus sign. `encode` writes an escape for every byte of a character
that its set names and for every character above ASCII.
-/

namespace AppLinks.Text.Percent

/-! ## Reading -/

def hexValue (b : UInt8) : Option UInt8 :=
  if 0x30 ≤ b && b ≤ 0x39 then some (b - 0x30)
  else if 0x41 ≤ b && b ≤ 0x46 then some (b - 0x37)
  else if 0x61 ≤ b && b ≤ 0x66 then some (b - 0x57)
  else none

/-- Every escape replaced by its byte, once: what an escape spells is not read again. -/
def decodeBytes : List UInt8 → List UInt8
  | [] => []
  | [b] => [b]
  | [b, c] => [b, c]
  | b :: hi :: lo :: rest =>
    if b = 0x25 then
      match hexValue hi, hexValue lo with
      | some h, some l => (h * 16 + l) :: decodeBytes rest
      | _, _ => b :: decodeBytes (hi :: lo :: rest)
    else b :: decodeBytes (hi :: lo :: rest)

def decodeChars (cs : List Char) : List Char :=
  Utf8.decodeLossy (decodeBytes (Utf8.encode cs))

def decode (s : String) : String :=
  String.ofList (decodeChars s.toList)

/-! ## Writing -/

def upperHexDigit (n : Nat) : Char :=
  Char.ofNat (if n < 10 then 48 + n else 55 + n)

def escapeByte (b : UInt8) : List Char :=
  ['%', upperHexDigit (b.toNat / 16), upperHexDigit (b.toNat % 16)]

/-- Whether `c` is written as escapes where `set` has to be: always above ASCII and for
controls. -/
def isEscaped (set : List Char) (c : Char) : Bool :=
  c.toNat < 0x20 || 0x7E < c.toNat || set.contains c

def encodeChar (set : List Char) (c : Char) : List Char :=
  if isEscaped set c then (String.utf8EncodeChar c).flatMap escapeByte else [c]

def encode (set : List Char) (cs : List Char) : List Char :=
  cs.flatMap (encodeChar set)

/-! ## Lemmas -/

theorem decodeBytes_cons_of_ne {b : UInt8} (h : b ≠ 0x25) (bs : List UInt8) :
    decodeBytes (b :: bs) = b :: decodeBytes bs := by
  match bs with
  | [] => rfl
  | [_] => rfl
  | _ :: _ :: _ => rw [decodeBytes, if_neg h]

/-- A text without a percent sign is left as it is. -/
theorem decodeBytes_of_not_mem : ∀ {bs : List UInt8}, 0x25 ∉ bs → decodeBytes bs = bs
  | [], _ => rfl
  | b :: bs, h => by
    simp only [List.mem_cons, not_or] at h
    rw [decodeBytes_cons_of_ne (Ne.symm h.1), decodeBytes_of_not_mem h.2]

end AppLinks.Text.Percent
