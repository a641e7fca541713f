/-!
# UTF-8

`encode` writes characters as bytes. `pieces` cuts any bytes into characters and ill-formed
pieces: a lead byte says how many bytes are owed and what the next one may be, and a byte that
breaks the promise ends an ill-formed piece and is read afresh. So every longest start of a
character that the bytes do not finish is one piece.

    pieces of an ASCII byte, whatever stands before it, end right there   (piecesFrom_ascii)
-/

namespace AppLinks.Text.Utf8

/-! ## Writing -/

def encode (cs : List Char) : List UInt8 :=
  cs.flatMap String.utf8EncodeChar

@[simp] theorem encode_nil : encode [] = [] := rfl

theorem encode_cons (c : Char) (cs : List Char) :
    encode (c :: cs) = String.utf8EncodeChar c ++ encode cs := rfl

theorem encode_append (a b : List Char) : encode (a ++ b) = encode a ++ encode b :=
  List.flatMap_append

/-- How many bytes characters take. -/
def size (cs : List Char) : Nat :=
  cs.foldr (fun c n => c.utf8Size + n) 0

theorem size_append (a b : List Char) : size (a ++ b) = size a + size b := by
  induction a with
  | nil => simp [size]
  | cons c a ih =>
    simp only [size, List.cons_append, List.foldr_cons] at ih ⊢
    rw [ih, Nat.add_assoc]

/-! ## Reading -/

/-- A character begun: `owed` more bytes, the next one from `low` to `high`; `value` holds the
bits read so far. -/
structure Pending where
  owed : Nat
  low : Nat
  high : Nat
  value : Nat
  deriving DecidableEq, Repr

/-- What a byte begins: a character of its own, a longer one, or nothing. -/
inductive Lead where
  | char (c : Char)
  | pending (p : Pending)
  | stray
  deriving DecidableEq, Repr

def lead (b : Nat) : Lead :=
  if b < 0x80 then .char (Char.ofNat b)
  else if b < 0xC2 then .stray
  else if b < 0xE0 then .pending ⟨1, 0x80, 0xBF, b - 0xC0⟩
  else if b = 0xE0 then .pending ⟨2, 0xA0, 0xBF, 0⟩
  else if b = 0xED then .pending ⟨2, 0x80, 0x9F, 0xD⟩
  else if b < 0xF0 then .pending ⟨2, 0x80, 0xBF, b - 0xE0⟩
  else if b = 0xF0 then .pending ⟨3, 0x90, 0xBF, 0⟩
  else if b < 0xF4 then .pending ⟨3, 0x80, 0xBF, b - 0xF0⟩
  else if b = 0xF4 then .pending ⟨3, 0x80, 0x8F, 4⟩
  else .stray

namespace Pending

def allows (p : Pending) (b : Nat) : Bool :=
  p.low ≤ b && b ≤ p.high

/-- The bits after one more byte. -/
def push (p : Pending) (b : Nat) : Nat :=
  p.value * 64 + (b - 0x80)

end Pending

/-- What a byte that goes on nothing adds to the pieces, and the character it begins. -/
def Lead.pieces : Lead → List (Option Char) × Option Pending
  | .char c => ([some c], none)
  | .pending p => ([], some p)
  | .stray => ([none], none)

/-- What a byte adds to the pieces, and the character begun behind it; `p` is one begun before. -/
def advance (p : Option Pending) (b : UInt8) : List (Option Char) × Option Pending :=
  match p with
  | none => (lead b.toNat).pieces
  | some p =>
    if p.allows b.toNat then
      if p.owed ≤ 1 then ([some (Char.ofNat (p.push b.toNat))], none)
      else ([], some ⟨p.owed - 1, 0x80, 0xBF, p.push b.toNat⟩)
    else (none :: (lead b.toNat).pieces.1, (lead b.toNat).pieces.2)

/-- One piece per character (`some`) or ill-formed piece (`none`); `p` is a character begun
before `bs`. -/
def piecesFrom : Option Pending → List UInt8 → List (Option Char)
  | none, [] => []
  | some _, [] => [none]
  | p, b :: bs =>
    let r := advance p b
    r.1 ++ piecesFrom r.2 bs

def pieces (bs : List UInt8) : List (Option Char) :=
  piecesFrom none bs

/-- The characters, when no piece is ill-formed. -/
def decode? (bs : List UInt8) : Option (List Char) :=
  (pieces bs).mapM id

/-- Stands for an ill-formed piece. -/
def replacement : Char := '\uFFFD'

/-- The characters before the first ill-formed piece. -/
def validFront (bs : List UInt8) : List Char :=
  ((pieces bs).takeWhile Option.isSome).filterMap id

/-- The characters, every ill-formed piece replaced. -/
def decodeLossy (bs : List UInt8) : List Char :=
  (pieces bs).map (·.getD replacement)

/-! ## Lemmas -/

theorem lead_ascii {b : Nat} (h : b < 0x80) : lead b = .char (Char.ofNat b) := by
  simp [lead, h]

/-- Every byte that may go on a character is 0x80 or above. -/
def Pending.Sound (p : Pending) : Prop := 0x80 ≤ p.low

theorem lead_sound {b : Nat} {p : Pending} (h : lead b = .pending p) : p.Sound := by
  unfold lead at h
  repeat' split at h
  all_goals simp_all [Pending.Sound]
  all_goals (subst h; simp)

theorem advance_sound {p : Option Pending} (hp : ∀ q ∈ p, q.Sound) (b : UInt8) :
    ∀ q ∈ (advance p b).2, q.Sound := by
  have hlead : ∀ q ∈ (lead b.toNat).pieces.2, q.Sound := by
    intro q hq
    cases h : lead b.toNat with
    | pending r =>
      rw [h] at hq
      cases hq
      exact lead_sound h
    | char c => rw [h] at hq; cases hq
    | stray => rw [h] at hq; cases hq
  cases p with
  | none => exact hlead
  | some r =>
    simp only [advance]
    split
    · split
      · intro q hq; cases hq
      · intro q hq; cases hq; simp [Pending.Sound]
    · exact hlead

theorem advance_ascii {p : Option Pending} (hp : ∀ q ∈ p, q.Sound) {b : UInt8}
    (hb : b.toNat < 0x80) :
    advance p b = (piecesFrom p [] ++ [some (Char.ofNat b.toNat)], none) := by
  cases p with
  | none => simp [advance, piecesFrom, lead_ascii hb, Lead.pieces]
  | some q =>
    have hq : q.allows b.toNat = false := by
      have : 0x80 ≤ q.low := hp q rfl
      simp only [Pending.allows, Bool.and_eq_false_iff, decide_eq_false_iff_not]
      omega
    simp [advance, piecesFrom, hq, lead_ascii hb, Lead.pieces]

theorem piecesFrom_cons (p : Option Pending) (b : UInt8) (bs : List UInt8) :
    piecesFrom p (b :: bs) = (advance p b).1 ++ piecesFrom (advance p b).2 bs := by
  cases p <;> rfl

/-- An ASCII byte ends whatever was begun before it and stands for itself. -/
theorem piecesFrom_ascii (a : List UInt8) (b : UInt8) (rest : List UInt8) (hb : b.toNat < 0x80) :
    ∀ p : Option Pending, (∀ q ∈ p, q.Sound) →
      piecesFrom p (a ++ b :: rest)
        = piecesFrom p a ++ some (Char.ofNat b.toNat) :: piecesFrom none rest := by
  induction a with
  | nil =>
    intro p hp
    rw [List.nil_append, piecesFrom_cons, advance_ascii hp hb]
    simp
  | cons x a ih =>
    intro p hp
    rw [List.cons_append, piecesFrom_cons, piecesFrom_cons, ih _ (advance_sound hp x),
      List.append_assoc]

end AppLinks.Text.Utf8
