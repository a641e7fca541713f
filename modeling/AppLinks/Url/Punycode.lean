/-!
# Labels in ASCII

A label with characters above ASCII is written as its ASCII characters, a hyphen, and the places
and values of the others as differences in a mixed base, with digits `a` to `z` and `0` to `9`.
-/

namespace AppLinks.Punycode

/-! ## Digits -/

def digit (n : Nat) : Char :=
  Char.ofNat (if n < 26 then 97 + n else 22 + n)

def digitValue (c : Char) : Option Nat :=
  if c.isLower then some (c.toNat - 97)
  else if c.isUpper then some (c.toNat - 65)
  else if c.isDigit then some (c.toNat - 22)
  else none

/-- The number of digit values that end a number at the place `k`. -/
def threshold (k bias : Nat) : Nat :=
  if k ≤ bias then 1 else min 26 (k - bias)

theorem one_le_threshold (k bias : Nat) : 1 ≤ threshold k bias := by
  unfold threshold
  split <;> omega

theorem threshold_le (k bias : Nat) : threshold k bias ≤ 26 := by
  unfold threshold
  split <;> omega

/-- How often 35 goes into a difference before it is small, times 36, and what is left. -/
def shrink (delta k : Nat) : Nat × Nat :=
  if 455 < delta then shrink (delta / 35) (k + 36) else (delta, k)
termination_by delta
decreasing_by exact Nat.div_lt_self (by omega) (by omega)

/-- The bias after a difference, when `count` characters are placed. -/
def adapt (delta count : Nat) (isFirst : Bool) : Nat :=
  let delta := if isFirst then delta / 700 else delta / 2
  let (rest, k) := shrink (delta + delta / count) 0
  k + 36 * rest / (rest + 38)

/-! ## Writing -/

def writeNumber (bias k n : Nat) : List Char :=
  let t := threshold k bias
  if n < t then [digit n]
  else digit (t + (n - t) % (36 - t)) :: writeNumber bias (k + 36) ((n - t) / (36 - t))
termination_by n
decreasing_by
  have h₁ := one_le_threshold k bias
  have h₂ := threshold_le k bias
  calc (n - threshold k bias) / (36 - threshold k bias)
      ≤ n - threshold k bias := Nat.div_le_self _ _
    _ < n := by omega

structure Writing where
  text : List Char := []
  delta : Nat := 0
  bias : Nat := 72
  /-- How many characters have been placed. -/
  placed : Nat

/-- Passes one character of the label on the way to those of value `n`. -/
def Writing.pass (ascii n : Nat) (w : Writing) (c : Char) : Writing :=
  if c.toNat < n then { w with delta := w.delta + 1 }
  else if c.toNat = n then
    { text := w.text ++ writeNumber w.bias 36 w.delta
      delta := 0
      bias := adapt w.delta (w.placed + 1) (w.placed == ascii)
      placed := w.placed + 1 }
  else w

/-- Places the characters of the given values, from the value `n` on. -/
def writeFrom (label : List Char) (ascii : Nat) : Nat → List Nat → Writing → Writing
  | _, [], w => w
  | n, m :: ms, w =>
    let w := { w with delta := w.delta + (m - n) * (w.placed + 1) }
    let w := label.foldl (Writing.pass ascii m) w
    writeFrom label ascii (m + 1) ms { w with delta := w.delta + 1 }

/-- The values above ASCII in increasing order, each once. -/
def insertValue (n : Nat) : List Nat → List Nat
  | [] => [n]
  | m :: ms =>
    if n < m then n :: m :: ms else if n = m then m :: ms else m :: insertValue n ms

def encode (label : List Char) : List Char :=
  let ascii := label.filter fun c => c.toNat < 128
  let values := (label.filter fun c => 128 ≤ c.toNat).foldr (fun c => insertValue c.toNat) []
  let w := writeFrom label ascii.length 128 values { placed := ascii.length }
  ascii ++ (if ascii.isEmpty then [] else ['-']) ++ w.text

/-! ## Reading -/

/-- A number added to `sum`, and the text behind it. -/
def readNumber (bias : Nat) : Nat → Nat → Nat → List Char → Option (Nat × List Char)
  | _, _, _, [] => none
  | k, weight, sum, c :: cs =>
    match digitValue c with
    | none => none
    | some d =>
      let t := threshold k bias
      if d < t then some (sum + d * weight, cs)
      else readNumber bias (k + 36) (weight * (36 - t)) (sum + d * weight) cs

theorem length_readNumber {bias k weight sum : Nat} {cs : List Char} {r : Nat × List Char}
    (h : readNumber bias k weight sum cs = some r) : r.2.length < cs.length := by
  fun_induction readNumber bias k weight sum cs with
  | case1 => simp at h
  | case2 => simp at h
  | case3 => simp at h; simp [← h]
  | case4 k weight sum c cs d hd t ht ih =>
    have := ih h
    simp only [List.length_cons]
    omega

/-- Places what a text tells among the characters placed so far; `at` is where the last one went
and `n` its value. -/
def readFrom (placed : List Char) (n position bias : Nat) (cs : List Char) :
    Option (List Char) :=
  if cs.isEmpty then some placed
  else
    match h : readNumber bias 36 1 position cs with
    | none => none
    | some (i, rest) =>
      let count := placed.length + 1
      let value := n + i / count
      if value.isValidChar then
        let place := i % count
        let bias := adapt (i - position) count (position == 0)
        readFrom (placed.take place ++ Char.ofNat value :: placed.drop place) value (place + 1)
          bias rest
      else none
termination_by cs.length
decreasing_by exact length_readNumber h

/-- The label that a text spells; what precedes its last hyphen stands for itself. -/
def decode? (text : List Char) : Option (List Char) :=
  let tail := (text.reverse.takeWhile (· != '-')).reverse
  let ascii := (text.reverse.dropWhile (· != '-')).reverse
  if ascii.length ≤ 1 then readFrom [] 128 0 72 text
  else readFrom ascii.dropLast 128 0 72 tail

end AppLinks.Punycode
