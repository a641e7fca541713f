import AppLinks.Decimal.Shortest

/-!
# JSON numbers

A numeral holds what a JSON number spells: a sign, the whole part, the digits after the point and
an exponent. `value?` says what it denotes: an integer where 64 bits hold it, else the nearest
floating-point number that the digit-by-digit scaling below reaches, and nothing when it is too
large.
-/

namespace AppLinks.Json

/-- `-whole.fraction e exponent`; an empty fraction has no point. -/
structure Numeral where
  negative : Bool
  whole : Nat
  fraction : List (Fin 10)
  exponent : Option Int
  deriving DecidableEq, Repr

/-- What a numeral denotes. -/
inductive Numeral.Value where
  | integer (n : Int)
  | float (x : Float)

namespace Numeral

def ofNat (n : Nat) : Numeral := ⟨false, n, [], none⟩

/-! ## Text -/

def digitChar (d : Fin 10) : Char := Char.ofNat (48 + d.val)

/-- The numeral as JSON writes it. -/
def text (n : Numeral) : List Char :=
  (if n.negative then ['-'] else []) ++ Nat.toDigits 10 n.whole ++
    (if n.fraction.isEmpty then [] else '.' :: n.fraction.map digitChar) ++
    match n.exponent with
    | none => []
    | some e => 'e' :: (if e < 0 then ['-'] else []) ++ Nat.toDigits 10 e.natAbs

/-! ## Value -/

/-- Digits gathered while 64 bits hold them, and the decimal places they are off by. -/
structure Gathered where
  significand : Nat
  places : Int

/-- A digit more, unless it overflows 64 bits: `none`. -/
def Gathered.push? (g : Gathered) (d : Nat) : Option Nat :=
  let s := g.significand * 10 + d
  if s < 18446744073709551616 then some s else none

/-- Once a digit of the whole part does not fit, the rest only counts as places. -/
def gatherWhole (g : Gathered) : List Nat → Gathered
  | [] => g
  | d :: ds =>
    match g.push? d with
    | some s => gatherWhole ⟨s, g.places⟩ ds
    | none => ⟨g.significand, g.places + (ds.length + 1)⟩

/-- Once a digit after the point does not fit, the rest is dropped. -/
def gatherFraction (g : Gathered) : List Nat → Gathered
  | [] => g
  | d :: ds =>
    match g.push? d with
    | some s => gatherFraction ⟨s, g.places - 1⟩ ds
    | none => g

def wholeDigits (n : Numeral) : List Nat :=
  (Nat.toDigits 10 n.whole).map fun c => c.toNat - 48

def gathered (n : Numeral) : Gathered :=
  gatherFraction (gatherWhole ⟨0, 0⟩ n.wholeDigits) (n.fraction.map (·.val))

/-- `x · 10^places`, by one rounded operation for every 308 places; `none` when too large. Three
rounds reach zero from any significand. -/
def scale (x : Float) (places : Int) : Nat → Option Float
  | 0 => some 0
  | rounds + 1 =>
    if places.natAbs ≤ 308 then
      let power := Float.ofScientific 1 false places.natAbs
      if 0 ≤ places then
        let y := x * power
        if y.isInf then none else some y
      else some (x / power)
    else if x == 0 then some x
    else if 0 ≤ places then none
    else scale (x / Float.ofScientific 1 false 308) (places + 308) rounds

def float? (n : Numeral) : Option Float :=
  let g := n.gathered
  (scale g.significand.toUInt64.toFloat (g.places + n.exponent.getD 0) 3).map fun x =>
    if n.negative then -x else x

/-- Whole numbers from `-2^63` to `2^64 - 1` are integers, negative zero apart. -/
def integer? (n : Numeral) : Option Int :=
  if n.fraction.isEmpty && n.exponent.isNone then
    if n.negative then
      if 0 < n.whole && n.whole ≤ 9223372036854775808 then some (-(n.whole : Int)) else none
    else if n.whole < 18446744073709551616 then some n.whole else none
  else none

def value? (n : Numeral) : Option Value :=
  match n.integer? with
  | some i => some (.integer i)
  | none => n.float?.map .float

end Numeral

end AppLinks.Json
