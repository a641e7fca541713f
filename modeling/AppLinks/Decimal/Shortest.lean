/-!
# The shortest decimal of a binary floating-point number

A finite positive number is `m · 2^q`. Every real nearer to it than to its neighbours reads back as
it (the ends of that interval too when `m` is even). `shortest?` finds the coarsest decimal grid
that has a point in the interval and, of the points there, the nearest one; `Layout.text` writes
it, positionally between two exponents and with an exponent outside them.
-/

namespace AppLinks.Decimal

/-- The number `significand · 2^exponent`; `narrowBelow` when its lower neighbour is twice as near
as its upper one. -/
structure Binary where
  significand : Nat
  exponent : Int
  narrowBelow : Bool

/-- The digits `digits` with the decimal point moved `exponent` places to the right. -/
structure Scaled where
  digits : Nat
  exponent : Int
  deriving DecidableEq, Repr

/-- The magnitude of a finite number from its bits. -/
def Binary.ofBits (bits : UInt64) : Binary :=
  let e := ((bits >>> 52) &&& 0x7ff).toNat
  let f := (bits &&& 0xfffffffffffff).toNat
  if e = 0 then ⟨f, -1074, false⟩
  else ⟨f + 0x10000000000000, (e : Int) - 1075, f == 0 && e > 1⟩

/-- The point of the grid `10^k` nearest to `b` among those that read back as `b`. -/
def pointOn? (b : Binary) (k : Int) : Option Scaled :=
  -- everything in quarters of the number's last bit, on a common denominator with the grid
  let two := b.exponent - 2
  let scale := Nat.pow 2 two.toNat * Nat.pow 10 (-k).toNat
  let unit := Nat.pow 10 k.toNat * Nat.pow 2 (-two).toNat
  let value := 4 * b.significand * scale
  let high := (4 * b.significand + 2) * scale
  let low := (4 * b.significand - (if b.narrowBelow then 1 else 2)) * scale
  let isEven := b.significand % 2 == 0
  let inside (d : Nat) : Bool :=
    0 < d &&
      if isEven then low ≤ d * unit && d * unit ≤ high else low < d * unit && d * unit < high
  let d := value / unit
  let below := value - d * unit
  let above := (d + 1) * unit - value
  let preferBelow := below < above || (below == above && d % 2 == 0)
  match inside d, inside (d + 1) with
  | true, true => some ⟨if preferBelow then d else d + 1, k⟩
  | true, false => some ⟨d, k⟩
  | false, true => some ⟨d + 1, k⟩
  | false, false => none

/-- The first of `count` grids, from `10^top` down, with a point that reads back as `b`. -/
def shortestFrom (b : Binary) (top : Int) : Nat → Option Scaled
  | 0 => none
  | count + 1 =>
    match pointOn? b top with
    | some s => some s
    | none => shortestFrom b (top - 1) count

/-- Grids from `10^309` to `10^-330` hold a point for every finite number but zero. -/
def shortest? (b : Binary) : Option Scaled :=
  if b.significand = 0 then none else shortestFrom b 309 640

/-! ## Writing -/

/-- Positional from `10^low` up to `10^high`, with an exponent outside. -/
structure Layout where
  low : Int
  high : Int

/-- Digits and a point for the number `s`, at least one digit on both sides of the point. -/
def Layout.positional (s : Scaled) : String :=
  let ds := Nat.toDigits 10 s.digits
  let point := (ds.length : Int) + s.exponent
  if 0 ≤ s.exponent then
    String.ofList (ds ++ List.replicate s.exponent.toNat '0' ++ ['.', '0'])
  else if 0 < point then
    String.ofList (ds.take point.toNat ++ '.' :: ds.drop point.toNat)
  else
    String.ofList ('0' :: '.' :: List.replicate (-point).toNat '0' ++ ds)

/-- One digit before the point, none after it when there is but one, and a signed exponent. -/
def Layout.scientific (s : Scaled) : String :=
  let ds := Nat.toDigits 10 s.digits
  let e := (ds.length : Int) + s.exponent - 1
  let mantissa := match ds with
    | d :: r => if r.isEmpty then [d] else d :: '.' :: r
    | [] => []
  String.ofList mantissa ++ "e" ++ (if 0 ≤ e then "+" else "-") ++ toString e.natAbs

def Layout.text (l : Layout) (s : Scaled) : String :=
  let point := ((Nat.toDigits 10 s.digits).length : Int) + s.exponent
  if l.low < point && point ≤ l.high then Layout.positional s else Layout.scientific s

/-- The text of a finite number. -/
def Layout.ofFloat (l : Layout) (x : Float) : String :=
  let bits := x.toBits
  let sign := if bits >>> 63 == 1 then "-" else ""
  match shortest? (Binary.ofBits bits) with
  | some s => sign ++ l.text s
  | none => sign ++ "0.0"

end AppLinks.Decimal
