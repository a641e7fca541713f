import AppLinks.Text.Pieces

/-!
# Addresses of four bytes

A host whose last part is a number is an address. Parts may be decimal, octal (after a zero) or
hexadecimal (after `0x`); the last one fills the bytes that the others leave.
-/

namespace AppLinks.Ipv4

def digitIn (radix : Nat) (c : Char) : Option Nat :=
  let d :=
    if c.isDigit then some (c.toNat - 48)
    else if 'a' ≤ c && c ≤ 'f' then some (c.toNat - 87)
    else if 'A' ≤ c && c ≤ 'F' then some (c.toNat - 55)
    else none
  d.filter (· < radix)

/-- The number that digits write; none of them is zero. -/
def numeral? (radix : Nat) (digits : List Char) : Option Nat :=
  (digits.mapM (digitIn radix)).map fun ds => ds.foldl (fun n d => n * radix + d) 0

def number? : List Char → Option Nat
  | [] => none
  | '0' :: 'x' :: ds => numeral? 16 ds
  | '0' :: 'X' :: ds => numeral? 16 ds
  | '0' :: d :: ds => numeral? 8 (d :: ds)
  | ds => numeral? 10 ds

/-- The parts of a name, without the empty one behind a dot at its end. -/
def parts (name : List Char) : List (List Char) :=
  let ps := Text.split (· == '.') name
  if ps.getLast? = some [] then ps.dropLast else ps

def isNumeric (part : List Char) : Bool :=
  !part.isEmpty && part.all Char.isDigit || (number? part).isSome

/-- Whether a name has to be an address. -/
def endsInNumber (name : List Char) : Bool :=
  (parts name).getLast?.any isNumeric

/-- The address of the given numbers: one byte each, the last as many as are left. -/
def ofNumbers? (numbers : List Nat) : Option UInt32 :=
  let front := numbers.dropLast
  match numbers.getLast? with
  | none => none
  | some last =>
    if 3 < front.length || Nat.pow 256 (4 - front.length) ≤ last || front.any (255 < ·) then none
    else
      let high := front.foldl (fun n b => n * 256 + b) 0
      some (UInt32.ofNat (high * Nat.pow 256 (4 - front.length) + last))

def parse? (name : List Char) : Option UInt32 :=
  ((parts name).mapM number?).bind ofNumbers?

def text (a : UInt32) : String :=
  let n := a.toNat
  ".".intercalate ([n / 16777216, n / 65536 % 256, n / 256 % 256, n % 256].map toString)

end AppLinks.Ipv4
