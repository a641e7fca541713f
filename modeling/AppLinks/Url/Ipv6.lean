import AppLinks.Text.Pieces
import AppLinks.Url.Ipv4

/-!
# Addresses of eight pieces

Eight hexadecimal numbers between colons. Once, two colons stand for as many zeros as are missing;
the last two pieces may be given as four decimal bytes. Written, the first of the longest runs of
zeros is left out.
-/

namespace AppLinks.Ipv6

/-! ## Reading -/

def piece? (cs : List Char) : Option Nat :=
  if cs.isEmpty || 4 < cs.length then none else Ipv4.numeral? 16 cs

/-- A decimal byte without leading zeros. -/
def byte? (cs : List Char) : Option Nat :=
  if cs.isEmpty || (1 < cs.length && cs.head? == some '0') then none
  else (Ipv4.numeral? 10 cs).filter (· < 256)

def lastPieces? (cs : List Char) : Option (List Nat) :=
  if cs.contains '.' then
    match (Text.split (· == '.') cs).mapM byte? with
    | some [a, b, c, d] => some [a * 256 + b, c * 256 + d]
    | _ => none
  else (piece? cs).map fun n => [n]

/-- The pieces between single colons. -/
def pieces? (cs : List Char) : Option (List Nat) :=
  if cs.isEmpty then some []
  else
    let ps := Text.split (· == ':') cs
    match ps.dropLast.mapM piece?, ps.getLast?.bind lastPieces? with
    | some front, some back => some (front ++ back)
    | _, _ => none

/-- What comes before and behind the first two colons in a row. -/
def breakGap : List Char → Option (List Char × List Char)
  | [] => none
  | ':' :: ':' :: cs => some ([], cs)
  | c :: cs => (breakGap cs).map fun p => (c :: p.1, p.2)

def parse? (cs : List Char) : Option (List Nat) :=
  match breakGap cs with
  | none => (pieces? cs).filter fun ps => ps.length == 8
  | some (before, behind) =>
    match pieces? before, pieces? behind with
    | some ps, some qs =>
      let given := ps.length + qs.length
      if before.contains '.' || 7 < given then none
      else some (ps ++ List.replicate (8 - given) 0 ++ qs)
    | _, _ => none

/-! ## Writing -/

/-- How many zeros the pieces begin with. -/
def zeros (ps : List Nat) : Nat := (ps.takeWhile (· == 0)).length

/-- Where the first of the longest runs of zeros begins, and its length. -/
def longestRun (ps : List Nat) : Nat × Nat :=
  (List.range ps.length).foldl
    (fun best i => if best.2 < zeros (ps.drop i) then (i, zeros (ps.drop i)) else best) (0, 0)

def hex (n : Nat) : String := String.ofList (Nat.toDigits 16 n)

def text (ps : List Nat) : String :=
  let (start, length) := longestRun ps
  let join (l : List Nat) := ":".intercalate (l.map hex)
  if length < 2 then join ps
  else join (ps.take start) ++ "::" ++ join (ps.drop (start + length))

end AppLinks.Ipv6
