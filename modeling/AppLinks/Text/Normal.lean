import AppLinks.Text.CombiningClass
import AppLinks.Text.Composition

/-!
# Composed form

One spelling for texts that differ only in how letters and marks are put together: every letter is
taken apart, the marks behind it are ordered by class, and what belongs together is composed again.
Letters that come apart and are never composed again are not taken apart here.
-/

namespace AppLinks.Text

/-! ## Syllables

The syllables of one script are computed: an initial, a medial and perhaps a final letter. -/

namespace Syllable

def initials : Nat := 0x1100
def medials : Nat := 0x1161
def finals : Nat := 0x11A7
def first : Nat := 0xAC00
def medialCount : Nat := 21
def finalCount : Nat := 28
def count : Nat := 11172

def compose? (a b : Nat) : Option Nat :=
  if initials ≤ a && a < initials + 19 && medials ≤ b && b < medials + medialCount then
    some (first + ((a - initials) * medialCount + (b - medials)) * finalCount)
  else if first ≤ a && a < first + count && (a - first) % finalCount == 0 && finals < b
      && b < finals + finalCount then
    some (a + (b - finals))
  else none

/-- The two that a syllable is composed of. -/
def parts? (n : Nat) : Option (Nat × Nat) :=
  if first ≤ n && n < first + count then
    let i := n - first
    if i % finalCount == 0 then
      some (initials + i / (medialCount * finalCount),
        medials + i % (medialCount * finalCount) / finalCount)
    else some (n - i % finalCount, finals + i % finalCount)
  else none

end Syllable

/-! ## Pairs -/

def composedIn (a : Char) : List Char → Option Char
  | x :: y :: l => if x = a then some y else composedIn a l
  | _ => none

def firstIn (c : Char) : List Char → Option Char
  | x :: y :: l => if y = c then some x else firstIn c l
  | _ => none

def compose? (a b : Char) : Option Char :=
  match Syllable.compose? a.toNat b.toNat with
  | some n => some (Char.ofNat n)
  | none =>
    compositions.findSome? fun e => if e.1 = b.toNat then composedIn a e.2.toList else none

/-- The two characters that one is composed of. -/
def parts? (c : Char) : Option (Char × Char) :=
  match Syllable.parts? c.toNat with
  | some (a, b) => some (Char.ofNat a, Char.ofNat b)
  | none =>
    compositions.findSome? fun e => (firstIn c e.2.toList).map fun a => (a, Char.ofNat e.1)

/-! ## Composed form -/

/-- A character taken apart; no character comes apart more than `depth` times. -/
def decompose : Nat → Char → List Char
  | 0, c => [c]
  | depth + 1, c =>
    match parts? c with
    | some (a, b) => decompose depth a ++ [b]
    | none => [c]

/-- Puts a mark behind those of a lower class. -/
def place (c : Char) : List Char → List Char
  | [] => [c]
  | d :: ds =>
    if 0 < combiningClass d && combiningClass d < combiningClass c then d :: place c ds
    else c :: d :: ds

def orderMarks (cs : List Char) : List Char :=
  cs.foldr place []

/-- Composes a letter with what follows it; `held` are the marks between that stay on their own,
the last one first. A mark is kept from the letter by one of its own class or a higher one. -/
def composeOn (letter : Char) (held : List Char) : List Char → List Char
  | [] => letter :: held.reverse
  | c :: cs =>
    let free := match held with
      | [] => true
      | d :: _ => combiningClass d < combiningClass c
    match if free then compose? letter c else none with
    | some l => composeOn l held cs
    | none =>
      if combiningClass c = 0 then letter :: held.reverse ++ composeOn c [] cs
      else composeOn letter (c :: held) cs

def composeAll : List Char → List Char
  | [] => []
  | c :: cs => if combiningClass c = 0 then composeOn c [] cs else c :: composeAll cs

def normalize (cs : List Char) : List Char :=
  composeAll (orderMarks (cs.flatMap (decompose 4)))

end AppLinks.Text
