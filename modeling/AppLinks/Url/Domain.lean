import AppLinks.Text.Direction
import AppLinks.Text.Joining
import AppLinks.Text.Mark
import AppLinks.Text.Normal
import AppLinks.Text.Pieces
import AppLinks.Url.DomainTable
import AppLinks.Url.Punycode

/-!
# Domain names in ASCII

A domain name is brought to one spelling character by character and then label by label written in
ASCII. It is refused when a character may not stand in a domain name, when a label breaks a rule of
its script, or when a label in the ASCII form spells nothing that would be written so.
-/

namespace AppLinks.Domain

/-! ## Characters -/

/-- Where a run of replacements begins and ends does not matter to the one at `n`. -/
def replacement? (n : Nat) (run : Nat × String) : Option Char :=
  if run.1 ≤ n then run.2.toList[n - run.1]? else none

def spelling? (n : Nat) (run : Nat × String) : Option (List Char) :=
  if run.1 ≤ n then (Text.split (· == '_') run.2.toList)[n - run.1]? else none

/-- What a character becomes; nothing when a domain name cannot hold it. -/
def spell? (c : Char) : Option (List Char) :=
  let n := c.toNat
  if DomainTable.dropped.contains c then some []
  else
    match DomainTable.shifted.find? (·.covers n) with
    | some r => some [Char.ofNat (n + r.shift).toNat]
    | none =>
      match DomainTable.replaced.findSome? (replacement? n) with
      | some d => some [d]
      | none =>
        match DomainTable.spelled.findSome? (spelling? n) with
        | some ds => some ds
        | none => if DomainTable.kept.contains c then some [c] else none

def isKept (c : Char) : Bool := spell? c == some [c]

def isAscii (c : Char) : Bool := c.toNat < 128

/-- ASCII characters that a domain name cannot hold, controls apart. -/
def forbidden : List Char :=
  [' ', '%', '#', '/', ':', '<', '>', '?', '@', '[', '\\', ']', '^', '|']

def isForbidden (c : Char) : Bool :=
  c.toNat < 0x20 || c.toNat == 0x7F || forbidden.contains c

/-! ## Labels -/

/-- A mark that cuts the inherent vowel, after which letters may be joined by hand. -/
def endsInVirama (before : List Char) : Bool :=
  before.head?.any fun c => Text.combiningClass c == 9

/-- Whether a joiner or non-joiner may stand between `before` (its last character first) and
`after`. -/
def joins (before : List Char) (c : Char) (after : List Char) : Bool :=
  if c = '\u200D' then endsInVirama before
  else if c = '\u200C' then
    endsInVirama before ||
      ((before.dropWhile Text.transparent.contains).head?.any Text.joinsNext.contains &&
        (after.dropWhile Text.transparent.contains).head?.any Text.joinsPrevious.contains)
  else true

def joinersFit (before : List Char) : List Char → Bool
  | [] => true
  | c :: cs => joins before c cs && joinersFit (c :: before) cs

def isAsciiForm : List Char → Bool
  | 'x' :: 'n' :: '-' :: '-' :: _ => true
  | _ => false

/-- The rules for one label, its direction apart. -/
def isWellFormed (label : List Char) : Bool :=
  label.all isKept && !label.head?.any Text.marks.contains && joinersFit [] label &&
    !isAsciiForm label

open Text.Direction in
/-- The rule for a label in a name that has letters running from right to left. -/
def runsOneWay (label : List Char) : Bool :=
  let ds := label.map Text.Direction.of
  let last := (ds.reverse.dropWhile (· == .mark)).head?
  match ds.head? with
  | none => true
  | some .rightToLeft =>
    ds.all (fun d => d != .leftToRight && d != .blank) &&
      (last == some .rightToLeft || last == some .europeanNumber || last == some .arabicNumber) &&
      !(ds.contains .europeanNumber && ds.contains .arabicNumber)
  | some .leftToRight =>
    ds.all (fun d => d != .rightToLeft && d != .arabicNumber && d != .blank) &&
      (last == some .leftToRight || last == some .europeanNumber)
  | some _ => false

def hasRightToLeft (label : List Char) : Bool :=
  label.any fun c =>
    let d := Text.Direction.of c
    d == .rightToLeft || d == .arabicNumber

/-- The characters that a label stands for: one in the ASCII form has to spell characters above
ASCII in their only spelling. -/
def read? (label : List Char) : Option (List Char) :=
  let checked (l : List Char) := if isWellFormed l then some l else none
  if isAsciiForm label then
    if label.all isAscii then
      match Punycode.decode? (label.drop 4) with
      | some l => if l.all isAscii || Text.normalize l != l then none else checked l
      | none => none
    else none
  else checked label

def write (label : List Char) : List Char :=
  if label.all isAscii then label else ['x', 'n', '-', '-'] ++ Punycode.encode label

/-! ## Names -/

def joinLabels (labels : List (List Char)) : List Char :=
  List.intercalate ['.'] labels

/-- A domain name in ASCII, if it is one. -/
def toAscii? (name : List Char) : Option (List Char) := do
  let spelled ← name.mapM spell?
  let labels := Text.split (· == '.') (Text.normalize spelled.flatten)
  let readings ← labels.mapM read?
  if readings.any hasRightToLeft && !readings.all runsOneWay then none
  else
    let text := joinLabels (labels.map write)
    if text.any isForbidden then none else some text

end AppLinks.Domain
