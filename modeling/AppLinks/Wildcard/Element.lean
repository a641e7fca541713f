import AppLinks.Text.Utf8

/-!
# Elements of a wildcard

A wildcard is read from left to right as single characters, runs, tokens and literal characters.
A token spans from its opening to the next closing parenthesis, whatever lies between; one that is
never closed takes the rest of the wildcard.

    (scan w).flatMap text = w                                            (text_scan)
-/

namespace AppLinks

inductive Element where
  /-- `?`: any one character. -/
  | one
  /-- `*`: any number of characters. -/
  | run
  /-- `$(name)` -/
  | token (name : String)
  /-- `$(` and all that follows it, without a closing parenthesis. -/
  | unclosed (rest : String)
  | literal (c : Char)
  deriving DecidableEq, Repr

namespace Element

/-- The element that a character is outside tokens. -/
def ofChar (c : Char) : Element :=
  if c = '?' then .one else if c = '*' then .run else .literal c

/-- Reads on; `opened` holds what was read of an open token, its last character first. -/
def scanFrom : Option (List Char) → List Char → List Element
  | none, [] => []
  | some opened, [] => [.unclosed (String.ofList opened.reverse)]
  | some opened, c :: cs =>
    if c = ')' then .token (String.ofList opened.reverse) :: scanFrom none cs
    else scanFrom (some (c :: opened)) cs
  | none, '$' :: '(' :: cs => scanFrom (some []) cs
  | none, c :: cs => ofChar c :: scanFrom none cs

def scan (wildcard : String) : List Element :=
  scanFrom none wildcard.toList

/-! ## Text -/

/-- The characters that an element was read from. -/
def text : Element → List Char
  | .one => ['?']
  | .run => ['*']
  | .token name => '$' :: '(' :: name.toList ++ [')']
  | .unclosed rest => '$' :: '(' :: rest.toList
  | .literal c => [c]

/-- How many bytes of the wildcard an element takes. -/
def size (e : Element) : Nat :=
  Text.Utf8.size e.text

theorem text_ofChar (c : Char) : (ofChar c).text = [c] := by
  unfold ofChar
  split
  · next h => simp [text, h]
  · split
    · next h => simp [text, h]
    · rfl

theorem text_scanFrom (opened : Option (List Char)) (cs : List Char) :
    (scanFrom opened cs).flatMap text
      = (match opened with
          | none => []
          | some o => '$' :: '(' :: o.reverse) ++ cs := by
  fun_induction scanFrom opened cs with
  | case1 => rfl
  | case2 => simp [text]
  | case3 opened cs ih => simp [text, ih]
  | case4 opened c cs h ih => simp [ih]
  | case5 cs ih => simp [ih]
  | case6 c cs h ih => simp [text_ofChar, ih]

theorem text_scan (wildcard : String) : (scan wildcard).flatMap text = wildcard.toList :=
  text_scanFrom none wildcard.toList

end Element

end AppLinks
