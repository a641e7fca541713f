import AppLinks.Json.Value

/-!
# Writing JSON

A layout says what stands between the tokens. The compact one puts nothing there; the indented one
puts every item and member on a line of its own, two spaces deeper than its container, and a space
after every colon. Empty containers hold nothing in either.
-/

namespace AppLinks.Json

inductive Layout where
  | compact
  | indented
  deriving DecidableEq, Repr

/-- What stands before an item `depth` containers deep, or before the close of its container. -/
def Layout.line : Layout → Nat → List Char
  | .compact, _ => []
  | .indented, depth => '\n' :: List.replicate (2 * depth) ' '

def Layout.colon : Layout → List Char
  | .compact => [':']
  | .indented => [':', ' ']

/-! ## Strings -/

def hexDigit (n : Nat) : Char :=
  Char.ofNat (if n < 10 then 48 + n else 87 + n)

/-- A control is written in its short form or by its code; a quote and a backslash after a
backslash; all else as it is. -/
def escapeChar (c : Char) : List Char :=
  if c = '"' then ['\\', '"']
  else if c = '\\' then ['\\', '\\']
  else if c = '\x08' then ['\\', 'b']
  else if c = '\x0c' then ['\\', 'f']
  else if c = '\n' then ['\\', 'n']
  else if c = '\r' then ['\\', 'r']
  else if c = '\t' then ['\\', 't']
  else if c.toNat < 0x20 then
    ['\\', 'u', '0', '0', hexDigit (c.toNat / 16), hexDigit (c.toNat % 16)]
  else [c]

def stringChars (s : String) : List Char :=
  '"' :: s.toList.flatMap escapeChar ++ ['"']

/-! ## Values -/

def word (s : String) : List Char := s.toList

mutual

/-- The text of a value that stands `depth` containers deep. -/
def chars (l : Layout) (depth : Nat) : Json → List Char
  | .null => word "null"
  | .bool true => word "true"
  | .bool false => word "false"
  | .number n => n.text
  | .string s => stringChars s
  | .array [] => ['[', ']']
  | .array (j :: js) =>
    '[' :: l.line (depth + 1) ++ chars l (depth + 1) j ++ itemChars l (depth + 1) js ++
      l.line depth ++ [']']
  | .object [] => ['\x7b', '\x7d']
  | .object ((k, j) :: ms) =>
    '\x7b' :: l.line (depth + 1) ++ stringChars k ++ l.colon ++ chars l (depth + 1) j ++
      memberChars l (depth + 1) ms ++ l.line depth ++ ['\x7d']

/-- The items after the first. -/
def itemChars (l : Layout) (depth : Nat) : List Json → List Char
  | [] => []
  | j :: js => ',' :: l.line depth ++ chars l depth j ++ itemChars l depth js

/-- The members after the first. -/
def memberChars (l : Layout) (depth : Nat) : List (String × Json) → List Char
  | [] => []
  | (k, j) :: ms =>
    ',' :: l.line depth ++ stringChars k ++ l.colon ++ chars l depth j ++ memberChars l depth ms

end

def render (l : Layout) (j : Json) : String :=
  String.ofList (chars l 0 j)

end AppLinks.Json
