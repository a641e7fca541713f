/-!
# Character classes

The tokens that stand for one character, all of them ASCII.
-/

namespace AppLinks

inductive CharClass where
  | alpha
  | upper
  | lower
  | alnum
  | digit
  | xdigit
  deriving DecidableEq, Repr

namespace CharClass

def all : List CharClass := [.alpha, .upper, .lower, .alnum, .digit, .xdigit]

def name : CharClass → String
  | .alpha => "alpha"
  | .upper => "upper"
  | .lower => "lower"
  | .alnum => "alnum"
  | .digit => "digit"
  | .xdigit => "xdigit"

def ofName? (n : String) : Option CharClass :=
  all.find? (·.name == n)

/-- The intervals that make up a class. -/
def ranges : CharClass → List (Char × Char)
  | .alpha => [('a', 'z'), ('A', 'Z')]
  | .upper => [('A', 'Z')]
  | .lower => [('a', 'z')]
  | .alnum => [('a', 'z'), ('A', 'Z'), ('0', '9')]
  | .digit => [('0', '9')]
  | .xdigit => [('0', '9'), ('a', 'f'), ('A', 'F')]

/-- The characters from the first of a pair to the second. -/
def interval (r : Char × Char) : List Char :=
  (List.range (r.2.toNat + 1 - r.1.toNat)).map fun i => Char.ofNat (r.1.toNat + i)

def members (k : CharClass) : List Char :=
  k.ranges.flatMap interval

/-- A class as a bracket expression. -/
def expression (k : CharClass) : String :=
  "[" ++ String.ofList (k.ranges.flatMap fun r => [r.1, '-', r.2]) ++ "]"

theorem ofName?_name (k : CharClass) : ofName? k.name = some k := by
  cases k <;> decide

theorem name_of_ofName? {n : String} {k : CharClass} (h : ofName? n = some k) : k.name = n := by
  simpa using List.find?_some h

end CharClass

end AppLinks
