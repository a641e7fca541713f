import AppLinks.Text.Utf8
import AppLinks.Wildcard.Item

/-!
# Tokens of a wildcard

A wildcard's tokens, found by going from one opening to the next without reading what lies between.
`customLists` are the lists behind the names that the link set has to explain: all that a
wildcard's meaning takes from it.
-/

namespace AppLinks

/-- A closed token: how many bytes come before its opening, and its name. -/
structure Token where
  offset : Nat
  name : String
  deriving DecidableEq, Repr

namespace Token

/-- The closed tokens in order, and where the opening stands that ends the search because nothing
closes it. -/
structure Search where
  tokens : List Token
  openAt : Option Nat
  deriving DecidableEq, Repr

def Search.cons (t : Token) (s : Search) : Search := { s with tokens := t :: s.tokens }

/-! ## Finding -/

/-- The text before the next opening and the text behind it. -/
def breakOpening : List Char → Option (List Char × List Char)
  | [] => none
  | '$' :: '(' :: cs => some ([], cs)
  | c :: cs => (breakOpening cs).map fun p => (c :: p.1, p.2)

/-- The text before the next closing parenthesis and the text behind it. -/
def breakClosing : List Char → Option (List Char × List Char)
  | [] => none
  | c :: cs =>
    if c = ')' then some ([], cs)
    else (breakClosing cs).map fun p => (c :: p.1, p.2)

theorem eq_of_breakOpening {cs : List Char} {p : List Char × List Char}
    (h : breakOpening cs = some p) : cs = p.1 ++ '$' :: '(' :: p.2 := by
  fun_induction breakOpening cs generalizing p with
  | case1 => simp at h
  | case2 cs => simp at h; simp [← h]
  | case3 c cs _ ih =>
    obtain ⟨q, hq, rfl⟩ := Option.map_eq_some_iff.mp h
    simpa using ih hq

theorem eq_of_breakClosing {cs : List Char} {p : List Char × List Char}
    (h : breakClosing cs = some p) : cs = p.1 ++ ')' :: p.2 := by
  induction cs generalizing p with
  | nil => simp [breakClosing] at h
  | cons c cs ih =>
    simp only [breakClosing] at h
    split at h
    · next hc => cases h; simp [hc]
    · obtain ⟨q, hq, rfl⟩ := Option.map_eq_some_iff.mp h
      simpa using ih hq

theorem length_breakOpening {cs before inner : List Char}
    (h : breakOpening cs = some (before, inner)) : inner.length < cs.length := by
  simp [eq_of_breakOpening h]
  omega

theorem length_breakClosing {cs name rest : List Char}
    (h : breakClosing cs = some (name, rest)) : rest.length < cs.length := by
  simp [eq_of_breakClosing h]
  omega

/-- The tokens of `cs`, which begins `offset` bytes into the wildcard. -/
def findFrom (offset : Nat) (cs : List Char) : Search :=
  match _h : breakOpening cs with
  | none => ⟨[], none⟩
  | some (before, inner) =>
    let start := offset + Text.Utf8.size before
    match h' : breakClosing inner with
    | none => ⟨[], some start⟩
    | some (name, rest) =>
      .cons ⟨start, String.ofList name⟩ (findFrom (start + 3 + Text.Utf8.size name) rest)
termination_by cs.length
decreasing_by
  have := length_breakOpening _h
  have := length_breakClosing h'
  omega

def find (wildcard : String) : Search :=
  findFrom 0 wildcard.toList

/-! ## Lists -/

def isBuiltin (name : String) : Bool :=
  (Item.builtin? name).isSome

/-- What the link set says for every name that is not built in, in order. -/
def customLists (s : Substitutions) (wildcard : String) : List (Option (List String)) :=
  ((find wildcard).tokens.filter fun t => !isBuiltin t.name).map fun t => s.get? t.name

end Token

end AppLinks
