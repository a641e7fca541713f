import AppLinks.Rules
import AppLinks.Text.CaseFold
import AppLinks.Wildcard.Element
import AppLinks.Wildcard.Item
import AppLinks.Wildcard.Piece

/-!
# Patterns

A wildcard compiles to a pattern when each of its tokens is closed and has a meaning, and when the
pattern is not too large. The first element that fails, from the left, decides the error. A
pattern is written as an anchored regular expression and matches whole texts; without regard to
case both sides are folded.

The limit is one on the automaton of the expression. No automaton is built here; the weights of the
items only estimate how large it would be. A thousand question marks are under the limit by the
estimate and twenty thousand are over it, as they should be, but for a pattern near the limit the
estimate may be wrong on either side.
-/

namespace AppLinks

/-! ## Errors -/

/-- Why a wildcard never matches. -/
inductive PatternError where
  | unresolvedToken (name : String)
  | unterminatedToken (offset : Nat)
  /-- The size that is estimated for its automaton is over the limit. -/
  | tooLarge
  deriving DecidableEq, Repr

namespace PatternError

/-- How many bytes the automaton of a pattern may take. -/
def sizeLimit : Nat := 10485760

def message : PatternError → String
  | .unresolvedToken name => "Unresolved substitution token: $(" ++ name ++ ")"
  | .unterminatedToken offset =>
    "Unterminated substitution token at offset " ++ toString offset
  | .tooLarge =>
    "Invalid generated pattern: Compiled regex exceeds size limit of " ++ toString sizeLimit ++
      " bytes."

end PatternError

/-! ## Items -/

namespace Element

/-- What an element stands for; `offset` is how many bytes come before it. -/
def resolve (s : Substitutions) (offset : Nat) : Element → Except PatternError Item
  | .one => .ok .one
  | .run => .ok .run
  | .literal c => .ok (.literal c)
  | .unclosed _ => .error (.unterminatedToken offset)
  | .token name =>
    match Item.ofToken? s name with
    | some i => .ok i
    | none => .error (.unresolvedToken name)

def resolveFrom (s : Substitutions) : Nat → List Element → Except PatternError (List Item)
  | _, [] => .ok []
  | offset, e :: es =>
    match e.resolve s offset with
    | .error err => .error err
    | .ok i => (resolveFrom s (offset + e.size) es).map (i :: ·)

end Element

namespace Item

/-- About how many bytes the automaton for a text takes. -/
def wordWeight (s : String) : Nat := 40 + 40 * s.utf8ByteSize

/-- About how many bytes the automaton for an item takes; one that admits every character has a
branch for every length of its encoding. -/
def weight : Item → Nat
  | .one => 600
  | .run => 640
  | .anyOf k => 40 + 40 * k.ranges.length
  | .words ws => ws.foldr (fun w n => wordWeight w + n) 40
  | .literal c => 40 * c.utf8Size

def totalWeight (is : List Item) : Nat :=
  is.foldr (fun i n => i.weight + n) 0

/-- What the item takes, after `f` on both sides. -/
def piece (f : Char → Char) : Item → Piece
  | .one => .any
  | .run => .run
  | .anyOf k => .among (k.members.map f)
  | .words ws => .words (ws.map fun w => w.toList.map f)
  | .literal c => .among [f c]

end Item

/-! ## Patterns -/

/-- A wildcard that compiles. -/
structure Pattern where
  caseSensitive : Bool
  items : List Item
  deriving DecidableEq, Repr

namespace Pattern

/-- The expression of a pattern, anchored at both ends. -/
def source (p : Pattern) : String :=
  "\\A(?:" ++ String.join (p.items.map (·.expression)) ++ ")\\z"

def compile (wildcard : String) (r : Rules) : Except PatternError Pattern :=
  match Element.resolveFrom r.substitutions 0 (Element.scan wildcard) with
  | .error e => .error e
  | .ok items =>
    -- an estimate stands for the size, see above
    if Item.totalWeight items ≤ PatternError.sizeLimit then .ok ⟨r.caseSensitive, items⟩
    else .error .tooLarge

/-- What stands for a character in a comparison. -/
def canonical (p : Pattern) : Char → Char :=
  if p.caseSensitive then id else Text.fold

/-- Whether a pattern takes the whole of a text. -/
def accepts (p : Pattern) (text : String) : Bool :=
  Piece.accepts (p.items.map (·.piece p.canonical)) (text.toList.map p.canonical)

end Pattern

end AppLinks
