import AppLinks.Document.Basic
import AppLinks.Wildcard.CharClass
import AppLinks.Wildcard.Locale

/-!
# Items of a pattern

What a wildcard's elements stand for once their tokens are looked up. A token's name is that of a
character class, of a table of locale codes, or of a list that comes with the link set, in this
order. Every item is also written as an expression in the usual syntax of regular expressions.
-/

namespace AppLinks

inductive Item where
  /-- Any one character. -/
  | one
  /-- Any number of characters. -/
  | run
  | anyOf (k : CharClass)
  /-- One of the words; none can be met when there are none. -/
  | words (ws : List String)
  | literal (c : Char)
  deriving DecidableEq, Repr

namespace Item

/-! ## Tokens -/

/-- What a token's name stands for whatever the link set says. -/
def builtin? (name : String) : Option Item :=
  match CharClass.ofName? name with
  | some k => some (.anyOf k)
  | none =>
    if name = "region" then some (.words Locale.regions)
    else if name = "lang" then some (.words Locale.languages)
    else none

def ofToken? (s : Substitutions) (name : String) : Option Item :=
  builtin? name <|> (s.get? name).map .words

/-! ## Expressions -/

/-- Characters with a meaning in an expression; a backslash takes it from them. -/
def reserved : List Char :=
  ['\\', '.', '+', '*', '?', '(', ')', '|', '[', ']', '\x7b', '\x7d', '^', '$', '#', '&', '-', '~']

def escapeChar (c : Char) : List Char :=
  if reserved.contains c then ['\\', c] else [c]

def escape (s : String) : String :=
  String.ofList (s.toList.flatMap escapeChar)

/-- Met by nothing: not a blank, and nothing else either. -/
def never : String := "[^\\s\\S]"

def alternation : List String → String
  | [] => never
  | ws => "(?:" ++ "|".intercalate (ws.map escape) ++ ")"

def expression : Item → String
  | .one => "."
  | .run => ".*"
  | .anyOf k => k.expression
  | .words ws => alternation ws
  | .literal c => String.ofList (escapeChar c)

end Item

end AppLinks
