import AppLinks.Json.Numeral

/-!
# JSON values

The members of an object are a list, so that their order and repetitions are visible.
-/

namespace AppLinks

inductive Json where
  | null
  | bool (b : Bool)
  | number (n : Json.Numeral)
  | string (s : String)
  | array (items : List Json)
  | object (members : List (String × Json))
  deriving Inhabited, Repr

namespace Json

def ofNat (n : Nat) : Json := .number (.ofNat n)

def strings (ss : List String) : Json := .array (ss.map .string)

/-- The last member of a name, when the value is an object that has one. -/
def get? (j : Json) (name : String) : Option Json :=
  match j with
  | .object ms => ms.reverse.lookup name
  | _ => none

end Json

end AppLinks
