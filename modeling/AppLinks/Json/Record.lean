import AppLinks.Json.Skip

/-!
# Records

A record is read from an object, whose known members may come in any order, each at most once, and
whose other members are passed over; or from an array that holds the fields in their order, the
last ones left out at will. A field that is required has to be there in both.
-/

namespace AppLinks.Json

/-- A field of a record `α`: how to read its value, and what that does to the record. -/
structure RecordField (α : Type) where
  name : String
  isRequired : Bool
  read : Reader (α → α)

namespace RecordField

variable {α β : Type}

/-- A field that may be left out; then the record keeps what it starts with. -/
def defaulted (name : String) (r : Reader β) (set : β → α → α) : RecordField α :=
  ⟨name, false, fun depth input => (r depth input).map fun p => (set p.1, p.2)⟩

def required (name : String) (r : Reader β) (set : β → α → α) : RecordField α :=
  ⟨name, true, fun depth input => (r depth input).map fun p => (set p.1, p.2)⟩

end RecordField

/-- The fields read so far and the record they have made. -/
structure Partial (α : Type) where
  seen : List String
  record : α

/-- A known member sets its field, once; any other is passed over. -/
def readField {α : Type} (fields : List (RecordField α)) (depth : Nat) (p : Partial α)
    (name : String) (input : Input) : Except Fault (Partial α × Input) :=
  match fields.find? (·.name == name) with
  | none => do
    let input ← readColon input
    let input ← skip input
    .ok (p, input)
  | some f =>
    if p.seen.contains name then .error (.shape (.duplicateField name) input)
    else do
      let input ← readColon input
      let (set, input) ← f.read depth input
      .ok (⟨name :: p.seen, set p.record⟩, input)

/-- The record of an object's members. -/
def recordOfMembers {α : Type} (fields : List (RecordField α)) (blank : α) (depth : Nat)
    (input : Input) : Except Fault (α × Input) := do
  let (p, rest) ← members (readField fields depth) (input.length + 1) true ⟨[], blank⟩ input
  match fields.find? fun f => f.isRequired && !p.seen.contains f.name with
  | some f => .error (.shape (.missingField f.name) rest)
  | none => .ok (p.record, rest)

/-- The record of an array's items, `index` of them read before. -/
def recordOfItems {α : Type} (title : String) (depth : Nat) :
    List (RecordField α) → Nat → α → Input → Except Fault (α × Input)
  | [], _, record, input => .ok (record, input)
  | f :: fields, index, record, input => do
    let (more, input) ← nextItem (index == 0) input
    if more then
      let (set, input) ← f.read depth input
      recordOfItems title depth fields (index + 1) (set record) input
    else if f.isRequired then .error (.shape (.invalidLength index title) input)
    else recordOfItems title depth fields index record input

/-- How a record with `count` fields is described where too few items are found. -/
def recordTitle (name : String) (count : Nat) : String :=
  "struct " ++ name ++ " with " ++ toString count ++ (if count = 1 then " element" else " elements")

/-- A record that starts as `blank`. -/
def Reader.record {α : Type} (name : String) (fields : List (RecordField α)) (blank : α) :
    Reader α :=
  fun depth input => do
    let input ← nextValue input
    match input with
    | b :: rest =>
      if b = byte '[' then
        deeper depth input fun depth => enclosed leaveArray
          (recordOfItems (recordTitle name fields.length) depth fields 0 blank rest)
      else if b = byte '\x7b' then
        deeper depth input fun depth => enclosed leaveObject
          (recordOfMembers fields blank depth rest)
      else .error (unexpected ("struct " ++ name) input)
    | [] => .error (unexpected ("struct " ++ name) input)

end AppLinks.Json
