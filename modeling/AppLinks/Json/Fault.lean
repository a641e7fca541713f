import AppLinks.Json.Value
import AppLinks.Text.Quoted

/-!
# What can be wrong with a JSON text

A fault has a cause and remembers what was left of the input when it was noticed. A fault of the
text itself is reported where it is noticed. A fault of the shape of a container (a member missing
or repeated, too few items) is noticed inside it and reported where the reader stands once it has
tried to leave the container; until then it has no place.
-/

namespace AppLinks.Json

/-- A value met where another kind was expected. -/
inductive Found where
  | null
  | bool (b : Bool)
  | number (v : Numeral.Value)
  | string (s : String)
  | sequence
  | map

/-- Floating-point numbers are written positionally from 1e-5 up to 1e16. -/
def numberLayout : Decimal.Layout := ⟨-5, 16⟩

def Found.text : Found → String
  | .null => "null"
  | .bool b => "boolean `" ++ (if b then "true" else "false") ++ "`"
  | .number (.integer n) => "integer `" ++ toString n ++ "`"
  | .number (.float x) => "floating point `" ++ numberLayout.ofFloat x ++ "`"
  | .string s => "string " ++ Text.quote s
  | .sequence => "sequence"
  | .map => "map"

inductive Cause where
  | eofInList
  | eofInObject
  | eofInString
  | eofInValue
  | expectedColon
  | expectedListCommaOrEnd
  | expectedObjectCommaOrEnd
  | expectedIdent
  | expectedValue
  | invalidEscape
  | invalidNumber
  | numberOutOfRange
  | invalidUnicode
  | controlCharacter
  | keyMustBeString
  | loneLeadingSurrogate
  | unexpectedEndOfHexEscape
  | trailingComma
  | trailingCharacters
  | recursionLimit
  | invalidType (found : Found) (expected : String)
  | invalidLength (length : Nat) (expected : String)
  | missingField (name : String)
  | duplicateField (name : String)
  /-- A value that fits none of the shapes that `expecting` describes. -/
  | unrecognized (expecting : String)

def Cause.message : Cause → String
  | .eofInList => "EOF while parsing a list"
  | .eofInObject => "EOF while parsing an object"
  | .eofInString => "EOF while parsing a string"
  | .eofInValue => "EOF while parsing a value"
  | .expectedColon => "expected `:`"
  | .expectedListCommaOrEnd => "expected `,` or `]`"
  | .expectedObjectCommaOrEnd => "expected `,` or `\x7d`"
  | .expectedIdent => "expected ident"
  | .expectedValue => "expected value"
  | .invalidEscape => "invalid escape"
  | .invalidNumber => "invalid number"
  | .numberOutOfRange => "number out of range"
  | .invalidUnicode => "invalid unicode code point"
  | .controlCharacter => "control character (\\u0000-\\u001F) found while parsing a string"
  | .keyMustBeString => "key must be a string"
  | .loneLeadingSurrogate => "lone leading surrogate in hex escape"
  | .unexpectedEndOfHexEscape => "unexpected end of hex escape"
  | .trailingComma => "trailing comma"
  | .trailingCharacters => "trailing characters"
  | .recursionLimit => "recursion limit exceeded"
  | .invalidType found expected => "invalid type: " ++ found.text ++ ", expected " ++ expected
  | .invalidLength n expected => "invalid length " ++ toString n ++ ", expected " ++ expected
  | .missingField name => "missing field `" ++ name ++ "`"
  | .duplicateField name => "duplicate field `" ++ name ++ "`"
  | .unrecognized expecting => expecting

structure Fault where
  cause : Cause
  /-- What was left of the input. -/
  rest : List UInt8
  /-- Whether `rest` is where the fault is reported. -/
  placed : Bool

namespace Fault

/-- Reported behind what has been read. -/
def behind (cause : Cause) (rest : List UInt8) : Fault := ⟨cause, rest, true⟩

/-- Reported behind the next byte, when there is one. -/
def atNext (cause : Cause) (rest : List UInt8) : Fault := ⟨cause, rest.tail, true⟩

/-- Not yet placed. -/
def shape (cause : Cause) (rest : List UInt8) : Fault := ⟨cause, rest, false⟩

end Fault

/-! ## Places -/

/-- A line, from one, and the number of bytes before the place on it. -/
structure Position where
  line : Nat
  column : Nat
  deriving DecidableEq, Repr

/-- The place behind the bytes `consumed`. -/
def Position.after (consumed : List UInt8) : Position :=
  ⟨1 + consumed.count 0x0A, (consumed.reverse.takeWhile (· ≠ 0x0A)).length⟩

/-- A fault as it is reported: `position` is missing when the fault never got a place. -/
structure ReadError where
  cause : Cause
  position : Option Position

def ReadError.ofFault (input : List UInt8) (f : Fault) : ReadError :=
  let consumed := input.take (input.length - f.rest.length)
  ⟨f.cause, if f.placed then some (.after consumed) else none⟩

def ReadError.line (e : ReadError) : Nat := e.position.elim 0 (·.line)

def ReadError.column (e : ReadError) : Nat := e.position.elim 0 (·.column)

def ReadError.message (e : ReadError) : String :=
  match e.position with
  | none => e.cause.message
  | some p => e.cause.message ++ " at line " ++ toString p.line ++ " column " ++ toString p.column

end AppLinks.Json
