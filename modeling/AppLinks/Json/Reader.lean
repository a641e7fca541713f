import AppLinks.Json.Fault
import AppLinks.Text.Utf8

/-!
# Reading JSON

A reader takes how many containers may still be nested and what is left of the input, and gives a
value and what is left behind it, or a fault. The readers follow the text strictly from left to
right, so of two faults the one met first is reported.
-/

namespace AppLinks.Json

abbrev Input := List UInt8

/-- Reads an `α` with `depth - 1` containers still to be nested. -/
abbrev Reader (α : Type) := (depth : Nat) → Input → Except Fault (α × Input)

/-! ## Bytes -/

def byte (c : Char) : UInt8 := UInt8.ofNat c.toNat

def isSpace (b : UInt8) : Bool :=
  b = byte ' ' || b = byte '\n' || b = byte '\t' || b = byte '\r'

def isDigit (b : UInt8) : Bool :=
  byte '0' ≤ b && b ≤ byte '9'

def digitValue (b : UInt8) : Nat := b.toNat - 48

def skipSpace (input : Input) : Input := input.dropWhile isSpace

/-- The rest of a word such as `null` once its first letter is read. -/
def readWord : List Char → Input → Except Fault Input
  | [], input => .ok input
  | _ :: _, [] => .error (.behind .eofInValue [])
  | c :: cs, b :: input =>
    if b = byte c then readWord cs input else .error (.behind .expectedIdent input)

/-! ## Numbers -/

def spanDigits (input : Input) : List UInt8 × Input := input.span isDigit

/-- The whole part of a number, without a leading zero; `onEmpty` says what is wrong when no digit
follows. -/
def readWhole (onEmpty : Cause) : Input → Except Fault (Nat × Input)
  | [] => .error (.behind onEmpty [])
  | b :: input =>
    if b = byte '0' then
      match input with
      | d :: _ => if isDigit d then .error (.atNext .invalidNumber input) else .ok (0, input)
      | [] => .ok (0, input)
    else if isDigit b then
      let (ds, rest) := spanDigits input
      .ok (ds.foldl (fun n d => n * 10 + digitValue d) (digitValue b), rest)
    else .error (.behind .invalidNumber input)

/-- An exponent's digits. Past 31 bits a positive exponent is out of range, unless the number is
zero; a negative one is as good as any other. -/
def readExponentDigits (isZero positive : Bool) : Nat → Input → Except Fault (Nat × Input)
  | e, b :: input =>
    if isDigit b then
      let e' := e * 10 + digitValue b
      if e' < 2 ^ 31 then readExponentDigits isZero positive e' input
      else if positive && !isZero then .error (.behind .numberOutOfRange input)
      else .ok (e', (spanDigits input).2)
    else .ok (e, b :: input)
  | e, [] => .ok (e, [])

/-- What follows the `e` of an exponent. -/
def readExponent (isZero : Bool) (input : Input) : Except Fault (Int × Input) := do
  let (positive, input) := match input with
    | b :: r =>
      if b = byte '+' then (true, r) else if b = byte '-' then (false, r) else (true, input)
    | [] => (true, input)
  match input with
  | [] => .error (.behind .eofInValue [])
  | b :: rest =>
    if isDigit b then
      let (e, rest) ← readExponentDigits isZero positive (digitValue b) rest
      .ok (if positive then (e : Int) else -(e : Int), rest)
    else .error (.behind .invalidNumber rest)

def digitOf (b : UInt8) : Fin 10 := ⟨digitValue b % 10, Nat.mod_lt _ (by decide)⟩

/-- A number once its sign is read. -/
def readNumeral (negative : Bool) (input : Input) : Except Fault (Numeral × Input) := do
  let (whole, input) ← readWhole .eofInValue input
  let (fraction, input) ← match input with
    | b :: rest =>
      if b = byte '.' then
        match spanDigits rest with
        | ([], []) => .error (.atNext .eofInValue [])
        | ([], r) => .error (.atNext .invalidNumber r)
        | (ds, r) => .ok (ds.map digitOf, r)
      else .ok ([], input)
    | [] => .ok ([], input)
  let isZero := whole == 0 && fraction.all (· == 0)
  match input with
  | b :: rest =>
    if b = byte 'e' || b = byte 'E' then
      let (e, rest) ← readExponent isZero rest
      .ok (⟨negative, whole, fraction, some e⟩, rest)
    else .ok (⟨negative, whole, fraction, none⟩, input)
  | [] => .ok (⟨negative, whole, fraction, none⟩, input)

/-- A number once its sign is read, with what it denotes. -/
def readNumber (negative : Bool) (input : Input) :
    Except Fault ((Numeral × Numeral.Value) × Input) := do
  let (n, rest) ← readNumeral negative input
  match n.value? with
  | some v => .ok ((n, v), rest)
  | none => .error (.behind .numberOutOfRange rest)

/-! ## Strings -/

/-- Where the reader of a string stands. -/
inductive StringState where
  | plain
  /-- Behind a backslash. -/
  | escape
  /-- Behind `\u` and the digits `seen`; `high` is the surrogate that came before. -/
  | hex (high : Option Nat) (seen : List UInt8)
  /-- Behind a high surrogate. -/
  | high (code : Nat)
  /-- Behind a high surrogate and a backslash. -/
  | highEscape (code : Nat)

/-- What a one-letter escape stands for. -/
def shortEscape (b : UInt8) : Option UInt8 :=
  if b = byte '"' || b = byte '\\' || b = byte '/' then some b
  else if b = byte 'b' then some 0x08
  else if b = byte 'f' then some 0x0C
  else if b = byte 'n' then some 0x0A
  else if b = byte 'r' then some 0x0D
  else if b = byte 't' then some 0x09
  else none

def hexValue (b : UInt8) : Option Nat :=
  if isDigit b then some (b.toNat - 48)
  else if byte 'A' ≤ b && b ≤ byte 'F' then some (b.toNat - 55)
  else if byte 'a' ≤ b && b ≤ byte 'f' then some (b.toNat - 87)
  else none

def hexCode (bs : List UInt8) : Option Nat :=
  bs.foldlM (fun n b => (hexValue b).map (n * 16 + ·)) 0

/-- The bytes of a code point, last first, before `acc`. -/
def pushCode (code : Nat) (acc : List UInt8) : List UInt8 :=
  (String.utf8EncodeChar (Char.ofNat code)).reverse ++ acc

/-- The bytes that a string holds, up to its closing quote. `acc` holds those read so far, last
first. -/
def readStringBytes : StringState → List UInt8 → Input → Except Fault (List UInt8 × Input)
  | _, _, [] => .error (.behind .eofInString [])
  | .plain, acc, b :: input =>
    if b = byte '"' then .ok (acc.reverse, input)
    else if b = byte '\\' then readStringBytes .escape acc input
    else if b < 0x20 then .error (.behind .controlCharacter input)
    else readStringBytes .plain (b :: acc) input
  | .escape, acc, b :: input =>
    match shortEscape b with
    | some c => readStringBytes .plain (c :: acc) input
    | none =>
      if b = byte 'u' then readStringBytes (.hex none []) acc input
      else .error (.behind .invalidEscape input)
  | .hex high seen, acc, b :: input =>
    if seen.length < 3 then readStringBytes (.hex high (seen ++ [b])) acc input
    else
      match hexCode (seen ++ [b]), high with
      | none, _ => .error (.behind .invalidEscape input)
      | some n, none =>
        if 0xDC00 ≤ n && n ≤ 0xDFFF then .error (.behind .loneLeadingSurrogate input)
        else if 0xD800 ≤ n && n ≤ 0xDBFF then readStringBytes (.high n) acc input
        else readStringBytes .plain (pushCode n acc) input
      | some n, some h =>
        if 0xDC00 ≤ n && n ≤ 0xDFFF then
          readStringBytes .plain
            (pushCode (0x10000 + (h - 0xD800) * 0x400 + (n - 0xDC00)) acc) input
        else .error (.behind .loneLeadingSurrogate input)
  | .high h, acc, b :: input =>
    if b = byte '\\' then readStringBytes (.highEscape h) acc input
    else .error (.behind .unexpectedEndOfHexEscape input)
  | .highEscape h, acc, b :: input =>
    if b = byte 'u' then readStringBytes (.hex (some h) []) acc input
    else .error (.behind .unexpectedEndOfHexEscape input)

/-- How many bytes of a string are left from its first ill-formed piece on. -/
def illFormed (bytes : List UInt8) : Nat :=
  bytes.length - (Text.Utf8.encode (Text.Utf8.validFront bytes)).length

/-- A string once its opening quote is read. One that is ill-formed is reported as far before its
end as it is ill-formed. -/
def readString (input : Input) : Except Fault (String × Input) := do
  let (bytes, rest) ← readStringBytes .plain [] input
  match Text.Utf8.decode? bytes with
  | some cs => .ok (String.ofList cs, rest)
  | none =>
    let place := input.length - rest.length - illFormed bytes
    .error (.behind .invalidUnicode (input.drop place))

/-! ## What was met instead -/

/-- The fault of a value that is not of the kind expected: its own, when it is broken. -/
def unexpected (expected : String) (input : Input) : Fault :=
  let wrong (r : Except Fault (Found × Input)) : Fault :=
    match r with
    | .ok (found, rest) => .behind (.invalidType found expected) rest
    | .error f => f
  match input with
  | [] => .atNext .expectedValue []
  | b :: rest =>
    if b = byte 'n' then wrong ((readWord ['u', 'l', 'l'] rest).map (.null, ·))
    else if b = byte 't' then wrong ((readWord ['r', 'u', 'e'] rest).map (.bool true, ·))
    else if b = byte 'f' then wrong ((readWord ['a', 'l', 's', 'e'] rest).map (.bool false, ·))
    else if b = byte '-' then wrong ((readNumber true rest).map fun r => (.number r.1.2, r.2))
    else if isDigit b then wrong ((readNumber false input).map fun r => (.number r.1.2, r.2))
    else if b = byte '"' then wrong ((readString rest).map fun r => (.string r.1, r.2))
    else if b = byte '[' then .behind (.invalidType .sequence expected) input
    else if b = byte '\x7b' then .behind (.invalidType .map expected) input
    else .atNext .expectedValue input

/-! ## Leaves -/

/-- What is left from the next value on. -/
def nextValue (input : Input) : Except Fault Input :=
  match skipSpace input with
  | [] => .error (.atNext .eofInValue [])
  | rest => .ok rest

def Reader.bool : Reader Bool := fun _ input => do
  let input ← nextValue input
  match input with
  | b :: rest =>
    if b = byte 't' then (readWord ['r', 'u', 'e'] rest).map (true, ·)
    else if b = byte 'f' then (readWord ['a', 'l', 's', 'e'] rest).map (false, ·)
    else .error (unexpected "a boolean" input)
  | [] => .error (unexpected "a boolean" input)

def Reader.string : Reader String := fun _ input => do
  let input ← nextValue input
  match input with
  | b :: rest =>
    if b = byte '"' then readString rest else .error (unexpected "a string" input)
  | [] => .error (unexpected "a string" input)

/-- `null` is no value. -/
def Reader.optional {α : Type} (r : Reader α) : Reader (Option α) := fun depth input =>
  match skipSpace input with
  | b :: rest =>
    if b = byte 'n' then (readWord ['u', 'l', 'l'] rest).map (none, ·)
    else (r depth (b :: rest)).map fun p => (some p.1, p.2)
  | [] => (r depth []).map fun p => (some p.1, p.2)

/-! ## Leaving a container -/

/-- Where the reader stands after trying to leave an array, and what kept it in. -/
def leaveArray (input : Input) : Option Cause × Input :=
  match skipSpace input with
  | [] => (some .eofInList, [])
  | b :: rest =>
    if b = byte ']' then (none, rest)
    else if b = byte ',' then
      match skipSpace rest with
      | [] => (some .trailingCharacters, [])
      | c :: r => (some (if c = byte ']' then .trailingComma else .trailingCharacters), c :: r)
    else (some .trailingCharacters, b :: rest)

/-- Where the reader stands after trying to leave an object, and what kept it in. -/
def leaveObject (input : Input) : Option Cause × Input :=
  match skipSpace input with
  | [] => (some .eofInObject, [])
  | b :: rest =>
    if b = byte '\x7d' then (none, rest)
    else if b = byte ',' then (some .trailingComma, b :: rest)
    else (some .trailingCharacters, b :: rest)

/-- A container's contents, then its end. A fault that has no place yet gets the one where the
reader stands after trying to leave. -/
def enclosed {α : Type} (leave : Input → Option Cause × Input)
    (contents : Except Fault (α × Input)) : Except Fault (α × Input) :=
  match contents with
  | .ok (x, rest) =>
    match leave rest with
    | (none, rest) => .ok (x, rest)
    | (some cause, rest) => .error (.atNext cause rest)
  | .error f =>
    if f.placed then .error f else .error (.behind f.cause (leave f.rest).2)

/-! ## Items and members -/

/-- Whether another item follows, and where it begins. -/
def nextItem (first : Bool) (input : Input) : Except Fault (Bool × Input) :=
  match skipSpace input with
  | [] => .error (.atNext .eofInList [])
  | b :: rest =>
    if b = byte ']' then .ok (false, b :: rest)
    else if first then .ok (true, b :: rest)
    else if b = byte ',' then
      match skipSpace rest with
      | [] => .error (.atNext .eofInValue [])
      | c :: r =>
        if c = byte ']' then .error (.atNext .trailingComma (c :: r)) else .ok (true, c :: r)
    else .error (.atNext .expectedListCommaOrEnd (b :: rest))

/-- The name of the next member, if one follows. -/
def nextName (first : Bool) (input : Input) : Except Fault (Option String × Input) :=
  match skipSpace input with
  | [] => .error (.atNext .eofInObject [])
  | b :: rest =>
    if b = byte '\x7d' then .ok (none, b :: rest)
    else if first then
      if b = byte '"' then (readString rest).map fun r => (some r.1, r.2)
      else .error (.atNext .keyMustBeString (b :: rest))
    else if b = byte ',' then
      match skipSpace rest with
      | [] => .error (.atNext .eofInValue [])
      | c :: r =>
        if c = byte '"' then (readString r).map fun p => (some p.1, p.2)
        else if c = byte '\x7d' then .error (.atNext .trailingComma (c :: r))
        else .error (.atNext .keyMustBeString (c :: r))
    else .error (.atNext .expectedObjectCommaOrEnd (b :: rest))

def readColon (input : Input) : Except Fault Input :=
  match skipSpace input with
  | [] => .error (.atNext .eofInObject [])
  | b :: rest =>
    if b = byte ':' then .ok rest else .error (.atNext .expectedColon (b :: rest))

/-- The items up to the end of an array. Every item takes a byte, so the input's length is fuel
enough. -/
def items {α : Type} (item : Input → Except Fault (α × Input)) :
    Nat → Bool → Input → Except Fault (List α × Input)
  | 0, _, input => .error (.atNext .eofInList input)
  | fuel + 1, first, input => do
    let (more, input) ← nextItem first input
    if more then
      let (x, input) ← item input
      let (xs, input) ← items item fuel false input
      .ok (x :: xs, input)
    else .ok ([], input)

/-- Folds `step` over the members up to the end of an object; `step` reads from behind the name. -/
def members {σ : Type} (step : σ → String → Input → Except Fault (σ × Input)) :
    Nat → Bool → σ → Input → Except Fault (σ × Input)
  | 0, _, _, input => .error (.atNext .eofInObject input)
  | fuel + 1, first, state, input => do
    let (name, input) ← nextName first input
    match name with
    | none => .ok (state, input)
    | some name =>
      let (state, input) ← step state name input
      members step fuel false state input

/-- One container deeper, if `depth` allows it. -/
def deeper {α : Type} (depth : Nat) (input : Input) (r : Nat → Except Fault (α × Input)) :
    Except Fault (α × Input) :=
  if depth ≤ 1 then .error (.atNext .recursionLimit input) else r (depth - 1)

/-- An array of any number of items. -/
def Reader.list {α : Type} (item : Reader α) : Reader (List α) := fun depth input => do
  let input ← nextValue input
  match input with
  | b :: rest =>
    if b = byte '[' then
      deeper depth input fun depth =>
        enclosed leaveArray (items (item depth) (rest.length + 1) true rest)
    else .error (unexpected "a sequence" input)
  | [] => .error (unexpected "a sequence" input)

/-- The members of an object, in order. -/
def readMembers {α : Type} (value : Input → Except Fault (α × Input)) (input : Input) :
    Except Fault (List (String × α) × Input) := do
  let (ms, rest) ← members
    (fun acc name input => do
      let input ← readColon input
      let (x, input) ← value input
      .ok ((name, x) :: acc, input))
    (input.length + 1) true [] input
  .ok (ms.reverse, rest)

/-- An object with any names. -/
def Reader.map {α : Type} (value : Reader α) : Reader (List (String × α)) :=
  fun depth input => do
  let input ← nextValue input
  match input with
  | b :: rest =>
    if b = byte '\x7b' then
      deeper depth input fun depth => enclosed leaveObject (readMembers (value depth) rest)
    else .error (unexpected "a map" input)
  | [] => .error (unexpected "a map" input)

/-! ## Any value -/

/-- Any value at all. -/
def Reader.value : Reader Json
  | 0, input => .error (.atNext .recursionLimit input)
  | depth + 1, input => do
    let input ← nextValue input
    match input with
    | [] => .error (.atNext .expectedValue [])
    | b :: rest =>
      if b = byte 'n' then (readWord ['u', 'l', 'l'] rest).map (.null, ·)
      else if b = byte 't' then (readWord ['r', 'u', 'e'] rest).map (.bool true, ·)
      else if b = byte 'f' then (readWord ['a', 'l', 's', 'e'] rest).map (.bool false, ·)
      else if b = byte '-' then (readNumber true rest).map fun r => (.number r.1.1, r.2)
      else if isDigit b then (readNumber false input).map fun r => (.number r.1.1, r.2)
      else if b = byte '"' then (readString rest).map fun r => (.string r.1, r.2)
      else if b = byte '[' then
        if depth = 0 then .error (.atNext .recursionLimit input)
        else
          enclosed leaveArray
            ((items (Reader.value depth) (rest.length + 1) true rest).map fun r =>
              (.array r.1, r.2))
      else if b = byte '\x7b' then
        if depth = 0 then .error (.atNext .recursionLimit input)
        else
          enclosed leaveObject
            ((readMembers (Reader.value depth) rest).map fun r => (.object r.1, r.2))
      else .error (.atNext .expectedValue input)

/-! ## Whole texts -/

/-- How many containers a text may nest, and one. -/
def depthLimit : Nat := 128

/-- A value that is the whole input, spaces apart. -/
def readAll {α : Type} (r : Reader α) (input : Input) : Except ReadError α :=
  let outcome : Except Fault α :=
    match r depthLimit input with
    | .ok (x, rest) =>
      match skipSpace rest with
      | [] => .ok x
      | rest => .error (.atNext .trailingCharacters rest)
    | .error f => .error f
  outcome.mapError (ReadError.ofFault input)

def readText {α : Type} (r : Reader α) (s : String) : Except ReadError α :=
  readAll r (Text.Utf8.encode s.toList)

end AppLinks.Json
