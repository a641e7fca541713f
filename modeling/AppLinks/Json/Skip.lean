import AppLinks.Json.Reader

/-!
# Passing over a value

A member that nobody asked for is passed over: its text has to be JSON, but its strings may hold
any bytes and any surrogates, its numbers may be out of every range, and it may nest as deep as it
likes.
-/

namespace AppLinks.Json

/-- Up to and over the closing quote of a string. -/
def skipString : Input → Except Fault Input
  | [] => .error (.behind .eofInString [])
  | b :: input =>
    if b = byte '"' then .ok input
    else if b = byte '\\' then
      match input with
      | [] => .error (.behind .eofInString [])
      | e :: r =>
        if (shortEscape e).isSome then skipString r
        else if e = byte 'u' then
          match r with
          | d1 :: d2 :: d3 :: d4 :: r =>
            if (hexCode [d1, d2, d3, d4]).isSome then skipString r
            else .error (.behind .invalidEscape r)
          | _ => .error (.behind .eofInString [])
        else .error (.behind .invalidEscape r)
    else if b < 0x20 then .error (.behind .controlCharacter (b :: input))
    else skipString input

/-- Over an exponent once its `e` is read. -/
def skipExponent (input : Input) : Except Fault Input :=
  let input := match input with
    | b :: r => if b = byte '+' || b = byte '-' then r else input
    | [] => input
  match input with
  | [] => .error (.behind .invalidNumber [])
  | b :: rest =>
    if isDigit b then .ok (spanDigits rest).2 else .error (.behind .invalidNumber rest)

/-- Over a number once its sign is read. -/
def skipNumber (input : Input) : Except Fault Input := do
  let (_, input) ← readWhole .invalidNumber input
  let input ← match input with
    | b :: rest =>
      if b = byte '.' then
        match spanDigits rest with
        | ([], r) => .error (.atNext .invalidNumber r)
        | (_, r) => .ok r
      else .ok input
    | [] => .ok input
  match input with
  | b :: rest => if b = byte 'e' || b = byte 'E' then skipExponent rest else .ok input
  | [] => .ok input

/-- Over a member's name and colon. -/
def skipName (input : Input) : Except Fault Input :=
  match skipSpace input with
  | [] => .error (.atNext .eofInObject [])
  | b :: rest =>
    if b = byte '"' then do
      let rest ← skipString rest
      readColon rest
    else .error (.atNext .keyMustBeString (b :: rest))

mutual

/-- Over a value. -/
def skipValue : Nat → Input → Except Fault Input
  | 0, input => .error (.atNext .eofInValue input)
  | fuel + 1, input => do
    let input ← nextValue input
    match input with
    | [] => .error (.atNext .eofInValue [])
    | b :: rest =>
      if b = byte 'n' then readWord ['u', 'l', 'l'] rest
      else if b = byte 't' then readWord ['r', 'u', 'e'] rest
      else if b = byte 'f' then readWord ['a', 'l', 's', 'e'] rest
      else if b = byte '-' then skipNumber rest
      else if isDigit b then skipNumber input
      else if b = byte '"' then skipString rest
      else if b = byte '[' then
        match skipSpace rest with
        | [] => .error (.atNext .eofInList [])
        | c :: r => if c = byte ']' then .ok r else skipItems fuel (c :: r)
      else if b = byte '\x7b' then
        match skipSpace rest with
        | [] => .error (.atNext .eofInObject [])
        | c :: r => if c = byte '\x7d' then .ok r else skipMembers fuel (c :: r)
      else .error (.atNext .expectedValue input)

/-- Over one item or more and the end of their array. -/
def skipItems : Nat → Input → Except Fault Input
  | 0, input => .error (.atNext .eofInList input)
  | fuel + 1, input => do
    let input ← skipValue fuel input
    match skipSpace input with
    | [] => .error (.atNext .eofInList [])
    | c :: r =>
      if c = byte ']' then .ok r
      else if c = byte ',' then skipItems fuel r
      else .error (.atNext .expectedListCommaOrEnd (c :: r))

/-- Over one member or more and the end of their object. -/
def skipMembers : Nat → Input → Except Fault Input
  | 0, input => .error (.atNext .eofInObject input)
  | fuel + 1, input => do
    let input ← skipName input
    let input ← skipValue fuel input
    match skipSpace input with
    | [] => .error (.atNext .eofInObject [])
    | c :: r =>
      if c = byte '\x7d' then .ok r
      else if c = byte ',' then skipMembers fuel r
      else .error (.atNext .expectedObjectCommaOrEnd (c :: r))

end

/-- Over a value. Every value and every comma takes a byte, so twice the input's length is fuel
enough. -/
def skip (input : Input) : Except Fault Input :=
  skipValue (2 * input.length + 2) input

end AppLinks.Json
