/-!
# Options

How options are spelled on a command line: a short one may be joined to others and to its value, a
long one may have its value behind an equals sign, and a value may also be the next argument,
unless that looks like an option itself. Nothing but options is taken.
-/

namespace AppLinks

structure CommandOption where
  short : Option Char
  long : String
  takesValue : Bool
  repeatable : Bool := false
  deriving DecidableEq, Repr

/-- The long names of the options given and their values, in order. -/
abbrev Given := List (String × String)

namespace CommandOption

/-- Options read from one argument, and one that waits for its value in the next. -/
structure Reading where
  given : Given := []
  waiting : Option CommandOption := none

/-- Short options in one argument; the first that takes a value takes all that is left. -/
def readShort (os : List CommandOption) : List Char → Option Reading
  | [] => some {}
  | c :: cs =>
    match os.find? (·.short == some c) with
    | none => none
    | some o =>
      if o.takesValue then
        match cs with
        | [] => some { waiting := some o }
        | '=' :: value => some { given := [(o.long, String.ofList value)] }
        | value => some { given := [(o.long, String.ofList value)] }
      else (readShort os cs).map fun r => { r with given := (o.long, "") :: r.given }

def readLong (os : List CommandOption) (cs : List Char) : Option Reading :=
  let value := cs.dropWhile (· != '=')
  match os.find? (·.long == String.ofList (cs.takeWhile (· != '='))) with
  | none => none
  | some o =>
    match o.takesValue, value with
    | true, [] => some { waiting := some o }
    | true, _ :: value => some { given := [(o.long, String.ofList value)] }
    | false, [] => some { given := [(o.long, "")] }
    | false, _ :: _ => none

/-- The options that an argument spells; nothing if it spells none. -/
def read (os : List CommandOption) (arg : String) : Option Reading :=
  match arg.toList with
  | '-' :: '-' :: cs => readLong os cs
  | '-' :: c :: cs => readShort os (c :: cs)
  | _ => none

/-- Whether an argument may be the value of the option before it. -/
def isValue (arg : String) : Bool :=
  match arg.toList with
  | '-' :: _ :: _ => false
  | _ => true

/-- Reads on; `waiting` is an option whose value is to come. Two hyphens may end the options. -/
def readFrom (os : List CommandOption) : Option CommandOption → List String → Option Given
  | none, [] => some []
  | some _, [] => none
  | some o, a :: as =>
    if isValue a then (readFrom os none as).map fun g => (o.long, a) :: g else none
  | none, a :: as =>
    if a = "--" then if as.isEmpty then some [] else none
    else
      match read os a with
      | none => none
      | some r => (readFrom os r.waiting as).map fun g => r.given ++ g

/-- Whether no option is given more often than it may be. -/
def isSparing (os : List CommandOption) (g : Given) : Bool :=
  os.all fun o => o.repeatable || (g.filter (·.1 == o.long)).length ≤ 1

/-- The options that the arguments spell, if they spell nothing else. -/
def readAll (os : List CommandOption) (args : List String) : Option Given :=
  (readFrom os none args).filter (isSparing os)

end CommandOption

namespace Given

def has (g : Given) (long : String) : Bool := g.any (·.1 == long)

def values (g : Given) (long : String) : List String :=
  (g.filter (·.1 == long)).map (·.2)

end Given

end AppLinks
