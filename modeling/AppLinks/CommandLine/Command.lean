import AppLinks.CommandLine.Options

/-!
# Commands

What a command line asks for: its first argument that is no option names the command, and the
options of the command follow.
-/

namespace AppLinks

inductive Command where
  /-- Print the apps of each URL. -/
  | matchUrls (input : String) (urls : List String) (unique json : Bool)
  /-- Print a summary of a document and the wildcards that never match. -/
  | check (input : String)
  /-- Print where an origin serves its document. -/
  | locations (origin : String)
  deriving DecidableEq, Repr

namespace Command

/-! ## Options -/

def verbose : CommandOption := ⟨some 'v', "verbose", false, false⟩
def input : CommandOption := ⟨some 'i', "input", true, false⟩
def url : CommandOption := ⟨some 'u', "url", true, true⟩
def unique : CommandOption := ⟨none, "unique", false, false⟩
def json : CommandOption := ⟨none, "json", false, false⟩
def origin : CommandOption := ⟨some 'o', "origin", true, false⟩

def matchOptions : List CommandOption := [input, url, unique, json, verbose]
def checkOptions : List CommandOption := [input, verbose]
def locationsOptions : List CommandOption := [origin, verbose]

/-- The options of a command. -/
def options? (name : String) : Option (List CommandOption) :=
  if name = "match" then some matchOptions
  else if name = "check" then some checkOptions
  else if name = "locations" then some locationsOptions
  else none

/-! ## Reading -/

/-- The command of a name, if the options that it needs are given. -/
def ofGiven (name : String) (g : Given) : Option Command :=
  if name = "locations" then (g.values "origin").head?.map .locations
  else if name = "check" then (g.values "input").head?.map .check
  else
    match (g.values "input").head?, g.values "url" with
    | some file, u :: us => some (.matchUrls file (u :: us) (g.has "unique") (g.has "json"))
    | _, _ => none

/-- A command and whether it is to tell what happens. -/
structure Line where
  command : Command
  verbose : Bool
  deriving DecidableEq, Repr

def isCommand (arg : String) : Bool := (options? arg).isSome

/-- Reads a command line; nothing when it is not used right. -/
def read (args : List String) : Option Line := do
  let (before, rest) := args.span fun a => !isCommand a
  let name ← rest.head?
  let os ← options? name
  let common ← if before.contains "--" then none else CommandOption.readAll [verbose] before
  let given ← CommandOption.readAll os (rest.drop 1)
  let command ← ofGiven name given
  return ⟨command, common.has "verbose" || given.has "verbose"⟩

end Command

end AppLinks
