import AppLinks.CommandLine.Command
import AppLinks.Document.Reader
import AppLinks.Locations
import AppLinks.Matching.Session
import AppLinks.Report
import AppLinks.Url.Parser

/-!
# Running commands

A command either prints its answer or fails with one message; `check` does both when a wildcard
never matches. Files are looked up by a function, so a run is a value.

Apart from that a run logs what matching reports, warnings always and the rest when asked. The log
is made of these events and nothing else: no line tells that a file was decoded or a URL was looked
at, no line bears a time, and no environment variable chooses among them.
-/

namespace AppLinks

/-- The bytes of a file, or why there are none. -/
abbrev Files := String → Except String (List UInt8)

/-- What a run prints, and the message that it fails with. -/
structure Run where
  output : String := ""
  failure : Option String := none
  events : List Event := []
  deriving DecidableEq, Repr

namespace Run

def exitCode (r : Run) : Nat := if r.failure.isSome then 1 else 0

/-- What a run prints on standard error behind its log. -/
def errorOutput (r : Run) : String :=
  match r.failure with
  | some message => "Error: " ++ message ++ "\n"
  | none => ""

def fail (message : String) : Run := { failure := some message }

/-- The lines that a run logs: those that warn, or all of them. -/
def log (verbose : Bool) (r : Run) : List String :=
  (r.events.filter fun e => verbose || e.isWarning).map (·.line)

end Run

namespace Command

def load (files : Files) (file : String) : Except String Document :=
  match files file with
  | .error reason => .error ("Failed to read '" ++ file ++ "': " ++ reason)
  | .ok bytes =>
    (Document.decodeBytes bytes).mapError fun e =>
      "Failed to decode '" ++ file ++ "': " ++ e.message

def parseUrl (text : String) : Except String Url :=
  (Url.parse text).mapError fun e => "Invalid URL '" ++ text ++ "': " ++ e.message

/-! ## Matching -/

/-- The elements of a list, each where it comes first. -/
def firsts : List String → List String
  | [] => []
  | a :: l => a :: (firsts l).filter (· != a)

/-- What is found for each URL; the first text that is no URL ends the run. -/
def matchAll (l : LinkSet) (unique : Bool) :
    List String → Step PatternCache (Except String (List UrlMatches))
  | [] => pure (.ok [])
  | text :: texts =>
    match parseUrl text with
    | .error message => pure (.error message)
    | .ok u => do
      let ids ← l.appIdsBy Tester.cached u
      let found : UrlMatches := ⟨text, if unique then firsts ids else ids⟩
      return (← matchAll l unique texts).map (found :: ·)

def printMatches (json : Bool) (ms : List UrlMatches) : String :=
  if json then Json.render .indented (.array (ms.map (·.toJson))) ++ "\n"
  else String.join (ms.map fun m => m.text ++ "\n")

def runMatch (files : Files) (file : String) (urls : List String) (unique json : Bool) : Run :=
  match load files file with
  | .error message => .fail message
  | .ok d =>
    let o := matchAll d.linkSet unique urls PatternCache.empty
    match o.value with
    | .error message => { failure := some message, events := o.events }
    | .ok ms => { output := printMatches json ms, events := o.events }

/-! ## Checking -/

def failureLine (f : PatternFailure) : String :=
  "  details[" ++ toString f.ruleSet ++ "].components[" ++ toString f.component ++ "] " ++
    Text.quote f.wildcard ++ ": " ++ f.error.message ++ "\n"

def printFailures (fs : List PatternFailure) : String :=
  if fs.isEmpty then ""
  else "\nWildcards that never match:\n" ++ String.join (fs.map failureLine)

def runCheck (files : Files) (file : String) : Run :=
  match load files file with
  | .error message => .fail message
  | .ok d =>
    let o := d.linkSet.precompile PatternCache.empty
    { output := "Document '" ++ file ++ "' decoded\n" ++
        (DocumentSummary.of d o.state.size).text ++ printFailures o.value
      failure :=
        if o.value.isEmpty then none
        else some (toString o.value.length ++ " wildcard(s) failed to compile")
      events := o.events }

/-! ## Locations -/

def runLocations (origin : String) : Run :=
  match parseUrl origin with
  | .error message => .fail message
  | .ok u =>
    match u.locations with
    | .error e => .fail ("Cannot derive locations for '" ++ u.text ++ "': " ++ e.message)
    | .ok ls => { output := String.join (ls.map fun l => l.text ++ "\n") }

def run (files : Files) : Command → Run
  | .matchUrls file urls unique json => runMatch files file urls unique json
  | .check file => runCheck files file
  | .locations origin => runLocations origin

end Command

end AppLinks
