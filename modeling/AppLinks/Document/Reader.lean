import AppLinks.Document.Basic
import AppLinks.Json.Record

/-!
# Reading documents

The records of a document and the fields they are read from, in the order that an array has to
give them.
-/

namespace AppLinks

open Json

def Json.Reader.strings : Reader (List String) := Reader.list Reader.string

namespace Defaults

def fields : List (RecordField Defaults) :=
  [.defaulted "caseSensitive" (Reader.optional Reader.bool) fun b d =>
     { d with caseSensitive := b },
   .defaulted "percentEncoded" (Reader.optional Reader.bool) fun b d =>
     { d with percentEncoded := b }]

def reader : Reader Defaults := Reader.record "Defaults" fields {}

end Defaults

namespace QueryConstraint

def wildcardOf? : String × Json → Option (String × String)
  | (n, .string w) => some (n, w)
  | _ => none

/-- The constraint that a value spells: a name, or a map of names to wildcards. -/
def ofJson? : Json → Option QueryConstraint
  | .string n => some (.name n)
  | .object ms => (ms.mapM wildcardOf?).map fun ms => .values (.ofList ms)
  | _ => none

def expecting : String :=
  "unrecognized query constraint: expected a parameter name or a map of parameter wildcards"

def reader : Reader QueryConstraint := fun depth input => do
  let (j, rest) ← Reader.value depth input
  match ofJson? j with
  | some q => .ok (q, rest)
  | none => .error (.shape (.unrecognized expecting) rest)

end QueryConstraint

namespace Component

def fields : List (RecordField Component) :=
  [.defaulted "/" (Reader.optional Reader.string) fun s c => { c with path := s },
   .defaulted "#" (Reader.optional Reader.string) fun s c => { c with fragment := s },
   .defaulted "?" (Reader.optional QueryConstraint.reader) fun q c => { c with query := q },
   .defaulted "exclude" (Reader.optional Reader.bool) fun b c => { c with exclude := b },
   .defaulted "comment" (Reader.optional Reader.string) fun s c => { c with comment := s },
   .defaulted "caseSensitive" (Reader.optional Reader.bool) fun b c =>
     { c with caseSensitive := b },
   .defaulted "percentEncoded" (Reader.optional Reader.bool) fun b c =>
     { c with percentEncoded := b }]

def reader : Reader Component := Reader.record "Component" fields {}

end Component

namespace RuleSet

def fields : List (RecordField RuleSet) :=
  [.required "appIDs" Reader.strings fun ids r => { r with appIds := ids },
   .defaulted "components" (Reader.list Component.reader) fun cs r => { r with components := cs },
   .defaulted "defaults" (Reader.optional Defaults.reader) fun d r => { r with defaults := d }]

def reader : Reader RuleSet := Reader.record "RuleSet" fields { appIds := [] }

end RuleSet

def Substitutions.reader : Reader Substitutions := fun depth input =>
  (Reader.map Reader.strings depth input).map fun p => (.ofList p.1, p.2)

namespace LinkSet

def fields : List (RecordField LinkSet) :=
  [.defaulted "details" (Reader.list RuleSet.reader) fun rs l => { l with details := rs },
   .defaulted "defaults" (Reader.optional Defaults.reader) fun d l => { l with defaults := d },
   .defaulted "substitutionVariables" (Reader.optional Substitutions.reader) fun s l =>
     { l with substitutions := s }]

def reader : Reader LinkSet := Reader.record "LinkSet" fields {}

end LinkSet

namespace AppList

def fields : List (RecordField AppList) :=
  [.required "apps" Reader.strings fun apps l => { l with apps := apps }]

def reader (title : String) : Reader AppList := Reader.record title fields { apps := [] }

end AppList

namespace Document

def fields : List (RecordField Document) :=
  [.defaulted "applinks" (Reader.optional LinkSet.reader) fun l d => { d with applinks := l },
   .defaulted "webcredentials" (Reader.optional (AppList.reader "WebCredentials")) fun l d =>
     { d with webcredentials := l },
   .defaulted "appclips" (Reader.optional (AppList.reader "AppClips")) fun l d =>
     { d with appclips := l }]

def reader : Reader Document := Reader.record "AssociationDocument" fields {}

end Document

/-! ## Decoding -/

/-- Why a text is no document. -/
structure DecodeError where
  reason : ReadError

namespace DecodeError

def line (e : DecodeError) : Nat := e.reason.line

def column (e : DecodeError) : Nat := e.reason.column

def message (e : DecodeError) : String :=
  "Invalid association document at line " ++ toString e.line ++ ", column " ++
    toString e.column ++ ": " ++ e.reason.message

end DecodeError

def Document.decodeBytes (bytes : List UInt8) : Except DecodeError Document :=
  (readAll Document.reader bytes).mapError .mk

def Document.decode (text : String) : Except DecodeError Document :=
  (readText Document.reader text).mapError .mk

def RuleSet.decode (text : String) : Except DecodeError RuleSet :=
  (readText RuleSet.reader text).mapError .mk

end AppLinks
