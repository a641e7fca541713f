import AppLinks.Document.Basic
import AppLinks.Json.Printer

/-!
# Reports

What is told about the apps of a URL and about a document as a whole.
-/

namespace AppLinks

/-- The identifiers found for a URL, which is told as it was given. -/
structure UrlMatches where
  url : String
  appIds : List String
  deriving DecidableEq, Repr

namespace UrlMatches

def text (m : UrlMatches) : String :=
  m.url ++ ": " ++ if m.appIds.isEmpty then "(no match)" else ", ".intercalate m.appIds

def toJson (m : UrlMatches) : Json :=
  .object [("url", .string m.url), ("appIDs", .strings m.appIds)]

end UrlMatches

/-- How much there is of everything in a document. -/
structure DocumentSummary where
  ruleSets : Nat
  components : Nat
  substitutions : Nat
  /-- Different wildcards, as they were compiled. -/
  wildcards : Nat
  webcredentials : Nat
  appclips : Nat
  deriving DecidableEq, Repr

namespace DocumentSummary

def of (d : Document) (wildcards : Nat) : DocumentSummary where
  ruleSets := d.linkSet.details.length
  components := d.linkSet.details.foldr (fun r n => r.components.length + n) 0
  substitutions := (d.linkSet.substitutions.map (·.size)).getD 0
  wildcards := wildcards
  webcredentials := (d.webcredentials.map (·.apps.length)).getD 0
  appclips := (d.appclips.map (·.apps.length)).getD 0

/-- One count a line. -/
def text (s : DocumentSummary) : String :=
  "  Rule sets:       " ++ toString s.ruleSets ++ "\n" ++
  "  Components:      " ++ toString s.components ++ "\n" ++
  "  Substitutions:   " ++ toString s.substitutions ++ "\n" ++
  "  Wildcards:       " ++ toString s.wildcards ++ "\n" ++
  "  Webcredentials:  " ++ toString s.webcredentials ++ "\n" ++
  "  App clips:       " ++ toString s.appclips ++ "\n"

end DocumentSummary

end AppLinks
