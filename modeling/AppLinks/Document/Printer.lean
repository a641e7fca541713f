import AppLinks.Document.Basic
import AppLinks.Json.Printer

/-!
# Writing documents

A record is written as an object of its fields in their order; a field that is missing is left
out.
-/

namespace AppLinks

/-- A member, when there is a value for it. -/
def member {α : Type} (name : String) (write : α → Json) (x : Option α) : List (String × Json) :=
  (x.map fun x => (name, write x)).toList

def Defaults.toJson (d : Defaults) : Json :=
  .object (member "caseSensitive" .bool d.caseSensitive ++
    member "percentEncoded" .bool d.percentEncoded)

def QueryConstraint.toJson : QueryConstraint → Json
  | .name n => .string n
  | .values ws => .object (ws.toList.map fun e => (e.1, .string e.2))

def Component.toJson (c : Component) : Json :=
  .object (member "/" .string c.path ++ member "#" .string c.fragment ++
    member "?" QueryConstraint.toJson c.query ++ member "exclude" .bool c.exclude ++
    member "comment" .string c.comment ++ member "caseSensitive" .bool c.caseSensitive ++
    member "percentEncoded" .bool c.percentEncoded)

def RuleSet.toJson (r : RuleSet) : Json :=
  .object ([("appIDs", .strings r.appIds), ("components", .array (r.components.map (·.toJson)))] ++
    member "defaults" Defaults.toJson r.defaults)

def Substitutions.toJson (s : Substitutions) : Json :=
  .object (s.toList.map fun e => (e.1, .strings e.2))

def LinkSet.toJson (l : LinkSet) : Json :=
  .object ([("details", .array (l.details.map (·.toJson)))] ++
    member "defaults" Defaults.toJson l.defaults ++
    member "substitutionVariables" Substitutions.toJson l.substitutions)

def AppList.toJson (l : AppList) : Json :=
  .object [("apps", .strings l.apps)]

def Document.toJson (d : Document) : Json :=
  .object (member "applinks" LinkSet.toJson d.applinks ++
    member "webcredentials" AppList.toJson d.webcredentials ++
    member "appclips" AppList.toJson d.appclips)

end AppLinks
