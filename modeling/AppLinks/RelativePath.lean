/-!
# Paths relative to the root

A path wildcard and a path are compared without their root: one leading slash is dropped from
each, and no more than one.
-/

namespace AppLinks

def relativeChars : List Char → List Char
  | '/' :: cs => cs
  | cs => cs

/-- A path without its leading slash, if it has one. -/
def relative (path : String) : String :=
  String.ofList (relativeChars path.toList)

end AppLinks
