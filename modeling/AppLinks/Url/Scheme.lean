/-!
# Schemes

A scheme is special when a backslash separates like a slash in its URLs and an authority is
expected; files have rules of their own.
-/

namespace AppLinks

inductive Scheme where
  | file
  /-- A special scheme and the number that its URLs need not name behind the host. -/
  | web (usual : Nat)
  | other
  deriving DecidableEq, Repr

namespace Scheme

def ofName (name : String) : Scheme :=
  if name = "file" then .file
  else if name = "http" ∨ name = "ws" then .web 80
  else if name = "https" ∨ name = "wss" then .web 443
  else if name = "ftp" then .web 21
  else .other

def isSpecial (s : Scheme) : Bool := s != .other

def defaultPort : Scheme → Option Nat
  | .web usual => some usual
  | _ => none

/-- Whether a character separates the segments of a path. -/
def isSlash (s : Scheme) (c : Char) : Bool :=
  c == '/' || (c == '\\' && s.isSpecial)

/-- Whether a character ends the authority. -/
def endsAuthority (s : Scheme) (c : Char) : Bool :=
  s.isSlash c || c == '?' || c == '#'

/-- The name of a scheme in lower case and the text behind its colon. -/
def readName : List Char → Option (List Char × List Char)
  | [] => none
  | c :: cs =>
    if c = ':' then some ([], cs)
    else if c.isAlphanum || c == '+' || c == '-' || c == '.' then
      (readName cs).map fun p => (c.toLower :: p.1, p.2)
    else none

/-- The scheme that a URL begins with: a letter first. -/
def read? (cs : List Char) : Option (String × List Char) :=
  if cs.head?.any Char.isAlpha then (readName cs).map fun p => (String.ofList p.1, p.2)
  else none

end Scheme

end AppLinks
