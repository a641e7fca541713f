import AppLinks.RelativePath
import AppLinks.Text.Percent
import AppLinks.Text.Pieces
import AppLinks.Url.Basic

/-!
# What of a URL is compared

Wildcards are compared with decoded text: the path, the items of the query, the fragment. Nothing
else of a URL counts.
-/

namespace AppLinks

/-- One item of a query; without an equals sign it has no value. -/
structure QueryItem where
  name : String
  value : Option String := none
  deriving DecidableEq, Repr, Inhabited

structure UrlView where
  path : String := ""
  /-- The items in order, if there is a query at all. -/
  query : Option (List QueryItem) := none
  /-- Empty when there is no fragment. -/
  fragment : String := ""
  deriving DecidableEq, Repr, Inhabited

/-! ## Queries -/

namespace QueryItem

def decodeText (cs : List Char) : String :=
  String.ofList (Text.Percent.decodeChars cs)

/-- The item that a piece of a query spells; the first equals sign ends the name. -/
def ofPiece (piece : List Char) : QueryItem where
  name := decodeText (piece.takeWhile (· != '='))
  value :=
    match piece.dropWhile (· != '=') with
    | _ :: v => some (decodeText v)
    | [] => none

def parseChars (cs : List Char) : List QueryItem :=
  ((Text.split (· == '&') cs).filter (!·.isEmpty)).map ofPiece

/-- The items of a query; nothing stands between two ampersands in a row. -/
def parse (query : String) : List QueryItem :=
  parseChars query.toList

end QueryItem

/-! ## Views -/

namespace UrlView

def relativePath (v : UrlView) : String := relative v.path

/-- The first item of a name. -/
def item? (v : UrlView) (name : String) : Option QueryItem :=
  (v.query.getD []).find? (·.name == name)

/-- The value of the first item of a name, if it has one. -/
def value? (v : UrlView) (name : String) : Option String :=
  (v.item? name).bind (·.value)

end UrlView

def Url.view (u : Url) : UrlView where
  path := Text.Percent.decode u.path
  query := u.query.map QueryItem.parse
  fragment := (u.fragment.map Text.Percent.decode).getD ""

end AppLinks
