import AppLinks.Text.Percent
import AppLinks.Text.Pieces
import AppLinks.Url.Scheme

/-!
# Paths

The segments of a path are taken up one after another. A segment of one dot is left out and one of
two dots takes the segment before it away, also where a dot is written as an escape. A segment
that is the letter of a drive is never taken away.
-/

namespace AppLinks.Path

/-! ## Segments -/

/-- Characters that are written as escapes in a path. -/
def escaped : List Char := [' ', '"', '<', '>', '\x60', '#', '?', '\x7b', '\x7d']

def escapedDot : List Char → Option (List Char)
  | '.' :: cs => some cs
  | '%' :: '2' :: c :: cs => if c = 'e' ∨ c = 'E' then some cs else none
  | _ => none

def isDot (segment : List Char) : Bool :=
  escapedDot segment == some []

def isTwoDots (segment : List Char) : Bool :=
  (escapedDot segment).bind escapedDot == some []

/-- Whether a segment begins as the letter of a drive does and no other character follows at
once. -/
def beginsWithDrive : List Char → Bool
  | [c, d] => c.isAlpha && (d == ':' || d == '|')
  | c :: d :: e :: _ => c.isAlpha && (d == ':' || d == '|') && e == '\\'
  | _ => false

/-- The letter of a drive that a whole segment names. -/
def drive? : List Char → Option Char
  | [c, d] => if c.isAlpha && (d == ':' || d == '|') then some c else none
  | _ => none

/-- A drive and what follows it in the same segment. -/
def breakDrive : List Char → Option (List Char × List Char)
  | c :: ':' :: d :: cs => if c.isAlpha then some ([c, ':'], d :: cs) else none
  | _ => none

/-! ## Taking up -/

/-- The segments taken up, the last one first. -/
structure Trail where
  segments : List (List Char) := []
  /-- Whether the first segment came to be a drive's. -/
  onDrive : Bool := false

namespace Trail

def push (t : Trail) (segment : List Char) : Trail :=
  { t with segments := segment :: t.segments }

/-- Takes the last segment away, unless it is a drive's. -/
def pop (t : Trail) : Trail :=
  match t.segments with
  | [] => t
  | s :: ss => if beginsWithDrive s then t else { t with segments := ss }

/-- Takes up a segment. The first one of a file's path may be a drive, which is then written with a
colon; a drive that more text follows is a segment of its own. -/
def take (scheme : Scheme) (t : Trail) (segment : List Char) : Trail :=
  let isFirst := scheme == .file && t.segments.isEmpty
  match if isFirst then breakDrive segment else none with
  | some (drive, rest) => (t.push drive).push rest
  | none =>
    if isTwoDots segment then t.pop
    else if isDot segment then t
    else
      match if isFirst then drive? segment else none with
      | some c => ⟨[c, ':'] :: t.segments, true⟩
      | none => t.push segment

/-- The last segment: dots leave an empty one in its place. -/
def close (scheme : Scheme) (t : Trail) (segment : List Char) : Trail :=
  let taken := t.take scheme segment
  let dots := isDot segment || isTwoDots segment
  if dots then taken.push [] else taken

end Trail

/-! ## Paths -/

/-- The empty segments that a file's path begins with are left out. -/
def trimFile (scheme : Scheme) (segments : List (List Char)) : List (List Char) :=
  if scheme == .file then
    match segments.dropWhile List.isEmpty with
    | [] => [[]]
    | ss => ss
  else segments

/-- The path below the root with the given text, and whether it begins with a drive. -/
def below (scheme : Scheme) (text : List Char) : String × Bool :=
  let pieces := (Text.split scheme.isSlash text).map (Text.Percent.encode escaped)
  let t := (pieces.dropLast.foldl (Trail.take scheme) {}).close scheme (pieces.getLast?.getD [])
  let segments := trimFile scheme t.segments.reverse
  (String.ofList (segments.flatMap ('/' :: ·)), t.onDrive)

end AppLinks.Path
