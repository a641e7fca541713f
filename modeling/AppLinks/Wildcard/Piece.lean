/-!
# Matching by tables

A list of pieces is tried against every suffix of a text at once. A table holds, for every suffix,
whether the pieces from some place on take exactly that suffix; the table of one piece more is
computed from it, so the work is bounded by the product of the two lengths, whatever the pieces.

    accepts (p :: ps) is read off the table of ps by p alone
-/

namespace AppLinks

/-- A part of a pattern, as far as matching is concerned. -/
inductive Piece where
  | any
  | run
  | among (cs : List Char)
  | words (ws : List (List Char))
  deriving DecidableEq, Repr

namespace Piece

/-- A truth value for every suffix of a text, the longest first and the empty one last. -/
abbrev Table := List Bool

def atEnd : List Char → Table
  | [] => [true]
  | _ :: cs => false :: atEnd cs

def nowhere (cs : List Char) : Table := false :: cs.map fun _ => false

def either (t u : Table) : Table := List.zipWith (· || ·) t u

/-- The suffixes that begin with a character in `p` and go on as the table says. -/
def afterChar (p : Char → Bool) : List Char → Table → Table
  | c :: cs, _ :: t => (p c && t.headD false) :: afterChar p cs t
  | _, _ => [false]

def afterWord (cs : List Char) (t : Table) (word : List Char) : Table :=
  word.foldr (fun c t => afterChar (· == c) cs t) t

/-- The suffixes that have a suffix in the table. -/
def afterRun : Table → Table
  | [] => []
  | b :: t =>
    let u := afterRun t
    (b || u.headD false) :: u

/-- The suffixes that begin as the piece says and go on as the table says. -/
def after (cs : List Char) (p : Piece) (t : Table) : Table :=
  match p with
  | .any => afterChar (fun _ => true) cs t
  | .run => afterRun t
  | .among ms => afterChar ms.contains cs t
  | .words ws => ws.foldr (fun w u => either (afterWord cs t w) u) (nowhere cs)

/-- Whether the pieces in their order take the whole text. -/
def accepts (ps : List Piece) (cs : List Char) : Bool :=
  (ps.foldr (after cs) (atEnd cs)).headD false

end Piece

end AppLinks
