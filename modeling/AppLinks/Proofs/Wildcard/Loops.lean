import Mathlib.Data.List.Basic
import AppLinks.Proofs.Wildcard.Error

/-!
# The two scans as loops over bytes

Both scans hold the part of a wildcard that they have not read, find where the next token stands and
cut there, at an offset in bytes.  `searchRound` and `scanRound` are one round of each; a cut inside
a character would fail.  None ever does, every round that goes on has read something, and so each
loop comes to its end and returns what the recursive definition says.

    cut? n cs = some (a, b) ↔ cs = a ++ b ∧ size a = n                     (cut?_eq_some_iff)
    searchLoop s w = some ⟨(find w).tokens.map (visit s), (find w).openAt⟩   (searchLoop_eq)
    scanLoop lookup w = some (walkFrom lookup 0 (scan w))                    (scanLoop_eq)
-/

namespace AppLinks

open Text.Utf8 (size)

/-! ## Cuts -/

namespace Text.Utf8

@[simp] theorem size_nil : size [] = 0 := rfl

@[simp] theorem size_cons (c : Char) (cs : List Char) : size (c :: cs) = c.utf8Size + size cs := rfl

theorem size_pos_iff (cs : List Char) : 0 < size cs ↔ cs ≠ [] := by
  cases cs with
  | nil => simp
  | cons c cs =>
    have hc := c.utf8Size_pos
    simp only [size_cons, ne_eq, reduceCtorEq, not_false_eq_true, iff_true]
    omega

/-- The text before an offset in bytes and the text behind it; nothing if the offset lies inside a
character or past the end. -/
def cut? : Nat → List Char → Option (List Char × List Char)
  | 0, cs => some ([], cs)
  | _ + 1, [] => none
  | n + 1, c :: cs =>
    if c.utf8Size ≤ n + 1 then (cut? (n + 1 - c.utf8Size) cs).map fun p => (c :: p.1, p.2) else none

/-- `text[..n]` -/
def upTo? (n : Nat) (cs : List Char) : Option (List Char) := (cut? n cs).map (·.1)

/-- `text[n..]` -/
def from? (n : Nat) (cs : List Char) : Option (List Char) := (cut? n cs).map (·.2)

theorem cut?_append (a b : List Char) : cut? (size a) (a ++ b) = some (a, b) := by
  induction a with
  | nil => simp [cut?]
  | cons c a ih =>
    obtain ⟨n, hn⟩ := Nat.exists_eq_succ_of_ne_zero
      (Nat.pos_iff_ne_zero.mp ((size_pos_iff (c :: a)).mpr (List.cons_ne_nil c a)))
    have hsize : c.utf8Size + size a = n + 1 := hn
    have hrest : n + 1 - c.utf8Size = size a := by omega
    rw [hn, List.cons_append, cut?, if_pos (by omega), hrest, ih]
    rfl

theorem eq_of_cut? {n : Nat} {cs a b : List Char} (h : cut? n cs = some (a, b)) :
    cs = a ++ b ∧ size a = n := by
  induction cs generalizing n a with
  | nil =>
    cases n with
    | zero => cases h; exact ⟨rfl, rfl⟩
    | succ n => cases h
  | cons c cs ih =>
    cases n with
    | zero => cases h; exact ⟨rfl, rfl⟩
    | succ n =>
      rw [cut?] at h
      split at h
      · next hfits =>
        obtain ⟨⟨a', b'⟩, hcut, he⟩ := Option.map_eq_some_iff.mp h
        cases he
        obtain ⟨rfl, hsize⟩ := ih hcut
        exact ⟨rfl, by rw [size_cons, hsize]; omega⟩
      · cases h

/-- The cut is where so many bytes of whole characters have come. -/
theorem cut?_eq_some_iff (n : Nat) (cs a b : List Char) :
    cut? n cs = some (a, b) ↔ cs = a ++ b ∧ size a = n := by
  constructor
  · exact eq_of_cut?
  · rintro ⟨rfl, rfl⟩
    exact cut?_append a b

theorem upTo?_append (a b : List Char) : upTo? (size a) (a ++ b) = some a := by
  rw [upTo?, (cut?_eq_some_iff _ _ a b).mpr ⟨rfl, rfl⟩]
  rfl

theorem from?_append (a b : List Char) : from? (size a) (a ++ b) = some b := by
  rw [from?, (cut?_eq_some_iff _ _ a b).mpr ⟨rfl, rfl⟩]
  rfl

end Text.Utf8

open Text.Utf8 (upTo? from?)

/-! ## Loops -/

/-- What one round of a loop over a text comes to. -/
inductive Round (ρ ε : Type) where
  | goesOn (read : ρ) (rest : List Char)
  | ends (outcome : ε)
  deriving DecidableEq, Repr

/-- What the rounds of a loop read, and what ended it. -/
structure Course (ρ ε : Type) where
  reads : List ρ
  outcome : ε
  deriving DecidableEq, Repr

section
variable {ρ ε : Type}

def Course.cons (r : ρ) (c : Course ρ ε) : Course ρ ε := { c with reads := r :: c.reads }

/-- At most so many rounds; nothing if a round fails or there are more. -/
def rounds (round : List Char → Option (Round ρ ε)) : Nat → List Char → Option (Course ρ ε)
  | 0, _ => none
  | fuel + 1, cs =>
    match round cs with
    | none => none
    | some (.ends a) => some ⟨[], a⟩
    | some (.goesOn r rest) => (rounds round fuel rest).map (·.cons r)

/-- No round fails, and one that goes on has read at least a byte. -/
def Advances (round : List Char → Option (Round ρ ε)) : Prop :=
  ∀ cs, ∃ r, round cs = some r ∧
    ∀ read rest, r = .goesOn read rest → ∃ taken, 0 < size taken ∧ cs = taken ++ rest

/-- What is left to `f` after a round. -/
def Round.course (f : List Char → Course ρ ε) : Round ρ ε → Course ρ ε
  | .ends a => ⟨[], a⟩
  | .goesOn r rest => (f rest).cons r

/-- A loop that advances comes to its end, with what any function returns that follows the
rounds. -/
theorem rounds_eq {round : List Char → Option (Round ρ ε)} (hadvances : Advances round)
    {total : Nat} {f : List Char → Course ρ ε}
    (hf : ∀ cs r, size cs ≤ total → round cs = some r → f cs = r.course f) {fuel : Nat}
    {cs : List Char} (htotal : size cs ≤ total) (hfuel : size cs < fuel) :
    rounds round fuel cs = some (f cs) := by
  induction fuel generalizing cs with
  | zero => omega
  | succ fuel ih =>
    obtain ⟨r, hr, hmoves⟩ := hadvances cs
    have hcourse := hf cs r htotal hr
    rw [rounds, hr]
    cases r with
    | ends a => exact congrArg some hcourse.symm
    | goesOn read rest =>
      obtain ⟨taken, hpos, rfl⟩ := hmoves read rest rfl
      rw [Text.Utf8.size_append] at htotal hfuel
      have hrest : rounds round fuel rest = some (f rest) := ih (by omega) (by omega)
      simp only [hrest]
      exact congrArg some hcourse.symm

end

/-! ## The search -/

namespace Token

/-- How many bytes come before the next opening. -/
def findOpening (cs : List Char) : Option Nat := (breakOpening cs).map fun p => size p.1

/-- How many bytes come before the next closing parenthesis. -/
def findClosing (cs : List Char) : Option Nat := (breakClosing cs).map fun p => size p.1

/-- What the search adds to its lists for a name: what the link set says, unless it is built in. -/
def added? (s : Substitutions) (name : String) : Option (Option (List String)) :=
  if isBuiltin name then none else some (s.get? name)

/-- A token and what the search adds to its lists for it. -/
structure Visit where
  token : Token
  added? : Option (Option (List String))
  deriving DecidableEq, Repr

def visit (s : Substitutions) (t : Token) : Visit := ⟨t, added? s t.name⟩

/-- One round of the search in a wildcard of `total` bytes: on to the next opening and behind its
closing parenthesis. -/
def searchRound (s : Substitutions) (total : Nat) (rest : List Char) :
    Option (Round Visit (Option Nat)) :=
  match findOpening rest with
  | none => some (.ends none)
  | some start => do
    let after ← from? (start + 2) rest
    match findClosing after with
    | none => return .ends (some (total - size rest + start))
    | some close => do
      let name ← upTo? close after
      let rest' ← from? (close + 1) after
      return .goesOn (visit s ⟨total - size rest + start, String.ofList name⟩) rest'

/-- The search as a loop over a wildcard. -/
def searchLoop (s : Substitutions) (w : String) : Option (Course Visit (Option Nat)) :=
  rounds (searchRound s w.utf8ByteSize) (w.utf8ByteSize + 1) w.toList

/-- What the search visits in a text that begins `offset` bytes into the wildcard. -/
def visitsFrom (s : Substitutions) (offset : Nat) (cs : List Char) : Course Visit (Option Nat) :=
  ⟨(findFrom offset cs).tokens.map (visit s), (findFrom offset cs).openAt⟩

/-- Around the next closing parenthesis a text is cut into a name and what stands behind it. -/
theorem slices_of_breakClosing {cs name rest : List Char}
    (h : breakClosing cs = some (name, rest)) :
    findClosing cs = some (size name) ∧ upTo? (size name) cs = some name ∧
      from? (size name + 1) cs = some rest := by
  have hcs : cs = name ++ ')' :: rest := eq_of_breakClosing h
  have hsize : size (name ++ [')']) = size name + 1 := Text.Utf8.size_append _ _
  refine ⟨by rw [findClosing, h]; rfl, ?_, ?_⟩
  · rw [hcs]
    exact Text.Utf8.upTo?_append _ _
  · rw [hcs, List.append_cons, ← hsize]
    exact Text.Utf8.from?_append _ _

theorem findClosing_of_breakClosing {cs : List Char} (h : breakClosing cs = none) :
    findClosing cs = none := by
  rw [findClosing, h]
  rfl

/-- A text is done with, or an opening stays open, or a token is closed. -/
theorem searchRound_cases (s : Substitutions) (total : Nat) (cs : List Char) :
    (breakOpening cs = none ∧ searchRound s total cs = some (.ends none)) ∨
    (∃ before inner, breakOpening cs = some (before, inner) ∧ breakClosing inner = none ∧
      searchRound s total cs = some (.ends (some (total - size cs + size before)))) ∨
    (∃ before inner name rest, breakOpening cs = some (before, inner) ∧
      breakClosing inner = some (name, rest) ∧
      cs = before ++ '$' :: '(' :: (name ++ ')' :: rest) ∧
      searchRound s total cs = some (.goesOn
        (visit s ⟨total - size cs + size before, String.ofList name⟩) rest)) := by
  cases hopen : breakOpening cs with
  | none =>
    refine Or.inl ⟨rfl, ?_⟩
    simp only [searchRound, findOpening, hopen, Option.map_none]
  | some p =>
    obtain ⟨before, inner⟩ := p
    have hcs : cs = (before ++ ['$', '(']) ++ inner := by
      rw [eq_of_breakOpening hopen]
      simp
    have hafter : from? (size before + 2) cs = some inner := by
      have hsize : size (before ++ ['$', '(']) = size before + 2 := Text.Utf8.size_append _ _
      rw [← hsize, hcs]
      exact Text.Utf8.from?_append _ _
    have hstart : findOpening cs = some (size before) := by rw [findOpening, hopen]; rfl
    cases hclose : breakClosing inner with
    | none =>
      refine Or.inr (Or.inl ⟨before, inner, rfl, hclose, ?_⟩)
      simp only [searchRound, hstart, hafter, findClosing_of_breakClosing hclose,
        Option.bind_eq_bind, Option.bind_some]
      rfl
    | some q =>
      obtain ⟨name, rest⟩ := q
      obtain ⟨hsome, hname, hrest⟩ := slices_of_breakClosing hclose
      refine Or.inr (Or.inr ⟨before, inner, name, rest, rfl, hclose, ?_, ?_⟩)
      · rw [hcs, eq_of_breakClosing hclose]
        simp
      · simp only [searchRound, hstart, hafter, hsome, hname, hrest, Option.bind_eq_bind,
          Option.bind_some]
        rfl

theorem advances_searchRound (s : Substitutions) (total : Nat) :
    Advances (searchRound s total) := by
  intro cs
  rcases searchRound_cases s total cs with
    ⟨-, h⟩ | ⟨before, inner, -, -, h⟩ | ⟨before, inner, name, rest, -, -, hcs, h⟩
  · exact ⟨_, h, by simp⟩
  · exact ⟨_, h, by simp⟩
  · refine ⟨_, h, ?_⟩
    intro read rest' hgoes
    cases hgoes
    exact ⟨before ++ '$' :: '(' :: (name ++ [')']), (Text.Utf8.size_pos_iff _).mpr (by simp),
      by rw [hcs]; simp⟩

theorem findFrom_of_no_opening {n : Nat} {cs : List Char} (h : breakOpening cs = none) :
    findFrom n cs = ⟨[], none⟩ := by
  rw [findFrom]
  split
  · rfl
  · next h' => rw [h] at h'; cases h'

theorem findFrom_of_unclosed {n : Nat} {cs before inner : List Char}
    (h : breakOpening cs = some (before, inner)) (hclose : breakClosing inner = none) :
    findFrom n cs = ⟨[], some (n + size before)⟩ := by
  rw [findFrom]
  split
  · next h' => rw [h] at h'; cases h'
  · next h' =>
    cases h.symm.trans h'
    split
    · rfl
    · next hclose' => rw [hclose] at hclose'; cases hclose'

theorem findFrom_of_closed {n : Nat} {cs before inner name rest : List Char}
    (h : breakOpening cs = some (before, inner)) (hclose : breakClosing inner = some (name, rest)) :
    findFrom n cs = .cons ⟨n + size before, String.ofList name⟩
      (findFrom (n + size before + 3 + size name) rest) := by
  rw [findFrom]
  split
  · next h' => rw [h] at h'; cases h'
  · next h' =>
    cases h.symm.trans h'
    split
    · next hclose' => rw [hclose] at hclose'; cases hclose'
    · next hclose' =>
      cases hclose.symm.trans hclose'
      rfl

/-- The search follows its rounds. -/
theorem visitsFrom_eq_course (s : Substitutions) {total : Nat} {cs : List Char}
    {r : Round Visit (Option Nat)} (htotal : size cs ≤ total)
    (h : searchRound s total cs = some r) :
    visitsFrom s (total - size cs) cs = r.course fun cs => visitsFrom s (total - size cs) cs := by
  rcases searchRound_cases s total cs with
    ⟨hopen, hr⟩ | ⟨before, inner, hopen, hclose, hr⟩ |
    ⟨before, inner, name, rest, hopen, hclose, hcs, hr⟩
  · cases h.symm.trans hr
    rw [visitsFrom, findFrom_of_no_opening hopen]
    rfl
  · cases h.symm.trans hr
    rw [visitsFrom, findFrom_of_unclosed hopen hclose]
    rfl
  · cases h.symm.trans hr
    have hsize : size cs = size before + 3 + size name + size rest := by
      have hopening : ('$' : Char).utf8Size = 1 ∧ ('(' : Char).utf8Size = 1 := by decide
      have hclosing : (')' : Char).utf8Size = 1 := by decide
      rw [hcs, Text.Utf8.size_append, Text.Utf8.size_cons, Text.Utf8.size_cons,
        Text.Utf8.size_append, Text.Utf8.size_cons, hopening.1, hopening.2, hclosing]
      omega
    have hoffset : total - size cs + size before + 3 + size name = total - size rest := by omega
    rw [visitsFrom, findFrom_of_closed hopen hclose, hoffset]
    rfl

/-- The loop visits what the search finds, and ends where it does. -/
theorem searchLoop_eq (s : Substitutions) (w : String) :
    searchLoop s w = some ⟨(find w).tokens.map (visit s), (find w).openAt⟩ := by
  unfold searchLoop
  rw [← Text.Utf8.size_toList,
    rounds_eq (advances_searchRound s _) (fun _ _ => visitsFrom_eq_course s) (Nat.le_refl _)
      (Nat.lt_succ_self _),
    Nat.sub_self]
  rfl

/-- What the visits add is what the search returns. -/
theorem added_eq_customLists (s : Substitutions) (w : String) :
    ((find w).tokens.map (visit s)).filterMap (·.added?) = customLists s w := by
  unfold customLists
  rw [List.filterMap_map]
  induction (find w).tokens with
  | nil => rfl
  | cons t ts ih =>
    have hadded : (visit s t).added? = added? s t.name := rfl
    unfold added? at hadded
    cases hbuiltin : isBuiltin t.name with
    | true => simpa [hadded, hbuiltin] using ih
    | false => simpa [hadded, hbuiltin] using ih

end Token

/-! ## The scan -/

/-- What a character stands for outside tokens. -/
def Item.ofChar (c : Char) : Item :=
  if c = '?' then .one else if c = '*' then .run else .literal c

namespace Element

/-- The item that the scan adds, and the token if it was read from one. -/
structure Passed where
  token? : Option Token
  item : Item
  deriving DecidableEq, Repr

/-- One round of the scan in a wildcard of `total` bytes, names being resolved by `lookup`: on by a
character, or behind a token whose opening comes next. -/
def scanRound (lookup : String → Option Item) (total : Nat) :
    List Char → Option (Round Passed (Except PatternError Unit))
  | [] => some (.ends (.ok ()))
  | '$' :: '(' :: after =>
    let offset := total - Text.Utf8.size ('$' :: '(' :: after)
    match Token.findClosing after with
    | none => some (.ends (.error (.unterminatedToken offset)))
    | some close => do
      let name ← upTo? close after
      match lookup (String.ofList name) with
      | none => return .ends (.error (.unresolvedToken (String.ofList name)))
      | some i => do
        let rest ← from? (close + 1) after
        return .goesOn ⟨some ⟨offset, String.ofList name⟩, i⟩ rest
  | c :: cs => do
    let rest ← from? c.utf8Size (c :: cs)
    return .goesOn ⟨none, Item.ofChar c⟩ rest

/-- The scan as a loop over a wildcard. -/
def scanLoop (lookup : String → Option Item) (w : String) :
    Option (Course Passed (Except PatternError Unit)) :=
  rounds (scanRound lookup w.utf8ByteSize) (w.utf8ByteSize + 1) w.toList

/-- What an element stands for if `lookup` resolves names; `offset` is how many bytes come before
it. -/
def resolveBy (lookup : String → Option Item) (offset : Nat) : Element → Except PatternError Item
  | .one => .ok .one
  | .run => .ok .run
  | .literal c => .ok (.literal c)
  | .unclosed _ => .error (.unterminatedToken offset)
  | .token name =>
    match lookup name with
    | some i => .ok i
    | none => .error (.unresolvedToken name)

/-- The token that an element is, at its offset. -/
def token? (offset : Nat) : Element → Option Token
  | .token name => some ⟨offset, name⟩
  | _ => none

/-- What the scan passes in elements that begin `offset` bytes into the wildcard. -/
def walkFrom (lookup : String → Option Item) (offset : Nat) :
    List Element → Course Passed (Except PatternError Unit)
  | [] => ⟨[], .ok ()⟩
  | e :: es =>
    match e.resolveBy lookup offset with
    | .error err => ⟨[], .error err⟩
    | .ok i => (walkFrom lookup (offset + e.size) es).cons ⟨e.token? offset, i⟩

theorem resolveBy_ofChar (lookup : String → Option Item) (n : Nat) (c : Char) :
    (ofChar c).resolveBy lookup n = .ok (Item.ofChar c) ∧ (ofChar c).token? n = none := by
  unfold ofChar Item.ofChar
  split
  · exact ⟨rfl, rfl⟩
  · split
    · exact ⟨rfl, rfl⟩
    · exact ⟨rfl, rfl⟩

/-- The round that passes an element, or fails to. -/
def roundOf (lookup : String → Option Item) (offset : Nat) (e : Element) (rest : List Char) :
    Round Passed (Except PatternError Unit) :=
  match e.resolveBy lookup offset with
  | .error err => .ends (.error err)
  | .ok i => .goesOn ⟨e.token? offset, i⟩ rest

/-- A text is done with, or the round is about its first element. -/
theorem scanRound_cases (lookup : String → Option Item) (total : Nat) (cs : List Char) :
    (cs = [] ∧ scanRound lookup total cs = some (.ends (.ok ()))) ∨
    ∃ e rest, e.text ≠ [] ∧ cs = e.text ++ rest ∧ scanFrom none cs = e :: scanFrom none rest ∧
      scanRound lookup total cs = some (roundOf lookup (total - Text.Utf8.size cs) e rest) := by
  unfold scanRound
  split
  · exact Or.inl ⟨rfl, rfl⟩
  · next after =>
    right
    cases hclose : Token.breakClosing after with
    | none =>
      refine ⟨.unclosed (String.ofList after), [], by simp [text], by simp [text], ?_, ?_⟩
      · show scanFrom none ('$' :: '(' :: after) = [.unclosed (String.ofList after)]
        rw [scanFrom, scanFrom_open_of_none hclose]
        rfl
      · simp only [Token.findClosing_of_breakClosing hclose]
        rfl
    | some q =>
      obtain ⟨name, rest⟩ := q
      have hafter : after = name ++ ')' :: rest := Token.eq_of_breakClosing hclose
      have hnot : ')' ∉ name := ((Token.breakClosing_eq_some_iff after name rest).mp hclose).2
      obtain ⟨hsome, hname, hrest⟩ := Token.slices_of_breakClosing hclose
      refine ⟨.token (String.ofList name), rest, by simp [text], by simp [text, hafter], ?_, ?_⟩
      · rw [hafter, scanFrom, scanFrom_open_append _ _ _ hnot]
        rfl
      · simp only [hsome, hname, hrest, Option.bind_eq_bind, Option.bind_some, roundOf, resolveBy]
        cases lookup (String.ofList name) with
        | none => rfl
        | some i => rfl
  · next c cs hopen =>
    right
    have hopen' : ∀ rest, c = '$' → cs ≠ '(' :: rest := fun rest hc hcs => hopen rest hc hcs
    have hrest : from? c.utf8Size (c :: cs) = some cs := Text.Utf8.from?_append [c] cs
    obtain ⟨hitem, htoken⟩ := resolveBy_ofChar lookup (total - Text.Utf8.size (c :: cs)) c
    refine ⟨ofChar c, cs, by simp [text_ofChar], by simp [text_ofChar], scanFrom_cons hopen', ?_⟩
    simp only [hrest, Option.bind_eq_bind, Option.bind_some, roundOf, hitem, htoken]
    rfl

theorem advances_scanRound (lookup : String → Option Item) (total : Nat) :
    Advances (scanRound lookup total) := by
  intro cs
  rcases scanRound_cases lookup total cs with ⟨-, h⟩ | ⟨e, rest, htext, hcs, -, h⟩
  · exact ⟨_, h, by simp⟩
  · refine ⟨_, h, ?_⟩
    intro read rest' hgoes
    refine ⟨e.text, (Text.Utf8.size_pos_iff _).mpr htext, ?_⟩
    unfold roundOf at hgoes
    cases he : e.resolveBy lookup (total - Text.Utf8.size cs) with
    | error err => simp [he] at hgoes
    | ok i =>
      rw [he] at hgoes
      cases hgoes
      exact hcs

/-- The scan follows its rounds. -/
theorem walkFrom_eq_course (lookup : String → Option Item) {total : Nat} {cs : List Char}
    {r : Round Passed (Except PatternError Unit)} (htotal : Text.Utf8.size cs ≤ total)
    (h : scanRound lookup total cs = some r) :
    walkFrom lookup (total - Text.Utf8.size cs) (scanFrom none cs) =
      r.course fun cs => walkFrom lookup (total - Text.Utf8.size cs) (scanFrom none cs) := by
  rcases scanRound_cases lookup total cs with ⟨rfl, hr⟩ | ⟨e, rest, -, hcs, hscan, hr⟩
  · cases h.symm.trans hr
    rfl
  · cases h.symm.trans hr
    have hsize : Text.Utf8.size cs = e.size + Text.Utf8.size rest := by
      rw [hcs, Text.Utf8.size_append]
      rfl
    have hoffset : total - Text.Utf8.size cs + e.size = total - Text.Utf8.size rest := by omega
    rw [hscan, walkFrom, hoffset]
    unfold roundOf
    cases e.resolveBy lookup (total - Text.Utf8.size cs) with
    | error err => rfl
    | ok i => rfl

/-- The loop passes the elements of the wildcard, one after the other. -/
theorem scanLoop_eq (lookup : String → Option Item) (w : String) :
    scanLoop lookup w = some (walkFrom lookup 0 (scan w)) := by
  unfold scanLoop
  rw [← Text.Utf8.size_toList,
    rounds_eq (advances_scanRound lookup _) (fun _ _ => walkFrom_eq_course lookup) (Nat.le_refl _)
      (Nat.lt_succ_self _),
    Nat.sub_self]
  rfl

/-- With the names of a link set the scan translates a wildcard. -/
theorem resolveFrom_eq_walkFrom (s : Substitutions) (n : Nat) (es : List Element) :
    resolveFrom s n es =
      (walkFrom (Item.ofToken? s) n es).outcome.map fun _ =>
        (walkFrom (Item.ofToken? s) n es).reads.map (·.item) := by
  induction es generalizing n with
  | nil => rfl
  | cons e es ih =>
    have hresolve : e.resolve s n = e.resolveBy (Item.ofToken? s) n := by cases e <;> rfl
    rw [resolveFrom, walkFrom, hresolve, ih]
    cases e.resolveBy (Item.ofToken? s) n with
    | error err => rfl
    | ok i =>
      simp only [Course.cons]
      cases (walkFrom (Item.ofToken? s) (n + e.size) es).outcome with
      | error err => rfl
      | ok u => rfl

end Element

end AppLinks
