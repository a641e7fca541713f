import AppLinks.Text.CodeRanges

/-!
# Regular expressions

Syntax trees, the texts they find, and the reading of a pattern character by character: escaped and
plain characters, the dot, the star behind an item, bracket classes, groups that capture nothing and
alternatives between bars.  A pattern that uses any other syntax (`+`, `?`, `^`, a counted
repetition, a set operation in a class) is not read.

    (Regex.sequence (e :: es)).Takes same b s a ↔
      ∃ u v, s = u ++ v ∧ e.Takes same b u (v ++ a) ∧ (sequence es).Takes same (b ++ u) v a
                                                                     (takes_sequence_cons)
-/

namespace AppLinks

/-! ## Trees -/

/-- A member of a bracket class. -/
inductive ClassMember where
  | range (first last : Char)
  /-- `\s` -/
  | blank
  /-- `\S` -/
  | notBlank

inductive Regex where
  | char (c : Char)
  | any
  | bracket (negated : Bool) (members : List ClassMember)
  | star (e : Regex)
  | sequence (es : List Regex)
  | alternatives (es : List Regex)
  /-- `\A` -/
  | atStart
  /-- `\z` -/
  | atEnd

/-! ## Language -/

/-- White space, as the Unicode character database has it. -/
def ClassMember.blanks : CodeRanges :=
  [(0x09, 0x0d), (0x20, 0x20), (0x85, 0x85), (0xa0, 0xa0), (0x1680, 0x1680), (0x2000, 0x200a),
   (0x2028, 0x2029), (0x202f, 0x202f), (0x205f, 0x205f), (0x3000, 0x3000)]

def ClassMember.Holds : ClassMember → Char → Prop
  | .range first last, c => first ≤ c ∧ c ≤ last
  | .blank, c => blanks.contains c = true
  | .notBlank, c => blanks.contains c = false

namespace Regex

/-- Some member holds of a character that counts as `d`; negated, none does. -/
def InBracket (same : Char → Char → Prop) (negated : Bool) (members : List ClassMember)
    (d : Char) : Prop :=
  if negated then ¬ ∃ m ∈ members, ∃ c, m.Holds c ∧ same c d
  else ∃ m ∈ members, ∃ c, m.Holds c ∧ same c d

/-- `e` takes `part` of a text that goes on as `after` and has `before` in front of it; `same`
says which characters of the text count as a character of the pattern. A dot takes a line break
like any other character. -/
inductive Takes (same : Char → Char → Prop) :
    Regex → (before part after : List Char) → Prop
  | char {c d : Char} {b a : List Char} : same c d → Takes same (.char c) b [d] a
  | any {d : Char} {b a : List Char} : Takes same .any b [d] a
  | bracket {negated : Bool} {members : List ClassMember} {d : Char} {b a : List Char} :
      InBracket same negated members d → Takes same (.bracket negated members) b [d] a
  | starNil {e : Regex} {b a : List Char} : Takes same (.star e) b [] a
  | starCons {e : Regex} {b u v a : List Char} : Takes same e b u (v ++ a) →
      Takes same (.star e) (b ++ u) v a → Takes same (.star e) b (u ++ v) a
  | sequenceNil {b a : List Char} : Takes same (.sequence []) b [] a
  | sequenceCons {e : Regex} {es : List Regex} {b u v a : List Char} :
      Takes same e b u (v ++ a) → Takes same (.sequence es) (b ++ u) v a →
      Takes same (.sequence (e :: es)) b (u ++ v) a
  | alternatives {e : Regex} {es : List Regex} {b u a : List Char} : e ∈ es →
      Takes same e b u a → Takes same (.alternatives es) b u a
  | atStart {a : List Char} : Takes same .atStart [] [] a
  | atEnd {b : List Char} : Takes same .atEnd b [] []

/-- Some part of the text is taken. -/
def FoundIn (same : Char → Char → Prop) (e : Regex) (text : List Char) : Prop :=
  ∃ before part after, text = before ++ part ++ after ∧ e.Takes same before part after

section
variable {same : Char → Char → Prop} {b s a : List Char}

theorem takes_char_iff (c : Char) :
    (Regex.char c).Takes same b s a ↔ ∃ d, s = [d] ∧ same c d := by
  constructor
  · intro h
    cases h with
    | char hd => exact ⟨_, rfl, hd⟩
  · rintro ⟨d, rfl, h⟩
    exact .char h

theorem takes_any_iff : Regex.any.Takes same b s a ↔ ∃ d, s = [d] := by
  constructor
  · rintro ⟨⟩
    exact ⟨_, rfl⟩
  · rintro ⟨d, rfl⟩
    exact .any

theorem takes_bracket_iff (negated : Bool) (members : List ClassMember) :
    (Regex.bracket negated members).Takes same b s a ↔
      ∃ d, s = [d] ∧ InBracket same negated members d := by
  constructor
  · intro h
    cases h with
    | bracket hd => exact ⟨_, rfl, hd⟩
  · rintro ⟨d, rfl, h⟩
    exact .bracket h

theorem takes_star_any : (Regex.star .any).Takes same b s a := by
  induction s generalizing b with
  | nil => exact .starNil
  | cons c s ih => exact .starCons (u := [c]) .any ih

theorem takes_sequence_nil : (Regex.sequence []).Takes same b s a ↔ s = [] := by
  constructor
  · rintro ⟨⟩
    rfl
  · rintro rfl
    exact .sequenceNil

theorem takes_sequence_cons (e : Regex) (es : List Regex) :
    (Regex.sequence (e :: es)).Takes same b s a ↔
      ∃ u v, s = u ++ v ∧ e.Takes same b u (v ++ a) ∧
        (Regex.sequence es).Takes same (b ++ u) v a := by
  constructor
  · intro h
    cases h with
    | @sequenceCons _ _ _ u v _ hu hv => exact ⟨u, v, rfl, hu, hv⟩
  · rintro ⟨u, v, rfl, hu, hv⟩
    exact .sequenceCons hu hv

theorem takes_alternatives_iff (es : List Regex) :
    (Regex.alternatives es).Takes same b s a ↔ ∃ e ∈ es, e.Takes same b s a := by
  constructor
  · intro h
    cases h with
    | alternatives he h => exact ⟨_, he, h⟩
  · rintro ⟨e, he, h⟩
    exact .alternatives he h

theorem takes_atStart_iff : Regex.atStart.Takes same b s a ↔ s = [] ∧ b = [] := by
  constructor
  · rintro ⟨⟩
    exact ⟨rfl, rfl⟩
  · rintro ⟨rfl, rfl⟩
    exact .atStart

theorem takes_atEnd_iff : Regex.atEnd.Takes same b s a ↔ s = [] ∧ a = [] := by
  constructor
  · rintro ⟨⟩
    exact ⟨rfl, rfl⟩
  · rintro ⟨rfl, rfl⟩
    exact .atEnd

/-- Held at both ends, an expression is found where it takes the whole text. -/
theorem foundIn_anchored_iff (e : Regex) (text : List Char) :
    (Regex.alternatives [.sequence [.atStart, e, .atEnd]]).FoundIn same text ↔
      e.Takes same [] text [] := by
  constructor
  · rintro ⟨b, s, a, rfl, h⟩
    rw [takes_alternatives_iff] at h
    obtain ⟨_, hmem, h⟩ := h
    obtain rfl := List.mem_singleton.mp hmem
    obtain ⟨u, v, rfl, hstart, h⟩ := (takes_sequence_cons _ _).mp h
    obtain ⟨rfl, rfl⟩ := takes_atStart_iff.mp hstart
    obtain ⟨u, w, rfl, he, h⟩ := (takes_sequence_cons _ _).mp h
    obtain ⟨u', v', rfl, hend, h⟩ := (takes_sequence_cons _ _).mp h
    obtain ⟨rfl, hrest⟩ := takes_atEnd_iff.mp hend
    obtain rfl := takes_sequence_nil.mp h
    obtain rfl : a = [] := by simpa using hrest
    simpa using he
  · intro h
    refine ⟨[], text, [], by simp, .alternatives List.mem_cons_self ?_⟩
    have hend : (Regex.sequence [.atEnd]).Takes same ([] ++ [] ++ text) ([] ++ []) [] :=
      .sequenceCons .atEnd .sequenceNil
    have hrest : (Regex.sequence [e, .atEnd]).Takes same ([] ++ []) (text ++ []) [] :=
      .sequenceCons (v := []) h hend
    have hall := Takes.sequenceCons (u := []) (b := []) Takes.atStart hrest
    simpa using hall

end

/-! ## Reading -/

/-- A group that is being read: its alternatives before the last bar and the items behind it, the
last first in both. -/
structure Frame where
  closed : List Regex := []
  items : List Regex := []

namespace Frame

def push (f : Frame) (e : Regex) : Frame := { f with items := e :: f.items }

/-- The alternatives up to and with the one that is being read. -/
def alternatives (f : Frame) : List Regex := .sequence f.items.reverse :: f.closed

def nextAlternative (f : Frame) : Frame := ⟨f.alternatives, []⟩

def regex (f : Frame) : Regex := .alternatives f.alternatives.reverse

end Frame

/-- Where the reader stands. -/
inductive Mode where
  | plain
  /-- Behind a backslash. -/
  | escape
  /-- Behind `(`, and with `marked` behind `(?`. -/
  | opening (marked : Bool)
  /-- Behind `[`. -/
  | bracket
  /-- In a class, `members` read, the last first. -/
  | members (negated : Bool) (members : List ClassMember)
  | memberEscape (negated : Bool) (members : List ClassMember)
  /-- In a class, behind a character that may begin an interval. -/
  | member (negated : Bool) (members : List ClassMember) (first : Char)
  | interval (negated : Bool) (members : List ClassMember) (first : Char)

structure Reading where
  mode : Mode := .plain
  /-- The open groups around the innermost one, from the inside. -/
  outer : List Frame := []
  frame : Frame := {}

/-- Characters that have a meaning in a pattern outside classes and are no part of it here. -/
def unsupported : List Char := ['+', '?', '\x7b', '^', '$']

/-- Characters that have a meaning in a class. -/
def classSyntax : List Char := ['\\', '[', ']', '^', '-', '&', '~']

/-- What a backslash makes of a character. -/
def escaped? (c : Char) : Option Regex :=
  if c = 'A' then some .atStart
  else if c = 'z' then some .atEnd
  else if c.toNat < 0x80 && !c.isAlphanum && c != '<' && c != '>' then some (.char c)
  else none

namespace Reading

def goTo (st : Reading) (m : Mode) : Reading := { st with mode := m }

/-- An item is read, and the pattern goes on behind it. -/
def push (st : Reading) (e : Regex) : Reading := ⟨.plain, st.outer, st.frame.push e⟩

/-- The innermost group ends. -/
def leave (st : Reading) : Option Reading :=
  match st.outer with
  | [] => none
  | f :: outer => some ⟨.plain, outer, f.push st.frame.regex⟩

/-- The last item is repeated. -/
def repeatLast (st : Reading) : Option Reading :=
  match st.frame.items with
  | [] => none
  | e :: items => some { st with frame := ⟨st.frame.closed, .star e :: items⟩ }

def stepPlain (st : Reading) (c : Char) : Option Reading :=
  if c = '\\' then some (st.goTo .escape)
  else if c = '(' then some (st.goTo (.opening false))
  else if c = ')' then st.leave
  else if c = '|' then some { st with frame := st.frame.nextAlternative }
  else if c = '[' then some (st.goTo .bracket)
  else if c = '.' then some (st.push .any)
  else if c = '*' then st.repeatLast
  else if unsupported.contains c then none
  else some (st.push (.char c))

def stepMembers (st : Reading) (negated : Bool) (ms : List ClassMember) (c : Char) :
    Option Reading :=
  if c = '\\' then some (st.goTo (.memberEscape negated ms))
  else if c = ']' then
    if ms.isEmpty then none else some (st.push (.bracket negated ms.reverse))
  else if classSyntax.contains c then none
  else some (st.goTo (.member negated ms c))

def step (st : Reading) (c : Char) : Option Reading :=
  match st.mode with
  | .plain => st.stepPlain c
  | .escape => (escaped? c).map st.push
  | .opening false => if c = '?' then some (st.goTo (.opening true)) else none
  | .opening true => if c = ':' then some ⟨.plain, st.frame :: st.outer, {}⟩ else none
  | .bracket =>
    if c = '^' then some (st.goTo (.members true [])) else st.stepMembers false [] c
  | .members negated ms => st.stepMembers negated ms c
  | .memberEscape negated ms =>
    if c = 's' then some (st.goTo (.members negated (.blank :: ms)))
    else if c = 'S' then some (st.goTo (.members negated (.notBlank :: ms)))
    else none
  | .member negated ms first =>
    if c = '-' then some (st.goTo (.interval negated ms first))
    else st.stepMembers negated (.range first first :: ms) c
  | .interval negated ms first =>
    if classSyntax.contains c || c < first then none
    else some (st.goTo (.members negated (.range first c :: ms)))

def finish (st : Reading) : Option Regex :=
  match st.mode, st.outer with
  | .plain, [] => some st.frame.regex
  | _, _ => none

def run (st : Reading) (cs : List Char) : Option Reading := cs.foldlM step st

theorem run_cons {st st' : Reading} {c : Char} (h : st.step c = some st') (cs : List Char) :
    st.run (c :: cs) = st'.run cs := by
  unfold run
  rw [List.foldlM_cons, h]
  rfl

theorem run_append {st st' : Reading} {cs : List Char} (h : st.run cs = some st')
    (ds : List Char) : st.run (cs ++ ds) = st'.run ds := by
  unfold run at h ⊢
  rw [List.foldlM_append, h]
  rfl

end Reading

/-- The expression that a pattern spells. -/
def read (pattern : String) : Option Regex :=
  (Reading.run {} pattern.toList).bind Reading.finish

/-- A star repeats the item before it alone, and a bar divides all that its group holds. -/
example : read "a[^x-z]*|(?:\\.b|)" = some (.alternatives
    [.sequence [.char 'a', .star (.bracket true [.range 'x' 'z'])],
     .sequence [.alternatives [.sequence [.char '.', .char 'b'], .sequence []]]]) := by
  rfl

end Regex

end AppLinks
