import AppLinks.Json.Printer
import AppLinks.Json.Reader
import AppLinks.Proofs.Text.Utf8

/-!
# The bytes of printed values

What a printed value begins with tells its kind, blanks before it are skipped, and only a number
could go on with what stands behind it.

    skipSpace (ws ++ b :: x) = b :: x, for blanks `ws` and another `b`    (skipSpace_blank_cons)
    text l k j = b :: x → Opens j b                                       (opens_text)
-/

namespace AppLinks.Json

open Text

/-! ## Bytes of characters -/

theorem encodeChar_ascii {c : Char} (h : c.toNat < 0x80) : String.utf8EncodeChar c = [byte c] := by
  have hv : c.val.toNat ≤ 127 := Nat.lt_succ_iff.mp h
  unfold String.utf8EncodeChar
  simp only [if_pos hv]
  rfl

theorem encode_cons_ascii {c : Char} (h : c.toNat < 0x80) (cs : List Char) :
    Utf8.encode (c :: cs) = byte c :: Utf8.encode cs := by
  rw [Utf8.encode_cons, encodeChar_ascii h]
  rfl

theorem encode_map_ascii {cs : List Char} (h : ∀ c ∈ cs, c.toNat < 0x80) :
    Utf8.encode cs = cs.map byte := by
  induction cs with
  | nil => rfl
  | cons c cs ih =>
    rw [encode_cons_ascii (h c List.mem_cons_self), ih fun d hd => h d (List.mem_cons_of_mem _ hd),
      List.map_cons]

/-! ## Blanks -/

def Blank (ws : Input) : Prop := ∀ b ∈ ws, isSpace b = true

theorem blank_nil : Blank [] := by
  intro b hb
  cases hb

theorem skipSpace_append {ws : Input} (h : Blank ws) (x : Input) :
    skipSpace (ws ++ x) = skipSpace x :=
  List.dropWhile_append_of_pos h

theorem skipSpace_blank_cons {ws : Input} (h : Blank ws) {b : UInt8} (hb : isSpace b = false)
    (x : Input) : skipSpace (ws ++ b :: x) = b :: x := by
  rw [skipSpace_append h]
  unfold skipSpace
  rw [List.dropWhile_cons, hb]
  rfl

theorem skipSpace_cons {b : UInt8} (hb : isSpace b = false) (x : Input) :
    skipSpace (b :: x) = b :: x :=
  skipSpace_blank_cons blank_nil hb x

theorem nextValue_blank_cons {ws : Input} (h : Blank ws) {b : UInt8} (hb : isSpace b = false)
    (x : Input) : nextValue (ws ++ b :: x) = .ok (b :: x) := by
  unfold nextValue
  rw [skipSpace_blank_cons h hb]

/-! ## Parts of a text -/

/-- The bytes of a value that stands `k` containers deep. -/
def text (l : Layout) (k : Nat) (j : Json) : Input := Utf8.encode (chars l k j)

/-- The items of an array after the first. -/
def itemsText (l : Layout) (k : Nat) (js : List Json) : Input := Utf8.encode (itemChars l k js)

/-- The members of an object after the first. -/
def membersText (l : Layout) (k : Nat) (ms : List (String × Json)) : Input :=
  Utf8.encode (memberChars l k ms)

/-- What a string holds, behind its opening quote. -/
def stringText (s : String) : Input := Utf8.encode (s.toList.flatMap escapeChar)

def lineText (l : Layout) (k : Nat) : Input := Utf8.encode (l.line k)

def colonText (l : Layout) : Input := Utf8.encode l.colon

theorem blank_lineText (l : Layout) (k : Nat) : Blank (lineText l k) := by
  unfold lineText
  cases l with
  | compact => exact blank_nil
  | indented =>
    have hascii : ∀ c ∈ Layout.indented.line k, c = '\n' ∨ c = ' ' := by
      intro c hc
      rcases List.mem_cons.mp hc with rfl | hc
      · exact Or.inl rfl
      · exact Or.inr (List.eq_of_mem_replicate hc)
    have hlow : ∀ c ∈ Layout.indented.line k, c.toNat < 0x80 := by
      intro c hc
      rcases hascii c hc with rfl | rfl <;> decide
    rw [encode_map_ascii hlow]
    intro b hb
    obtain ⟨c, hc, rfl⟩ := List.mem_map.mp hb
    rcases hascii c hc with rfl | rfl <;> decide

/-- A colon and blanks. -/
theorem colonText_eq (l : Layout) : ∃ ws, Blank ws ∧ colonText l = byte ':' :: ws := by
  cases l with
  | compact => exact ⟨[], blank_nil, rfl⟩
  | indented =>
    refine ⟨[byte ' '], ?_, rfl⟩
    intro b hb
    rw [List.mem_singleton.mp hb]
    rfl

/-! ## Texts of values -/

theorem encode_stringChars (s : String) :
    Utf8.encode (stringChars s) = byte '"' :: (stringText s ++ [byte '"']) := by
  unfold stringText
  rw [stringChars, List.cons_append, encode_cons_ascii (by decide), Utf8.encode_append]
  rfl

section
variable (l : Layout) (k : Nat)

theorem text_string (s : String) :
    text l k (.string s) = byte '"' :: (stringText s ++ [byte '"']) := by
  unfold text
  rw [chars, encode_stringChars]

theorem text_array_nil : text l k (.array []) = [byte '[', byte ']'] := rfl

theorem text_array_cons (j : Json) (js : List Json) :
    text l k (.array (j :: js)) = byte '[' :: (lineText l (k + 1) ++
      (text l (k + 1) j ++ (itemsText l (k + 1) js ++ (lineText l k ++ [byte ']'])))) := by
  have hclose : Utf8.encode [']'] = [byte ']'] := rfl
  unfold text lineText itemsText
  rw [chars]
  simp only [List.cons_append, encode_cons_ascii (c := '[') (by decide), Utf8.encode_append,
    List.append_assoc, hclose]

theorem itemsText_cons (j : Json) (js : List Json) :
    itemsText l k (j :: js) =
      byte ',' :: (lineText l k ++ (text l k j ++ itemsText l k js)) := by
  unfold itemsText text lineText
  rw [itemChars]
  simp only [List.cons_append, encode_cons_ascii (c := ',') (by decide), Utf8.encode_append,
    List.append_assoc]

theorem text_object_nil : text l k (.object []) = [byte '\x7b', byte '\x7d'] := rfl

theorem text_object_cons (n : String) (j : Json) (ms : List (String × Json)) :
    text l k (.object ((n, j) :: ms)) = byte '\x7b' :: (lineText l (k + 1) ++
      (byte '"' :: (stringText n ++ (byte '"' :: (colonText l ++ (text l (k + 1) j ++
        (membersText l (k + 1) ms ++ (lineText l k ++ [byte '\x7d'])))))))) := by
  have hclose : Utf8.encode ['\x7d'] = [byte '\x7d'] := rfl
  unfold text lineText membersText colonText
  rw [chars]
  simp only [List.cons_append, encode_cons_ascii (c := '\x7b') (by decide), Utf8.encode_append,
    List.append_assoc, hclose, encode_stringChars, List.nil_append]

theorem membersText_cons (n : String) (j : Json) (ms : List (String × Json)) :
    membersText l k ((n, j) :: ms) = byte ',' :: (lineText l k ++
      (byte '"' :: (stringText n ++ (byte '"' :: (colonText l ++ (text l k j ++
        membersText l k ms)))))) := by
  unfold membersText text lineText colonText
  rw [memberChars]
  simp only [List.cons_append, encode_cons_ascii (c := ',') (by decide), Utf8.encode_append,
    List.append_assoc, encode_stringChars, List.nil_append]

theorem length_le_itemsText (js : List Json) : js.length ≤ (itemsText l k js).length := by
  induction js with
  | nil => exact Nat.zero_le _
  | cons j js ih =>
    simp only [itemsText_cons, List.length_cons, List.length_append]
    omega

theorem length_le_membersText (ms : List (String × Json)) :
    ms.length ≤ (membersText l k ms).length := by
  induction ms with
  | nil => exact Nat.zero_le _
  | cons m ms ih =>
    obtain ⟨n, j⟩ := m
    simp only [membersText_cons, List.length_cons, List.length_append]
    omega

end

/-! ## What a text begins with -/

/-- The bytes that the text of a value may begin with. -/
def Opens : Json → UInt8 → Prop
  | .null, b => b = byte 'n'
  | .bool true, b => b = byte 't'
  | .bool false, b => b = byte 'f'
  | .number _, b => b = byte '-' ∨ isDigit b = true
  | .string _, b => b = byte '"'
  | .array _, b => b = byte '['
  | .object _, b => b = byte '\x7b'

theorem isDigit_byte_of_mem_toDigits {n : Nat} {c : Char} (h : c ∈ Nat.toDigits 10 n) :
    c.toNat < 0x80 ∧ isDigit (byte c) = true := by
  have hc := Nat.isDigit_of_mem_toDigits (by decide) (by decide) h
  have hrange : 48 ≤ c.toNat ∧ c.toNat ≤ 57 := by
    simpa [Char.isDigit, UInt32.le_iff_toNat_le] using hc
  have hbyte : (byte c).toNat = c.toNat := Utf8.toNat_ofNat_of_lt (by omega)
  have hzero : (byte '0').toNat = 48 := rfl
  have hnine : (byte '9').toNat = 57 := rfl
  refine ⟨by omega, ?_⟩
  simp only [isDigit, Bool.and_eq_true, decide_eq_true_eq, UInt8.le_iff_toNat_le, hbyte, hzero,
    hnine]
  exact hrange

theorem opens_text (l : Layout) (k : Nat) (j : Json) :
    ∃ b x, text l k j = b :: x ∧ Opens j b := by
  cases j with
  | null => exact ⟨_, _, rfl, rfl⟩
  | bool b => cases b <;> exact ⟨_, _, rfl, rfl⟩
  | number n =>
    unfold text
    rw [chars, Numeral.text]
    cases n.negative with
    | true => exact ⟨_, _, encode_cons_ascii (by decide) _, Or.inl rfl⟩
    | false =>
      obtain ⟨c, cs, hdigits⟩ := List.exists_cons_of_ne_nil (Nat.toDigits_ne_nil (n := n.whole))
      obtain ⟨hascii, hdigit⟩ :=
        isDigit_byte_of_mem_toDigits (n := n.whole) (hdigits ▸ List.mem_cons_self)
      rw [hdigits]
      exact ⟨_, _, encode_cons_ascii hascii _, Or.inr hdigit⟩
  | string s => exact ⟨_, _, text_string l k s, rfl⟩
  | array js =>
    cases js with
    | nil => exact ⟨_, _, text_array_nil l k, rfl⟩
    | cons j js => exact ⟨_, _, text_array_cons l k j js, rfl⟩
  | object ms =>
    cases ms with
    | nil => exact ⟨_, _, text_object_nil l k, rfl⟩
    | cons m ms => exact ⟨_, _, text_object_cons l k m.1 m.2 ms, rfl⟩

theorem isSpace_of_isDigit {b : UInt8} (h : isDigit b = true) : isSpace b = false := by
  have hne : ∀ c, isDigit c = false → b ≠ c := by
    rintro c hc rfl
    rw [hc] at h
    cases h
  simp [isSpace, hne (byte ' ') rfl, hne (byte '\n') rfl, hne (byte '\t') rfl, hne (byte '\r') rfl]

namespace Opens

variable {j : Json} {b : UInt8}

theorem isSpace (h : Opens j b) : isSpace b = false := by
  rcases j with _ | (_ | _) | _ | _ | _ | _
  case number =>
    rcases h with rfl | h
    · rfl
    · exact isSpace_of_isDigit h
  all_goals
    cases h
    rfl

theorem ne_of_number {n : Numeral} (h : Opens (.number n) b) {c : UInt8}
    (hc : ¬ (c = byte '-' ∨ isDigit c = true)) : b ≠ c := fun hb => hc (hb ▸ h)

theorem ne_close (h : Opens j b) : b ≠ byte ']' := by
  rcases j with _ | (_ | _) | _ | _ | _ | _
  case number => exact h.ne_of_number (by decide)
  all_goals
    cases h
    decide

theorem null_iff (h : Opens j b) : b = byte 'n' ↔ j = .null := by
  rcases j with _ | (_ | _) | _ | _ | _ | _
  case null => exact iff_of_true h rfl
  case number => exact iff_of_false (h.ne_of_number (by decide)) (by simp)
  all_goals
    cases h
    exact iff_of_false (by decide) (by simp)

theorem true_iff (h : Opens j b) : b = byte 't' ↔ j = .bool true := by
  rcases j with _ | (_ | _) | _ | _ | _ | _
  case bool.true => exact iff_of_true h rfl
  case number => exact iff_of_false (h.ne_of_number (by decide)) (by simp)
  all_goals
    cases h
    exact iff_of_false (by decide) (by simp)

theorem false_iff (h : Opens j b) : b = byte 'f' ↔ j = .bool false := by
  rcases j with _ | (_ | _) | _ | _ | _ | _
  case bool.false => exact iff_of_true h rfl
  case number => exact iff_of_false (h.ne_of_number (by decide)) (by simp)
  all_goals
    cases h
    exact iff_of_false (by decide) (by simp)

theorem string_iff (h : Opens j b) : b = byte '"' ↔ ∃ s, j = .string s := by
  rcases j with _ | (_ | _) | _ | _ | _ | _
  case string s => exact iff_of_true h ⟨s, rfl⟩
  case number => exact iff_of_false (h.ne_of_number (by decide)) (by simp)
  all_goals
    cases h
    exact iff_of_false (by decide) (by simp)

theorem array_iff (h : Opens j b) : b = byte '[' ↔ ∃ js, j = .array js := by
  rcases j with _ | (_ | _) | _ | _ | _ | _
  case array js => exact iff_of_true h ⟨js, rfl⟩
  case number => exact iff_of_false (h.ne_of_number (by decide)) (by simp)
  all_goals
    cases h
    exact iff_of_false (by decide) (by simp)

theorem object_iff (h : Opens j b) : b = byte '\x7b' ↔ ∃ ms, j = .object ms := by
  rcases j with _ | (_ | _) | _ | _ | _ | _
  case object ms => exact iff_of_true h ⟨ms, rfl⟩
  case number => exact iff_of_false (h.ne_of_number (by decide)) (by simp)
  all_goals
    cases h
    exact iff_of_false (by decide) (by simp)

end Opens

end AppLinks.Json
