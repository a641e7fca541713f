import AppLinks.Wildcard.Element
import AppLinks.Wildcard.Token

/-!
# Reading a wildcard

`Reads cs es` is the grammar of wildcards whose tokens are all closed: `cs` spells the elements
`es`.  The scan character by character is its only reading, and the search from one opening to the
next finds the tokens of that scan, where they stand.

    Reads cs es ↔ scanFrom none cs = es ∧ no element of es is unclosed        (reads_iff)
    Token.findFrom n cs = search n (scanFrom none cs)                         (findFrom_eq_search)
-/

namespace AppLinks

/-! ## Parentheses and openings -/

namespace Token

theorem breakClosing_eq_none_iff (cs : List Char) : breakClosing cs = none ↔ ')' ∉ cs := by
  induction cs with
  | nil => simp [breakClosing]
  | cons c cs ih =>
    simp only [breakClosing]
    split
    · next hc => simp [hc]
    · next hc => simp [ih, Ne.symm hc]

/-- The text before the first closing parenthesis has none. -/
theorem breakClosing_eq_some_iff (cs name rest : List Char) :
    breakClosing cs = some (name, rest) ↔ cs = name ++ ')' :: rest ∧ ')' ∉ name := by
  induction cs generalizing name with
  | nil => simp [breakClosing]
  | cons c cs ih =>
    simp only [breakClosing]
    split
    · next hc =>
      subst hc
      constructor
      · intro h
        cases h
        exact ⟨rfl, by simp⟩
      · rintro ⟨h, hname⟩
        cases name with
        | nil => cases h; rfl
        | cons d name =>
          cases h
          exact absurd List.mem_cons_self hname
    · next hc =>
      constructor
      · intro h
        obtain ⟨⟨q, r⟩, hq, he⟩ := Option.map_eq_some_iff.mp h
        cases he
        obtain ⟨rfl, hnot⟩ := (ih q).mp hq
        exact ⟨rfl, by simp [hnot, Ne.symm hc]⟩
      · rintro ⟨h, hname⟩
        cases name with
        | nil =>
          cases h
          exact absurd rfl hc
        | cons d name =>
          cases h
          have hname' : ')' ∉ name := fun hm => hname (List.mem_cons_of_mem _ hm)
          rw [(ih name).mpr ⟨rfl, hname'⟩]
          rfl

end Token

namespace Element

/-! ## The grammar -/

/-- `cs` spells the elements `es`; every token is closed by the first parenthesis after it. -/
inductive Reads : List Char → List Element → Prop
  | nil : Reads [] []
  | one {cs : List Char} {es : List Element} : Reads cs es → Reads ('?' :: cs) (.one :: es)
  | run {cs : List Char} {es : List Element} : Reads cs es → Reads ('*' :: cs) (.run :: es)
  | token {name cs : List Char} {es : List Element} : ')' ∉ name → Reads cs es →
      Reads ('$' :: '(' :: (name ++ ')' :: cs)) (.token (String.ofList name) :: es)
  | literal {c : Char} {cs : List Char} {es : List Element} : c ≠ '?' → c ≠ '*' →
      (∀ rest, c = '$' → cs ≠ '(' :: rest) → Reads cs es → Reads (c :: cs) (.literal c :: es)

/-! ## The scan -/

theorem scanFrom_open_of_none {opened cs : List Char} (h : Token.breakClosing cs = none) :
    scanFrom (some opened) cs = [.unclosed (String.ofList (opened.reverse ++ cs))] := by
  induction cs generalizing opened with
  | nil => simp [scanFrom]
  | cons c cs ih =>
    rw [Token.breakClosing_eq_none_iff] at h
    have hc : c ≠ ')' := fun hc => h (by simp [hc])
    have hcs : Token.breakClosing cs = none :=
      (Token.breakClosing_eq_none_iff cs).mpr fun hm => h (List.mem_cons_of_mem _ hm)
    rw [scanFrom, if_neg hc, ih hcs]
    simp

theorem scanFrom_open_append (opened name cs : List Char) (h : ')' ∉ name) :
    scanFrom (some opened) (name ++ ')' :: cs) =
      .token (String.ofList (opened.reverse ++ name)) :: scanFrom none cs := by
  induction name generalizing opened with
  | nil => simp [scanFrom]
  | cons c name ih =>
    have hc : c ≠ ')' := fun hc => h (by simp [hc])
    have hname : ')' ∉ name := fun hm => h (List.mem_cons_of_mem _ hm)
    rw [List.cons_append, scanFrom, if_neg hc, ih _ hname]
    simp

/-- Outside tokens a character that opens none is an element of its own. -/
theorem scanFrom_cons {c : Char} {cs : List Char} (h : ∀ rest, c = '$' → cs ≠ '(' :: rest) :
    scanFrom none (c :: cs) = ofChar c :: scanFrom none cs := by
  rw [scanFrom]
  intro rest hc hcs
  exact h rest hc hcs

theorem scanFrom_eq_of_reads {cs : List Char} {es : List Element} (h : Reads cs es) :
    scanFrom none cs = es := by
  induction h with
  | nil => rfl
  | one _ ih => rw [scanFrom_cons (by simp), ih]; rfl
  | run _ ih => rw [scanFrom_cons (by simp), ih]; rfl
  | token hname _ ih =>
    rw [scanFrom, scanFrom_open_append _ _ _ hname, ih]
    rfl
  | literal hone hrun hopen _ ih =>
    rw [scanFrom_cons hopen, ih, ofChar, if_neg hone, if_neg hrun]

/-- A scan that leaves no token open is a reading. -/
theorem reads_scanFrom (cs : List Char) (h : ∀ s, Element.unclosed s ∉ scanFrom none cs) :
    Reads cs (scanFrom none cs) := by
  -- a token is passed as a whole, so the induction is on the length
  induction hn : cs.length using Nat.strongRecOn generalizing cs with
  | _ n ih =>
    match cs with
    | [] => exact .nil
    | c :: cs =>
      by_cases hopen : ∃ rest, c = '$' ∧ cs = '(' :: rest
      · obtain ⟨rest, rfl, rfl⟩ := hopen
        rw [scanFrom] at h ⊢
        cases hb : Token.breakClosing rest with
        | none =>
          rw [scanFrom_open_of_none hb] at h
          exact absurd List.mem_cons_self (h _)
        | some p =>
          obtain ⟨rfl, hname⟩ := (Token.breakClosing_eq_some_iff rest p.1 p.2).mp hb
          rw [scanFrom_open_append _ _ _ hname] at h ⊢
          refine .token hname (ih p.2.length ?_ p.2 ?_ rfl)
          · rw [← hn]
            simp only [List.length_cons, List.length_append]
            omega
          · exact fun s hs => h s (List.mem_cons_of_mem _ hs)
      · have hopen' : ∀ rest, c = '$' → cs ≠ '(' :: rest := fun rest hc hcs =>
          hopen ⟨rest, hc, hcs⟩
        rw [scanFrom_cons hopen'] at h ⊢
        have hlt : cs.length < n := by rw [← hn]; simp
        have hrest := ih cs.length hlt cs (fun s hs => h s (List.mem_cons_of_mem _ hs)) rfl
        unfold ofChar
        split
        · next hc => subst hc; exact .one hrest
        · next hc =>
          split
          · next hr => subst hr; exact .run hrest
          · next hr => exact .literal hc hr hopen' hrest

/-- The scan is the only reading, and it is one as soon as no token stays open. -/
theorem reads_iff (cs : List Char) (es : List Element) :
    Reads cs es ↔ scanFrom none cs = es ∧ ∀ s, Element.unclosed s ∉ es := by
  constructor
  · intro h
    refine ⟨scanFrom_eq_of_reads h, ?_⟩
    intro s hs
    induction h with
    | nil => cases hs
    | one _ ih => exact ih (by simpa using hs)
    | run _ ih => exact ih (by simpa using hs)
    | token _ _ ih => exact ih (by simpa using hs)
    | literal _ _ _ _ ih => exact ih (by simpa using hs)
  · rintro ⟨rfl, h⟩
    exact reads_scanFrom cs h

/-! ## Tokens of a scan -/

/-- The closed tokens of a scan that begins `n` bytes into the wildcard, and where the open one
stands. -/
def search : Nat → List Element → Token.Search
  | _, [] => ⟨[], none⟩
  | n, .token name :: es => .cons ⟨n, name⟩ (search (n + (Element.token name).size) es)
  | n, .unclosed _ :: _ => ⟨[], some n⟩
  | n, e :: es => search (n + e.size) es

theorem size_ofChar (c : Char) : (ofChar c).size = Text.Utf8.size [c] := by
  rw [size, text_ofChar]

theorem size_token (name : List Char) :
    (Element.token (String.ofList name)).size = 3 + Text.Utf8.size name := by
  have htext : (Element.token (String.ofList name)).text = ['$', '('] ++ name ++ [')'] := by
    simp [text]
  have hopen : Text.Utf8.size ['$', '('] = 2 := rfl
  have hclose : Text.Utf8.size [')'] = 1 := rfl
  rw [size, htext, Text.Utf8.size_append, Text.Utf8.size_append, hopen, hclose]
  omega

theorem search_ofChar_cons (n : Nat) (c : Char) (es : List Element) :
    search n (ofChar c :: es) = search (n + Text.Utf8.size [c]) es := by
  rw [← size_ofChar]
  unfold ofChar
  split
  · rfl
  · split <;> rfl

theorem search_map_ofChar_append (n : Nat) (cs : List Char) (es : List Element) :
    search n (cs.map ofChar ++ es) = search (n + Text.Utf8.size cs) es := by
  induction cs generalizing n with
  | nil => rfl
  | cons c cs ih =>
    have hsize : Text.Utf8.size (c :: cs) = Text.Utf8.size [c] + Text.Utf8.size cs :=
      Text.Utf8.size_append [c] cs
    rw [List.map_cons, List.cons_append, search_ofChar_cons, ih, hsize, Nat.add_assoc]

theorem scanFrom_of_breakOpening_none {cs : List Char} (h : Token.breakOpening cs = none) :
    scanFrom none cs = cs.map ofChar := by
  fun_induction Token.breakOpening cs with
  | case1 => rfl
  | case2 cs => cases h
  | case3 c cs hopen ih =>
    rw [scanFrom_cons hopen, ih (Option.map_eq_none_iff.mp h)]
    rfl

/-- Up to the first opening the scan takes one character after the other. -/
theorem scanFrom_of_breakOpening_some {cs before inner : List Char}
    (h : Token.breakOpening cs = some (before, inner)) :
    scanFrom none cs = before.map ofChar ++ scanFrom (some []) inner := by
  fun_induction Token.breakOpening cs generalizing before inner with
  | case1 => cases h
  | case2 cs =>
    cases h
    rw [scanFrom]
    rfl
  | case3 c cs hopen ih =>
    obtain ⟨q, hq, he⟩ := Option.map_eq_some_iff.mp h
    cases he
    rw [scanFrom_cons hopen, ih hq]
    rfl

/-- The search from one opening to the next finds what the scan finds. -/
theorem findFrom_eq_search (n : Nat) (cs : List Char) :
    Token.findFrom n cs = search n (scanFrom none cs) := by
  fun_induction Token.findFrom n cs with
  | case1 n cs hopen =>
    have h := search_map_ofChar_append n cs []
    rw [List.append_nil] at h
    rw [scanFrom_of_breakOpening_none hopen, h]
    rfl
  | case2 n cs before inner hopen start hclose =>
    rw [scanFrom_of_breakOpening_some hopen, search_map_ofChar_append,
      scanFrom_open_of_none hclose]
    rfl
  | case3 n cs before inner hopen start name rest hclose ih =>
    obtain ⟨rfl, hname⟩ := (Token.breakClosing_eq_some_iff inner name rest).mp hclose
    rw [scanFrom_of_breakOpening_some hopen, search_map_ofChar_append,
      scanFrom_open_append _ _ _ hname, search, size_token, ih]
    rw [Nat.add_assoc]
    rfl

theorem find_eq_search (wildcard : String) : Token.find wildcard = search 0 (scan wildcard) :=
  findFrom_eq_search 0 wildcard.toList

end Element

end AppLinks
