import AppLinks.Proofs.Wildcard.Meaning

/-!
# Why a wildcard does not compile

Up to its first fault a wildcard is read and resolved as if nothing came after.  The first fault is
an opening that nothing closes or a closed token whose name has no meaning; it decides the error,
and without one nothing but the size of the pattern stands against compiling.

    compile w r = .error (.unterminatedToken n) ↔
      w = p ++ "$(" ++ q, where p compiles and has n bytes and q has no parenthesis
    compile w r = .error (.unresolvedToken name) ↔
      w = p ++ "$(" ++ name ++ ")" ++ q, where p compiles and name has no meaning
                                                        (compile_error_iff_first_fault)
-/

namespace AppLinks

/-- The bytes of a string are those of its characters. -/
theorem Text.Utf8.size_toList (s : String) : size s.toList = s.utf8ByteSize := by
  have hsize : ∀ cs : List Char, size cs = (String.ofList cs).utf8ByteSize := by
    intro cs
    induction cs with
    | nil => rfl
    | cons c cs ih =>
      have hcons : String.ofList (c :: cs) = String.singleton c ++ String.ofList cs := by
        rw [String.singleton_eq_ofList, ← String.ofList_append]
        rfl
      rw [hcons, String.utf8ByteSize_append, String.utf8ByteSize_singleton, ← ih]
      rfl
  rw [hsize, String.ofList_toList]

namespace Element

/-! ## Readings of parts -/

/-- A scan goes on behind a text that is read, unless its last character begins an opening there. -/
theorem scanFrom_append_of_reads {as bs : List Char} {es : List Element} (h : Reads as es)
    (hbs : ∀ rest, bs ≠ '(' :: rest) : scanFrom none (as ++ bs) = es ++ scanFrom none bs := by
  induction h with
  | nil => rfl
  | one _ ih => rw [List.cons_append, scanFrom_cons (by simp), ih]; rfl
  | run _ ih => rw [List.cons_append, scanFrom_cons (by simp), ih]; rfl
  | @token name cs es hname _ ih =>
    have hshape : ('$' :: '(' :: (name ++ ')' :: cs)) ++ bs =
        '$' :: '(' :: (name ++ ')' :: (cs ++ bs)) := by simp
    rw [hshape, scanFrom, scanFrom_open_append _ _ _ hname, ih]
    rfl
  | @literal c cs es hone hrun hopen _ ih =>
    have hopen' : ∀ rest, c = '$' → cs ++ bs ≠ '(' :: rest := by
      intro rest hc he
      cases cs with
      | nil => exact hbs rest he
      | cons d cs =>
        cases he
        exact hopen cs hc rfl
    rw [List.cons_append, scanFrom_cons hopen', ih, ofChar, if_neg hone, if_neg hrun]
    rfl

/-- A reading may be cut between any two of its elements. -/
theorem exists_append_of_reads {cs : List Char} {es fs : List Element} (h : Reads cs (es ++ fs)) :
    ∃ as bs, cs = as ++ bs ∧ Reads as es ∧ Reads bs fs := by
  induction es generalizing cs with
  | nil => exact ⟨[], cs, rfl, .nil, h⟩
  | cons e es ih =>
    cases h with
    | one h =>
      obtain ⟨as, bs, rfl, has, hbs⟩ := ih h
      exact ⟨'?' :: as, bs, rfl, .one has, hbs⟩
    | run h =>
      obtain ⟨as, bs, rfl, has, hbs⟩ := ih h
      exact ⟨'*' :: as, bs, rfl, .run has, hbs⟩
    | @token name cs _ hname h =>
      obtain ⟨as, bs, rfl, has, hbs⟩ := ih h
      exact ⟨'$' :: '(' :: (name ++ ')' :: as), bs, by simp, .token hname has, hbs⟩
    | @literal c cs _ hone hrun hopen h =>
      obtain ⟨as, bs, rfl, has, hbs⟩ := ih h
      refine ⟨c :: as, bs, rfl, .literal hone hrun ?_ has, hbs⟩
      intro rest hc he
      exact hopen (rest ++ bs) hc (by rw [he]; rfl)

/-- Every text is read up to its end or up to an opening that nothing closes. -/
theorem exists_reads (cs : List Char) :
    ∃ as es, Reads as es ∧
      ((cs = as ∧ scanFrom none cs = es) ∨
        ∃ rest, cs = as ++ '$' :: '(' :: rest ∧ ')' ∉ rest ∧
          scanFrom none cs = es ++ [.unclosed (String.ofList rest)]) := by
  -- a token is passed as a whole, so the induction is on the length
  induction hn : cs.length using Nat.strongRecOn generalizing cs with
  | _ n ih =>
    match cs with
    | [] => exact ⟨[], [], .nil, Or.inl ⟨rfl, rfl⟩⟩
    | c :: cs =>
      by_cases hopen : ∃ rest, c = '$' ∧ cs = '(' :: rest
      · obtain ⟨rest, rfl, rfl⟩ := hopen
        cases hb : Token.breakClosing rest with
        | none =>
          have hnot : ')' ∉ rest := (Token.breakClosing_eq_none_iff rest).mp hb
          refine ⟨[], [], .nil, Or.inr ⟨rest, rfl, hnot, ?_⟩⟩
          rw [scanFrom, scanFrom_open_of_none hb]
          rfl
        | some p =>
          obtain ⟨name, tail⟩ := p
          obtain ⟨rfl, hname⟩ := (Token.breakClosing_eq_some_iff rest name tail).mp hb
          have hlt : tail.length < n := by
            rw [← hn]
            simp only [List.length_cons, List.length_append]
            omega
          have hscan : scanFrom none ('$' :: '(' :: (name ++ ')' :: tail)) =
              .token (String.ofList name) :: scanFrom none tail := by
            rw [scanFrom, scanFrom_open_append _ _ _ hname]
            rfl
          rw [hscan]
          obtain ⟨as, es, has, ⟨rfl, hes⟩ | ⟨open', rfl, hnot, hes⟩⟩ := ih tail.length hlt tail rfl
          · exact ⟨_, _, .token hname has, Or.inl ⟨rfl, by rw [hes]⟩⟩
          · exact ⟨_, _, .token hname has, Or.inr ⟨open', by simp, hnot, by rw [hes]; rfl⟩⟩
      · have hopen' : ∀ rest, c = '$' → cs ≠ '(' :: rest := fun rest hc hcs =>
          hopen ⟨rest, hc, hcs⟩
        have hlt : cs.length < n := by rw [← hn]; simp
        rw [scanFrom_cons hopen']
        -- the character goes in front of whatever is read behind it
        have hfront : ∀ as es, (∀ rest, c = '$' → as ≠ '(' :: rest) → Reads as es →
            Reads (c :: as) (ofChar c :: es) := by
          intro as es hnext has
          unfold ofChar
          split
          · next hc => subst hc; exact .one has
          · next hc =>
            split
            · next hr => subst hr; exact .run has
            · next hr => exact .literal hc hr hnext has
        obtain ⟨as, es, has, ⟨rfl, hes⟩ | ⟨rest, rfl, hnot, hes⟩⟩ := ih cs.length hlt cs rfl
        · exact ⟨_, _, hfront _ es hopen' has, Or.inl ⟨rfl, by rw [hes]⟩⟩
        · refine ⟨_, _, hfront as es ?_ has, Or.inr ⟨rest, rfl, hnot, by rw [hes]; rfl⟩⟩
          intro tail hc he
          exact hopen' (tail ++ '$' :: '(' :: rest) hc (by rw [he]; rfl)

/-! ## Resolving in order -/

variable {s : Substitutions}

/-- What comes first is resolved first, and what comes after it has its bytes before it. -/
theorem resolveFrom_append (s : Substitutions) (n : Nat) (es fs : List Element) :
    resolveFrom s n (es ++ fs) =
      match resolveFrom s n es with
      | .error e => .error e
      | .ok is => (resolveFrom s (n + Text.Utf8.size (es.flatMap text)) fs).map (is ++ ·) := by
  induction es generalizing n with
  | nil =>
    show resolveFrom s n fs = (resolveFrom s n fs).map ([] ++ ·)
    cases resolveFrom s n fs <;> rfl
  | cons e es ih =>
    have hsize : n + e.size + Text.Utf8.size (es.flatMap text) =
        n + Text.Utf8.size ((e :: es).flatMap text) := by
      rw [List.flatMap_cons, Text.Utf8.size_append, Nat.add_assoc]
      rfl
    rw [List.cons_append, resolveFrom, resolveFrom]
    cases e.resolve s n with
    | error err => rfl
    | ok i =>
      simp only []
      rw [ih (n + e.size), hsize]
      cases resolveFrom s (n + e.size) es with
      | error err => rfl
      | ok is =>
        simp only [Except.map]
        cases resolveFrom s (n + Text.Utf8.size ((e :: es).flatMap text)) fs <;> rfl

/-- Elements that are no open token are all resolved up to a token whose name has no meaning. -/
theorem exists_unresolved_of_resolveFrom {es : List Element} {n : Nat} {err : PatternError}
    (hclosed : ∀ rest, .unclosed rest ∉ es) (h : resolveFrom s n es = .error err) :
    ∃ before name after is, es = before ++ .token name :: after ∧
      resolveFrom s n before = .ok is ∧ Item.ofToken? s name = none ∧
      err = .unresolvedToken name := by
  induction es generalizing n with
  | nil => cases h
  | cons e es ih =>
    rw [resolveFrom] at h
    cases he : e.resolve s n with
    | error err' =>
      rw [he] at h
      cases h
      cases e with
      | token name =>
        simp only [resolve] at he
        cases htoken : Item.ofToken? s name with
        | some i =>
          rw [htoken] at he
          cases he
        | none =>
          rw [htoken] at he
          cases he
          exact ⟨[], name, es, [], rfl, rfl, htoken, rfl⟩
      | unclosed rest => exact absurd List.mem_cons_self (hclosed rest)
      | one => cases he
      | run => cases he
      | literal c => cases he
    | ok i =>
      rw [he] at h
      cases hrest : resolveFrom s (n + e.size) es with
      | ok is =>
        rw [hrest] at h
        cases h
      | error err' =>
        rw [hrest] at h
        cases h
        obtain ⟨before, name, after, is, rfl, hbefore, htoken, rfl⟩ :=
          ih (fun rest hmem => hclosed rest (List.mem_cons_of_mem _ hmem)) hrest
        exact ⟨e :: before, name, after, i :: is, rfl,
          resolveFrom_cons_eq_ok_iff.mpr ⟨i, is, rfl, he, hbefore⟩, htoken, rfl⟩

theorem text_of_reads {cs : List Char} {es : List Element} (h : Reads cs es) :
    es.flatMap text = cs := by
  rw [← scanFrom_eq_of_reads h]
  simpa using text_scanFrom none cs

theorem reads_of_resolveFrom {cs : List Char} {is : List Item}
    (h : resolveFrom s 0 (scanFrom none cs) = .ok is) : Reads cs (scanFrom none cs) :=
  reads_scanFrom cs (not_mem_unclosed_of_resolveFrom h)

/-- An opening behind a text that is resolved, which nothing closes, is the first fault. -/
theorem resolveFrom_of_open {p q : List Char} {is : List Item}
    (hp : resolveFrom s 0 (scanFrom none p) = .ok is) (hq : ')' ∉ q) :
    resolveFrom s 0 (scanFrom none (p ++ '$' :: '(' :: q)) =
      .error (.unterminatedToken (Text.Utf8.size p)) := by
  have hreads := reads_of_resolveFrom hp
  have hnone : Token.breakClosing q = none := (Token.breakClosing_eq_none_iff q).mpr hq
  rw [scanFrom_append_of_reads hreads (by simp), scanFrom, scanFrom_open_of_none hnone,
    resolveFrom_append, hp, text_of_reads hreads]
  simp only [resolveFrom, resolve, Nat.zero_add]
  rfl

/-- A closed token behind a text that is resolved, whose name has no meaning, is the first
fault. -/
theorem resolveFrom_of_unknown {p name q : List Char} {is : List Item}
    (hp : resolveFrom s 0 (scanFrom none p) = .ok is) (hname : ')' ∉ name)
    (hunknown : Item.ofToken? s (String.ofList name) = none) :
    resolveFrom s 0 (scanFrom none (p ++ '$' :: '(' :: (name ++ ')' :: q))) =
      .error (.unresolvedToken (String.ofList name)) := by
  rw [scanFrom_append_of_reads (reads_of_resolveFrom hp) (by simp), scanFrom,
    scanFrom_open_append _ _ _ hname, resolveFrom_append, hp]
  simp only [List.reverse_nil, List.nil_append, resolveFrom, resolve, hunknown]
  rfl

/-- Resolving comes to the end of a text, or to an opening that nothing closes, or to a token
whose name has no meaning. -/
theorem resolveFrom_cases (s : Substitutions) (cs : List Char) :
    (∃ is, resolveFrom s 0 (scanFrom none cs) = .ok is) ∨
      (∃ p q is, cs = p ++ '$' :: '(' :: q ∧ ')' ∉ q ∧
        resolveFrom s 0 (scanFrom none p) = .ok is) ∨
      ∃ p name q is, cs = p ++ '$' :: '(' :: (name ++ ')' :: q) ∧ ')' ∉ name ∧
        resolveFrom s 0 (scanFrom none p) = .ok is ∧
        Item.ofToken? s (String.ofList name) = none := by
  obtain ⟨as, es, has, hcs⟩ := exists_reads cs
  have hscan : scanFrom none as = es := scanFrom_eq_of_reads has
  cases hes : resolveFrom s 0 es with
  | ok is =>
    rcases hcs with ⟨rfl, -⟩ | ⟨q, rfl, hq, -⟩
    · exact Or.inl ⟨is, by rw [hscan]; exact hes⟩
    · exact Or.inr (Or.inl ⟨as, q, is, rfl, hq, by rw [hscan]; exact hes⟩)
  | error err =>
    -- what is read of the text has a fault already, and what is in front of it is read too
    have hclosed : ∀ rest, Element.unclosed rest ∉ es := ((reads_iff as es).mp has).2
    obtain ⟨before, name, after, is, rfl, hbefore, hunknown, -⟩ :=
      exists_unresolved_of_resolveFrom hclosed hes
    obtain ⟨p, bs, rfl, hp, hbs⟩ := exists_append_of_reads has
    cases hbs with
    | @token name tail _ hname _ =>
      have hpscan : scanFrom none p = before := scanFrom_eq_of_reads hp
      have hptext : resolveFrom s 0 (scanFrom none p) = .ok is := by rw [hpscan]; exact hbefore
      refine Or.inr (Or.inr ?_)
      rcases hcs with ⟨rfl, -⟩ | ⟨q, rfl, -, -⟩
      · exact ⟨p, name, tail, is, rfl, hname, hptext, hunknown⟩
      · exact ⟨p, name, tail ++ '$' :: '(' :: q, is, by simp, hname, hptext, hunknown⟩

end Element

/-! ## Compiling -/

namespace Pattern

/-- Nothing stands against compiling but, at most, the size of the pattern. -/
def Translates (r : Rules) (w : String) : Prop :=
  ∀ e, compile w r = .error e → e = .tooLarge

/-- The pattern of some items, unless it is too large. -/
def ofItems (caseSensitive : Bool) (is : List Item) : Except PatternError Pattern :=
  if Item.totalWeight is ≤ PatternError.sizeLimit then .ok ⟨caseSensitive, is⟩
  else .error .tooLarge

variable {w : String} {r : Rules}

theorem compile_of_ok {is : List Item}
    (h : Element.resolveFrom r.substitutions 0 (Element.scan w) = .ok is) :
    compile w r = ofItems r.caseSensitive is := by
  unfold compile ofItems
  rw [h]

theorem compile_of_error {e : PatternError}
    (h : Element.resolveFrom r.substitutions 0 (Element.scan w) = .error e) :
    compile w r = .error e := by
  unfold compile
  rw [h]

theorem error_of_ofItems {b : Bool} {is : List Item} {e : PatternError}
    (h : ofItems b is = .error e) : e = .tooLarge := by
  unfold ofItems at h
  split at h
  · cases h
  · cases h
    rfl

/-- A text with an opening in it that nothing closes. -/
theorem toList_of_open (p q : String) :
    (p ++ "$(" ++ q).toList = p.toList ++ '$' :: '(' :: q.toList := by
  simp

/-- A text with a closed token in it. -/
theorem toList_of_token (p name q : String) :
    (p ++ "$(" ++ name ++ ")" ++ q).toList =
      p.toList ++ '$' :: '(' :: (name.toList ++ ')' :: q.toList) := by
  simp

theorem ofToken?_eq_none_iff (s : Substitutions) (name : String) :
    Item.ofToken? s name = none ↔ ¬ Reserved name ∧ s.get? name = none := by
  rw [← Item.builtin?_eq_none_iff]
  unfold Item.ofToken?
  cases Item.builtin? name with
  | some i => simp
  | none => simp

theorem compile_of_open {p q : String} {is : List Item}
    (hp : Element.resolveFrom r.substitutions 0 (Element.scan p) = .ok is)
    (hq : ')' ∉ q.toList) :
    compile (p ++ "$(" ++ q) r = .error (.unterminatedToken p.utf8ByteSize) := by
  apply compile_of_error
  rw [Element.scan, toList_of_open, Element.resolveFrom_of_open hp hq, Text.Utf8.size_toList]

theorem compile_of_unknown {p name q : String} {is : List Item}
    (hp : Element.resolveFrom r.substitutions 0 (Element.scan p) = .ok is)
    (hname : ')' ∉ name.toList) (hunknown : Item.ofToken? r.substitutions name = none) :
    compile (p ++ "$(" ++ name ++ ")" ++ q) r = .error (.unresolvedToken name) := by
  apply compile_of_error
  have hunknown' : Item.ofToken? r.substitutions (String.ofList name.toList) = none := by
    rw [String.ofList_toList]
    exact hunknown
  rw [Element.scan, toList_of_token, Element.resolveFrom_of_unknown hp hname hunknown',
    String.ofList_toList]

/-- Every wildcard is resolved, or has a first fault behind a part that is resolved. -/
theorem fault_cases (w : String) (r : Rules) :
    (∃ is, Element.resolveFrom r.substitutions 0 (Element.scan w) = .ok is) ∨
      (∃ p q is, w = p ++ "$(" ++ q ∧ ')' ∉ q.toList ∧
        Element.resolveFrom r.substitutions 0 (Element.scan p) = .ok is) ∨
      ∃ p name q is, w = p ++ "$(" ++ name ++ ")" ++ q ∧ ')' ∉ name.toList ∧
        Element.resolveFrom r.substitutions 0 (Element.scan p) = .ok is ∧
        Item.ofToken? r.substitutions name = none := by
  rcases Element.resolveFrom_cases r.substitutions w.toList with
    h | ⟨p, q, is, hw, hq, hp⟩ | ⟨p, name, q, is, hw, hname, hp, hunknown⟩
  · exact Or.inl h
  · refine Or.inr (Or.inl ⟨String.ofList p, String.ofList q, is, ?_, ?_, ?_⟩)
    · apply String.toList_injective
      rw [hw, toList_of_open, String.toList_ofList, String.toList_ofList]
    · rw [String.toList_ofList]
      exact hq
    · rw [Element.scan, String.toList_ofList]
      exact hp
  · refine Or.inr (Or.inr
      ⟨String.ofList p, String.ofList name, String.ofList q, is, ?_, ?_, ?_, hunknown⟩)
    · apply String.toList_injective
      rw [hw, toList_of_token, String.toList_ofList, String.toList_ofList, String.toList_ofList]
    · rw [String.toList_ofList]
      exact hname
    · rw [Element.scan, String.toList_ofList]
      exact hp

theorem translates_iff (r : Rules) (w : String) :
    Translates r w ↔ ∃ is, Element.resolveFrom r.substitutions 0 (Element.scan w) = .ok is := by
  constructor
  · intro h
    rcases fault_cases w r with hok | ⟨p, q, is, rfl, hq, hp⟩ | ⟨p, name, q, is, rfl, hname, hp, hu⟩
    · exact hok
    · have herror := h _ (compile_of_open hp hq)
      cases herror
    · have herror := h _ (compile_of_unknown hp hname hu)
      cases herror
  · rintro ⟨is, his⟩ e he
    rw [compile_of_ok his] at he
    exact error_of_ofItems he

theorem compile_eq_unterminated_iff (w : String) (r : Rules) (n : Nat) :
    compile w r = .error (.unterminatedToken n) ↔
      ∃ p q, w = p ++ "$(" ++ q ∧ p.utf8ByteSize = n ∧ Translates r p ∧ ')' ∉ q.toList := by
  constructor
  · intro h
    rcases fault_cases w r with ⟨is, hok⟩ | ⟨p, q, is, rfl, hq, hp⟩ |
      ⟨p, name, q, is, rfl, hname, hp, hu⟩
    · rw [compile_of_ok hok] at h
      have herror := error_of_ofItems h
      cases herror
    · rw [compile_of_open hp hq] at h
      cases h
      exact ⟨p, q, rfl, rfl, (translates_iff r p).mpr ⟨is, hp⟩, hq⟩
    · rw [compile_of_unknown hp hname hu] at h
      cases h
  · rintro ⟨p, q, rfl, rfl, hp, hq⟩
    obtain ⟨is, his⟩ := (translates_iff r p).mp hp
    exact compile_of_open his hq

theorem compile_eq_unresolved_iff (w : String) (r : Rules) (name : String) :
    compile w r = .error (.unresolvedToken name) ↔
      ∃ p q, w = p ++ "$(" ++ name ++ ")" ++ q ∧ Translates r p ∧ ')' ∉ name.toList ∧
        ¬ Reserved name ∧ r.substitutions.get? name = none := by
  constructor
  · intro h
    rcases fault_cases w r with ⟨is, hok⟩ | ⟨p, q, is, rfl, hq, hp⟩ |
      ⟨p, name', q, is, rfl, hname, hp, hu⟩
    · rw [compile_of_ok hok] at h
      have herror := error_of_ofItems h
      cases herror
    · rw [compile_of_open hp hq] at h
      cases h
    · rw [compile_of_unknown hp hname hu] at h
      cases h
      obtain ⟨hreserved, hlist⟩ := (ofToken?_eq_none_iff _ name).mp hu
      exact ⟨p, q, rfl, (translates_iff r p).mpr ⟨is, hp⟩, hname, hreserved, hlist⟩
  · rintro ⟨p, q, rfl, hp, hname, hreserved, hlist⟩
    obtain ⟨is, his⟩ := (translates_iff r p).mp hp
    exact compile_of_unknown his hname ((ofToken?_eq_none_iff _ name).mpr ⟨hreserved, hlist⟩)

/-- Only the lists count for the outcome; the flag for case is kept in the pattern. -/
theorem compile_flags (w : String) (r : Rules) (caseSensitive percentEncoded : Bool) :
    compile w ⟨caseSensitive, percentEncoded, r.substitutions⟩ =
      (compile w r).map fun p => { p with caseSensitive := caseSensitive } := by
  unfold compile
  cases Element.resolveFrom r.substitutions 0 (Element.scan w) with
  | error e => rfl
  | ok is =>
    simp only []
    split <;> rfl

/-! ## Top theorem -/

/-- **The first fault of a wildcard decides its error, and one without a fault compiles** but for
the size of its pattern, whatever the flags are. -/
theorem compile_error_iff_first_fault (w : String) (r : Rules) :
    (∀ n, compile w r = .error (.unterminatedToken n) ↔
      ∃ p q, w = p ++ "$(" ++ q ∧ p.utf8ByteSize = n ∧ Translates r p ∧ ')' ∉ q.toList) ∧
    (∀ name, compile w r = .error (.unresolvedToken name) ↔
      ∃ p q, w = p ++ "$(" ++ name ++ ")" ++ q ∧ Translates r p ∧ ')' ∉ name.toList ∧
        ¬ Reserved name ∧ r.substitutions.get? name = none) ∧
    ((∃ n, compile w r = .error (.unterminatedToken n)) ∨
      (∃ name, compile w r = .error (.unresolvedToken name)) ∨
      ∃ es is, Element.Reads w.toList es ∧
        List.Forall₂ (fun e i => ∃ n, Element.resolve r.substitutions n e = .ok i) es is ∧
        compile w r = ofItems r.caseSensitive is) ∧
    ∀ caseSensitive percentEncoded,
      compile w ⟨caseSensitive, percentEncoded, r.substitutions⟩ =
        (compile w r).map fun p => { p with caseSensitive := caseSensitive } := by
  refine ⟨compile_eq_unterminated_iff w r, compile_eq_unresolved_iff w r, ?_, compile_flags w r⟩
  rcases fault_cases w r with ⟨is, hok⟩ | ⟨p, q, is, rfl, hq, hp⟩ |
    ⟨p, name, q, is, rfl, hname, hp, hu⟩
  · refine Or.inr (Or.inr ⟨Element.scan w, is, ?_, ?_, compile_of_ok hok⟩)
    · exact Element.reads_of_resolveFrom hok
    · exact Element.forall₂_of_resolveFrom hok
  · exact Or.inl ⟨_, compile_of_open hp hq⟩
  · exact Or.inr (Or.inl ⟨name, compile_of_unknown hp hname hu⟩)

/-- Bytes are counted, not characters, and an opening inside an open token is part of it. -/
example :
    compile "é$$x)$(lang)$(a$(b" {} = .error (.unterminatedToken 13) ∧
      compile "é$$x)$(lang)$(a$(b)$(c" {} = .error (.unresolvedToken "a$(b") := by
  decide +kernel

end Pattern

end AppLinks
