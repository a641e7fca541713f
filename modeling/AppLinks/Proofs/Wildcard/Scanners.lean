import Mathlib.Data.List.TakeWhile
import AppLinks.Proofs.Wildcard.Loops

/-!
# The search and the scan agree

The search jumps from one opening to the next and resolves nothing; the scan goes character by
character and stops at the first name that it cannot resolve.  Up to there both meet the same tokens
at the same places, and if every name is resolved, to the end.

    tokens passed by the scan = the search's tokens before the first unresolved  (tokens_walkFrom)
    the scan's outcome = that of the search, under the same lookup              (outcome_walkFrom)
-/

namespace AppLinks

/-! ## What a search says of a scan -/

/-- How a scan ends that meets the tokens of a search and resolves their names by `lookup`. -/
def Token.Search.outcome (lookup : String → Option Item) (s : Token.Search) :
    Except PatternError Unit :=
  match s.tokens.find? fun t => (lookup t.name).isNone with
  | some t => .error (.unresolvedToken t.name)
  | none =>
    match s.openAt with
    | some n => .error (.unterminatedToken n)
    | none => .ok ()

namespace Token.Search

variable {lookup : String → Option Item}

theorem outcome_cons_of_some {t : Token} {s : Token.Search} {i : Item}
    (h : lookup t.name = some i) : (s.cons t).outcome lookup = s.outcome lookup := by
  unfold outcome cons
  rw [List.find?_cons, h]
  rfl

theorem outcome_cons_of_none {t : Token} {s : Token.Search} (h : lookup t.name = none) :
    (s.cons t).outcome lookup = .error (.unresolvedToken t.name) := by
  unfold outcome cons
  rw [List.find?_cons, h]
  rfl

/-- If every name is resolved, only an open end can stop the scan. -/
theorem outcome_of_resolved {s : Token.Search} (h : ∀ t ∈ s.tokens, lookup t.name ≠ none) :
    s.outcome lookup =
      match s.openAt with
      | some n => .error (.unterminatedToken n)
      | none => .ok () := by
  have hfind : s.tokens.find? (fun t => (lookup t.name).isNone) = none := by simpa using h
  rw [outcome, hfind]

/-- The opening that nothing closes is told of if every name before it is resolved. -/
theorem outcome_eq_unterminated_iff (s : Token.Search) (n : Nat) :
    s.outcome lookup = .error (.unterminatedToken n) ↔
      s.openAt = some n ∧ ∀ t ∈ s.tokens, lookup t.name ≠ none := by
  unfold outcome
  cases hfind : s.tokens.find? fun t => (lookup t.name).isNone with
  | some t =>
    have hnone : lookup t.name = none := by simpa using List.find?_some hfind
    simp only [Except.error.injEq, reduceCtorEq, false_iff, not_and]
    exact fun _ hall => hall t (List.mem_of_find?_eq_some hfind) hnone
  | none =>
    have hall : ∀ t ∈ s.tokens, lookup t.name ≠ none := by simpa using hfind
    cases s.openAt with
    | some m =>
      simp only [Except.error.injEq, PatternError.unterminatedToken.injEq, Option.some.injEq,
        iff_self_and]
      exact fun _ => hall
    | none => simp

/-- A name is told of if it is the first that is not resolved. -/
theorem outcome_eq_unresolved_iff (s : Token.Search) (name : String) :
    s.outcome lookup = .error (.unresolvedToken name) ↔
      ∃ before t after, s.tokens = before ++ t :: after ∧ t.name = name ∧ lookup t.name = none ∧
        ∀ b ∈ before, lookup b.name ≠ none := by
  constructor
  · intro h
    unfold outcome at h
    cases hfind : s.tokens.find? fun t => (lookup t.name).isNone with
    | some t =>
      obtain ⟨hnone, before, after, htokens, hbefore⟩ := List.find?_eq_some_iff_append.mp hfind
      rw [hfind] at h
      cases h
      exact ⟨before, t, after, htokens, rfl, by simpa using hnone,
        fun b hb => Option.isSome_iff_ne_none.mp (by simpa using hbefore b hb)⟩
    | none =>
      rw [hfind] at h
      cases hopen : s.openAt with
      | some n => simp [hopen] at h
      | none => simp [hopen] at h
  · rintro ⟨before, t, after, htokens, rfl, hnone, hbefore⟩
    have hfind : s.tokens.find? (fun t => (lookup t.name).isNone) = some t :=
      List.find?_eq_some_iff_append.mpr
        ⟨by simp [hnone], before, after, htokens, fun b hb => by
          simpa using Option.isSome_iff_ne_none.mpr (hbefore b hb)⟩
    rw [outcome, hfind]

end Token.Search

namespace Element

variable (lookup : String → Option Item)

/-- The scan passes the tokens that the search finds, up to the first that is not resolved. -/
theorem tokens_walkFrom (n : Nat) (es : List Element) :
    (walkFrom lookup n es).reads.filterMap (·.token?) =
      (search n es).tokens.takeWhile fun t => (lookup t.name).isSome := by
  induction es generalizing n with
  | nil => rfl
  | cons e es ih =>
    cases e with
    | token name =>
      simp only [walkFrom, resolveBy, search, Token.Search.cons, List.takeWhile_cons]
      cases lookup name with
      | none => rfl
      | some i => exact congrArg _ (ih _)
    | unclosed rest => rfl
    | one => exact ih _
    | run => exact ih _
    | literal c => exact ih _

/-- The scan ends as the search says. -/
theorem outcome_walkFrom (n : Nat) (es : List Element) :
    (walkFrom lookup n es).outcome = (search n es).outcome lookup := by
  induction es generalizing n with
  | nil => rfl
  | cons e es ih =>
    cases e with
    | token name =>
      simp only [walkFrom, resolveBy, search]
      cases h : lookup name with
      | none => rw [Token.Search.outcome_cons_of_none h]
      | some i => rw [Token.Search.outcome_cons_of_some h, ← ih]; rfl
    | unclosed rest => rfl
    | one => exact ih _
    | run => exact ih _
    | literal c => exact ih _

variable {lookup}

theorem walk_eq_unterminated_iff (w : String) (n : Nat) :
    (walkFrom lookup 0 (scan w)).outcome = .error (.unterminatedToken n) ↔
      (Token.find w).openAt = some n ∧ ∀ t ∈ (Token.find w).tokens, lookup t.name ≠ none := by
  rw [outcome_walkFrom, ← find_eq_search, Token.Search.outcome_eq_unterminated_iff]

theorem walk_eq_unresolved_iff (w name : String) :
    (walkFrom lookup 0 (scan w)).outcome = .error (.unresolvedToken name) ↔
      ∃ before t after, (Token.find w).tokens = before ++ t :: after ∧ t.name = name ∧
        lookup t.name = none ∧ ∀ b ∈ before, lookup b.name ≠ none := by
  rw [outcome_walkFrom, ← find_eq_search, Token.Search.outcome_eq_unresolved_iff]

/-- If every name is resolved, all tokens are passed. -/
theorem tokens_walk_of_resolved (w : String) (h : ∀ name, lookup name ≠ none) :
    (walkFrom lookup 0 (scan w)).reads.filterMap (·.token?) = (Token.find w).tokens := by
  rw [tokens_walkFrom, ← find_eq_search]
  exact List.takeWhile_eq_self_iff.mpr fun t _ => Option.isSome_iff_ne_none.mpr (h t.name)

theorem walk_eq_ok_iff_of_resolved (w : String) (h : ∀ name, lookup name ≠ none) :
    (walkFrom lookup 0 (scan w)).outcome = .ok () ↔ (Token.find w).openAt = none := by
  rw [outcome_walkFrom, ← find_eq_search, Token.Search.outcome_of_resolved fun t _ => h t.name]
  cases (Token.find w).openAt with
  | some n => simp
  | none => simp

end Element

/-! ## What is added for a name -/

namespace Token

/-- A name has no meaning just if the search adds for it that there is no list. -/
theorem added?_eq_some_none_iff (s : Substitutions) (name : String) :
    added? s name = some none ↔ Item.ofToken? s name = none := by
  unfold added? isBuiltin Item.ofToken?
  cases Item.builtin? name with
  | some i => simp
  | none => simp

theorem customLists_eq_filterMap (s : Substitutions) (w : String) :
    customLists s w = (find w).tokens.filterMap fun t => added? s t.name := by
  rw [← added_eq_customLists, List.filterMap_map]
  rfl

theorem none_mem_customLists_iff (s : Substitutions) (w : String) :
    none ∈ customLists s w ↔ ∃ t ∈ (find w).tokens, Item.ofToken? s t.name = none := by
  rw [customLists_eq_filterMap, List.mem_filterMap]
  simp only [added?_eq_some_none_iff]

end Token

/-! ## Top theorem -/

/-- **The search and the scan agree on every wildcard**: no round of either fails or stands still;
the search visits the tokens that the scan passes if every name is resolved, and ends early where
the scan then finds an opening that nothing closes.  With the names of a link set the scan fails at
the first token for which the search adds that there is no list, and at an open end if there is no
such token. -/
theorem scanners_agree (s : Substitutions) (w : String) :
    let T := (Token.find w).tokens
    let openAt := (Token.find w).openAt
    (∀ total, Advances (Token.searchRound s total)) ∧
    (∀ lookup total, Advances (Element.scanRound lookup total)) ∧
    (∃ c, Token.searchLoop s w = some c ∧ c.reads.map (·.token) = T ∧ c.outcome = openAt ∧
      c.reads.filterMap (·.added?) = Token.customLists s w) ∧
    Token.customLists s w =
      (T.filter fun t => !Token.isBuiltin t.name).map (fun t => s.get? t.name) ∧
    (∀ item : String → Item, ∃ c,
      Element.scanLoop (fun name => some (item name)) w = some c ∧
      c.reads.filterMap (·.token?) = T ∧
      (∀ n, c.outcome = .error (.unterminatedToken n) ↔ openAt = some n) ∧
      (c.outcome = .ok () ↔ openAt = none)) ∧
    ∃ c, Element.scanLoop (Item.ofToken? s) w = some c ∧
      Element.resolveFrom s 0 (Element.scan w) =
        c.outcome.map (fun _ => c.reads.map (·.item)) ∧
      (∀ n, c.outcome = .error (.unterminatedToken n) ↔
        openAt = some n ∧ none ∉ Token.customLists s w) ∧
      ∀ name, c.outcome = .error (.unresolvedToken name) ↔
        ∃ before t after, T = before ++ t :: after ∧ t.name = name ∧
          Token.added? s t.name = some none ∧
          ∀ b ∈ before, Token.added? s b.name ≠ some none := by
  intro T openAt
  refine ⟨Token.advances_searchRound s, Element.advances_scanRound, ?_, rfl, ?_, ?_⟩
  · refine ⟨_, Token.searchLoop_eq s w, ?_, rfl, Token.added_eq_customLists s w⟩
    show (T.map (Token.visit s)).map (·.token) = T
    rw [List.map_map]
    exact List.map_id T
  · intro item
    have hresolved : ∀ name, some (item name) ≠ none := fun name => Option.some_ne_none _
    refine ⟨_, Element.scanLoop_eq _ w, Element.tokens_walk_of_resolved w hresolved, ?_,
      Element.walk_eq_ok_iff_of_resolved w hresolved⟩
    intro n
    rw [Element.walk_eq_unterminated_iff]
    exact and_iff_left fun t _ => hresolved t.name
  · refine ⟨_, Element.scanLoop_eq _ w, Element.resolveFrom_eq_walkFrom s 0 _, ?_, ?_⟩
    · intro n
      rw [Element.walk_eq_unterminated_iff, Token.none_mem_customLists_iff]
      simp only [not_exists, not_and, ne_eq]
      rfl
    · intro name
      rw [Element.walk_eq_unresolved_iff]
      simp only [Token.added?_eq_some_none_iff, ne_eq]
      rfl

/-- The second dollar sign opens, and what it opens runs up to the first closing parenthesis. -/
example :
    Token.searchLoop .empty "é$$($(a)x$(lang)$(b" =
        some ⟨[⟨⟨3, "$(a"⟩, some none⟩, ⟨⟨10, "lang"⟩, none⟩], some 17⟩ ∧
      (Element.scanLoop (Item.ofToken? .empty) "é$$($(a)x$(lang)$(b").map (·.outcome) =
        some (.error (.unresolvedToken "$(a")) := by
  decide +kernel

end AppLinks
