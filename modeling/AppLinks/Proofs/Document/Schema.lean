import AppLinks.Proofs.Document.Query
import AppLinks.Proofs.Json.Record

/-!
# What a document is read from

For each record, which values spell it, and which record they spell. A text that spells a value is
decoded exactly when the value conforms, and then to the document it spells.

    Document.decode (j.render l) = .ok d ↔ Document.OfJson j d   (Document.decode_render_iff_ofJson)
-/

namespace AppLinks

open Json

/-! ## Conforming values -/

/-- A value that may be left out or be `null`, and is then nothing. -/
def Json.Optional {α : Type} (S : Json → α → Prop) : Option Json → Option α → Prop :=
  Absentable (Nullable S) none

structure Defaults.OfFields (look : String → Option Json) (d : Defaults) : Prop where
  caseSensitive : Optional IsBool (look "caseSensitive") d.caseSensitive
  percentEncoded : Optional IsBool (look "percentEncoded") d.percentEncoded

def Defaults.OfJson (j : Json) (d : Defaults) : Prop :=
  ∃ look, Assigns ["caseSensitive", "percentEncoded"] j look ∧ Defaults.OfFields look d

/-- The name of a parameter, or wildcards by the names of parameters. -/
inductive QueryConstraint.OfJson : Json → QueryConstraint → Prop
  | name (n : String) : OfJson (.string n) (.name n)
  | values {j : Json} {es : List (String × String)} :
      MapOf IsString j es → OfJson j (.values (.ofList es))

structure Component.OfFields (look : String → Option Json) (c : Component) : Prop where
  path : Optional IsString (look "/") c.path
  fragment : Optional IsString (look "#") c.fragment
  query : Optional QueryConstraint.OfJson (look "?") c.query
  exclude : Optional IsBool (look "exclude") c.exclude
  comment : Optional IsString (look "comment") c.comment
  caseSensitive : Optional IsBool (look "caseSensitive") c.caseSensitive
  percentEncoded : Optional IsBool (look "percentEncoded") c.percentEncoded

def Component.OfJson (j : Json) (c : Component) : Prop :=
  ∃ look, Assigns ["/", "#", "?", "exclude", "comment", "caseSensitive", "percentEncoded"] j look ∧
    Component.OfFields look c

structure RuleSet.OfFields (look : String → Option Json) (r : RuleSet) : Prop where
  appIds : Present (ListOf IsString) (look "appIDs") r.appIds
  components : Absentable (ListOf Component.OfJson) [] (look "components") r.components
  defaults : Optional Defaults.OfJson (look "defaults") r.defaults

def RuleSet.OfJson (j : Json) (r : RuleSet) : Prop :=
  ∃ look, Assigns ["appIDs", "components", "defaults"] j look ∧ RuleSet.OfFields look r

/-- Lists of strings by name; of several under one name the last counts. -/
def Substitutions.OfJson (j : Json) (s : Substitutions) : Prop :=
  ∃ es, MapOf (ListOf IsString) j es ∧ s = .ofList es

structure LinkSet.OfFields (look : String → Option Json) (l : LinkSet) : Prop where
  details : Absentable (ListOf RuleSet.OfJson) [] (look "details") l.details
  defaults : Optional Defaults.OfJson (look "defaults") l.defaults
  substitutions : Optional Substitutions.OfJson (look "substitutionVariables") l.substitutions

def LinkSet.OfJson (j : Json) (l : LinkSet) : Prop :=
  ∃ look, Assigns ["details", "defaults", "substitutionVariables"] j look ∧ LinkSet.OfFields look l

structure AppList.OfFields (look : String → Option Json) (l : AppList) : Prop where
  apps : Present (ListOf IsString) (look "apps") l.apps

def AppList.OfJson (j : Json) (l : AppList) : Prop :=
  ∃ look, Assigns ["apps"] j look ∧ AppList.OfFields look l

structure Document.OfFields (look : String → Option Json) (d : Document) : Prop where
  applinks : Optional LinkSet.OfJson (look "applinks") d.applinks
  webcredentials : Optional AppList.OfJson (look "webcredentials") d.webcredentials
  appclips : Optional AppList.OfJson (look "appclips") d.appclips

def Document.OfJson (j : Json) (d : Document) : Prop :=
  ∃ look, Assigns ["applinks", "webcredentials", "appclips"] j look ∧ Document.OfFields look d

/-! ## Reading them -/

variable {look : String → Option Json}

namespace Defaults

def schema : Schema Defaults 0 where
  fields :=
    [.defaulted "caseSensitive" reads_bool.optional fun b d => { d with caseSensitive := b },
     .defaulted "percentEncoded" reads_bool.optional fun b d => { d with percentEncoded := b }]
  apart := by simp [KnownField.Apart, KnownField.defaulted, RecordField.defaulted]

theorem built_iff {d : Defaults} : Built look schema.fields {} d ↔ OfFields look d := by
  constructor
  · intro h
    obtain ⟨b, hb, h⟩ := (built_defaulted none rfl).mp h
    obtain ⟨c, hc, h⟩ := (built_defaulted none rfl).mp h
    obtain rfl := built_nil.mp h
    exact ⟨hb, hc⟩
  · rintro ⟨hb, hc⟩
    refine (built_defaulted _ rfl).mpr ⟨_, hb, ?_⟩
    exact (built_defaulted _ rfl).mpr ⟨_, hc, built_nil.mpr rfl⟩

theorem reads : Reads reader 1 OfJson :=
  schema.reads_of_built_iff built_iff "Defaults"

end Defaults

namespace QueryConstraint

theorem reads : Reads reader 1 OfJson := by
  intro depth hdepth l k j ws rest p hws
  obtain ⟨q, behind⟩ := p
  have hstring := reads_string depth (Nat.zero_lt_of_lt hdepth)
  have hmap := reads_string.map depth hdepth
  rw [reader_eq_ok_iff hdepth]
  constructor
  · rintro (⟨s, hread, rfl⟩ | ⟨es, hread, rfl⟩)
    · obtain ⟨_, rfl, heq⟩ := (hstring hws).mp hread
      obtain ⟨rfl, rfl⟩ := Prod.mk.inj heq
      exact ⟨_, .name s, rfl⟩
    · obtain ⟨_, hes, heq⟩ := (hmap hws).mp hread
      obtain ⟨rfl, rfl⟩ := Prod.mk.inj heq
      exact ⟨_, .values hes, rfl⟩
  · rintro ⟨_, hq, heq⟩
    obtain ⟨rfl, rfl⟩ := Prod.mk.inj heq
    cases hq with
    | name n => exact Or.inl ⟨n, (hstring hws).mpr ⟨n, rfl, rfl⟩, rfl⟩
    | values hes => exact Or.inr ⟨_, (hmap hws).mpr ⟨_, hes, rfl⟩, rfl⟩

end QueryConstraint

namespace Component

def schema : Schema Component 1 where
  fields :=
    [.defaulted "/" (reads_string.optional.mono (by decide)) fun s c => { c with path := s },
     .defaulted "#" (reads_string.optional.mono (by decide)) fun s c => { c with fragment := s },
     .defaulted "?" QueryConstraint.reads.optional fun q c => { c with query := q },
     .defaulted "exclude" (reads_bool.optional.mono (by decide)) fun b c => { c with exclude := b },
     .defaulted "comment" (reads_string.optional.mono (by decide)) fun s c =>
       { c with comment := s },
     .defaulted "caseSensitive" (reads_bool.optional.mono (by decide)) fun b c =>
       { c with caseSensitive := b },
     .defaulted "percentEncoded" (reads_bool.optional.mono (by decide)) fun b c =>
       { c with percentEncoded := b }]
  apart := by simp [KnownField.Apart, KnownField.defaulted, RecordField.defaulted]

theorem built_iff {c : Component} : Built look schema.fields {} c ↔ OfFields look c := by
  constructor
  · intro h
    obtain ⟨path, hpath, h⟩ := (built_defaulted none rfl).mp h
    obtain ⟨fragment, hfragment, h⟩ := (built_defaulted none rfl).mp h
    obtain ⟨query, hquery, h⟩ := (built_defaulted none rfl).mp h
    obtain ⟨exclude, hexclude, h⟩ := (built_defaulted none rfl).mp h
    obtain ⟨comment, hcomment, h⟩ := (built_defaulted none rfl).mp h
    obtain ⟨case, hcase, h⟩ := (built_defaulted none rfl).mp h
    obtain ⟨percent, hpercent, h⟩ := (built_defaulted none rfl).mp h
    obtain rfl := built_nil.mp h
    exact ⟨hpath, hfragment, hquery, hexclude, hcomment, hcase, hpercent⟩
  · rintro ⟨hpath, hfragment, hquery, hexclude, hcomment, hcase, hpercent⟩
    refine (built_defaulted _ rfl).mpr ⟨_, hpath, (built_defaulted _ rfl).mpr ⟨_, hfragment, ?_⟩⟩
    refine (built_defaulted _ rfl).mpr ⟨_, hquery, (built_defaulted _ rfl).mpr ⟨_, hexclude, ?_⟩⟩
    refine (built_defaulted _ rfl).mpr ⟨_, hcomment, (built_defaulted _ rfl).mpr ⟨_, hcase, ?_⟩⟩
    exact (built_defaulted _ rfl).mpr ⟨_, hpercent, built_nil.mpr rfl⟩

theorem reads : Reads reader 2 OfJson :=
  schema.reads_of_built_iff built_iff "Component"

end Component

namespace RuleSet

def schema : Schema RuleSet 3 where
  fields :=
    [.required "appIDs" (reads_string.list.mono (by decide)) fun ids r => { r with appIds := ids },
     .defaulted "components" Component.reads.list fun cs r => { r with components := cs },
     .defaulted "defaults" (Defaults.reads.optional.mono (by decide)) fun d r =>
       { r with defaults := d }]
  apart := by
    simp [KnownField.Apart, KnownField.defaulted, RecordField.defaulted, KnownField.required,
      RecordField.required]

theorem built_iff {r : RuleSet} :
    Built look schema.fields { appIds := [] } r ↔ OfFields look r := by
  constructor
  · intro h
    obtain ⟨ids, hids, h⟩ := built_required.mp h
    obtain ⟨cs, hcs, h⟩ := (built_defaulted [] rfl).mp h
    obtain ⟨d, hd, h⟩ := (built_defaulted none rfl).mp h
    obtain rfl := built_nil.mp h
    exact ⟨hids, hcs, hd⟩
  · rintro ⟨hids, hcs, hd⟩
    refine built_required.mpr ⟨_, hids, (built_defaulted _ rfl).mpr ⟨_, hcs, ?_⟩⟩
    exact (built_defaulted _ rfl).mpr ⟨_, hd, built_nil.mpr rfl⟩

theorem reads : Reads reader 4 OfJson :=
  schema.reads_of_built_iff built_iff "RuleSet"

end RuleSet

theorem Substitutions.reads : Reads Substitutions.reader 2 Substitutions.OfJson :=
  reads_string.list.map.mapped NameMap.ofList

namespace LinkSet

def schema : Schema LinkSet 5 where
  fields :=
    [.defaulted "details" RuleSet.reads.list fun rs l => { l with details := rs },
     .defaulted "defaults" (Defaults.reads.optional.mono (by decide)) fun d l =>
       { l with defaults := d },
     .defaulted "substitutionVariables" (Substitutions.reads.optional.mono (by decide)) fun s l =>
       { l with substitutions := s }]
  apart := by simp [KnownField.Apart, KnownField.defaulted, RecordField.defaulted]

theorem built_iff {l : LinkSet} : Built look schema.fields {} l ↔ OfFields look l := by
  constructor
  · intro h
    obtain ⟨rs, hrs, h⟩ := (built_defaulted [] rfl).mp h
    obtain ⟨d, hd, h⟩ := (built_defaulted none rfl).mp h
    obtain ⟨s, hs, h⟩ := (built_defaulted none rfl).mp h
    obtain rfl := built_nil.mp h
    exact ⟨hrs, hd, hs⟩
  · rintro ⟨hrs, hd, hs⟩
    refine (built_defaulted _ rfl).mpr ⟨_, hrs, (built_defaulted _ rfl).mpr ⟨_, hd, ?_⟩⟩
    exact (built_defaulted _ rfl).mpr ⟨_, hs, built_nil.mpr rfl⟩

theorem reads : Reads reader 6 OfJson :=
  schema.reads_of_built_iff built_iff "LinkSet"

end LinkSet

namespace AppList

def schema : Schema AppList 1 where
  fields := [.required "apps" reads_string.list fun apps l => { l with apps := apps }]
  apart := List.pairwise_singleton _ _

theorem built_iff {l : AppList} : Built look schema.fields { apps := [] } l ↔ OfFields look l := by
  constructor
  · intro h
    obtain ⟨apps, happs, h⟩ := built_required.mp h
    obtain rfl := built_nil.mp h
    exact ⟨happs⟩
  · rintro ⟨happs⟩
    exact built_required.mpr ⟨_, happs, built_nil.mpr rfl⟩

theorem reads (title : String) : Reads (reader title) 2 OfJson :=
  schema.reads_of_built_iff built_iff title

end AppList

namespace Document

def schema : Schema Document 6 where
  fields :=
    [.defaulted "applinks" LinkSet.reads.optional fun l d => { d with applinks := l },
     .defaulted "webcredentials" ((AppList.reads "WebCredentials").optional.mono (by decide))
       fun l d => { d with webcredentials := l },
     .defaulted "appclips" ((AppList.reads "AppClips").optional.mono (by decide)) fun l d =>
       { d with appclips := l }]
  apart := by simp [KnownField.Apart, KnownField.defaulted, RecordField.defaulted]

theorem built_iff {d : Document} : Built look schema.fields {} d ↔ OfFields look d := by
  constructor
  · intro h
    obtain ⟨links, hlinks, h⟩ := (built_defaulted none rfl).mp h
    obtain ⟨credentials, hcredentials, h⟩ := (built_defaulted none rfl).mp h
    obtain ⟨clips, hclips, h⟩ := (built_defaulted none rfl).mp h
    obtain rfl := built_nil.mp h
    exact ⟨hlinks, hcredentials, hclips⟩
  · rintro ⟨hlinks, hcredentials, hclips⟩
    refine (built_defaulted _ rfl).mpr ⟨_, hlinks, ?_⟩
    refine (built_defaulted _ rfl).mpr ⟨_, hcredentials, ?_⟩
    exact (built_defaulted _ rfl).mpr ⟨_, hclips, built_nil.mpr rfl⟩

theorem reads : Reads reader 7 OfJson :=
  schema.reads_of_built_iff built_iff "AssociationDocument"

end Document

/-! ## Decoding -/

theorem Json.readAll_eq_ok_iff {α : Type} {r : Reader α} {input : Input} {x : α} :
    readAll r input = .ok x ↔
      ∃ rest, r depthLimit input = .ok (x, rest) ∧ skipSpace rest = [] := by
  unfold readAll
  cases r depthLimit input with
  | error f => simp [Except.mapError]
  | ok p =>
    obtain ⟨y, rest⟩ := p
    cases hrest : skipSpace rest with
    | nil => simp [Except.mapError, hrest]
    | cons b tail => simp [Except.mapError, hrest]

/-- What a reader that need not nest too deep makes of whole texts. -/
theorem Json.Reads.readText_render_iff {α : Type} {r : Reader α} {n : Nat} {S : Json → α → Prop}
    (h : Reads r n S) (hn : n < depthLimit) (l : Layout) (j : Json) (x : α) :
    readText r (j.render l) = .ok x ↔ S j x := by
  have htext : Text.Utf8.encode (j.render l).toList = [] ++ (text l 0 j ++ []) := by
    rw [render, String.toList_ofList, List.append_nil, List.nil_append, text]
  unfold readText
  rw [htext]
  simp only [readAll_eq_ok_iff, h depthLimit hn blank_nil]
  constructor
  · rintro ⟨rest, ⟨_, hx, heq⟩, -⟩
    obtain ⟨rfl, -⟩ := Prod.mk.inj heq
    exact hx
  · intro hx
    exact ⟨[], ⟨x, hx, rfl⟩, rfl⟩

theorem DecodeError.mapError_eq_ok_iff {α : Type} {r : Except ReadError α} {x : α} :
    r.mapError DecodeError.mk = .ok x ↔ r = .ok x := by
  cases r <;> simp [Except.mapError]

theorem RuleSet.decode_render_iff (l : Layout) (j : Json) (r : RuleSet) :
    RuleSet.decode (j.render l) = .ok r ↔ RuleSet.OfJson j r := by
  rw [RuleSet.decode, DecodeError.mapError_eq_ok_iff]
  exact RuleSet.reads.readText_render_iff (by decide) l j r

/-- A text that spells a value is decoded exactly when the value conforms, and then to the
document it spells. -/
theorem Document.decode_render_iff_ofJson (l : Layout) (j : Json) (d : Document) :
    (Document.decode (j.render l) = .ok d ↔ Document.OfJson j d) ∧
    (Document.decodeBytes (Text.Utf8.encode (j.render l).toList) = .ok d ↔
      Document.OfJson j d) := by
  have hread := Document.reads.readText_render_iff (by decide) l j d
  constructor
  · rw [Document.decode, DecodeError.mapError_eq_ok_iff]
    exact hread
  · rw [Document.decodeBytes, DecodeError.mapError_eq_ok_iff]
    exact hread

end AppLinks
