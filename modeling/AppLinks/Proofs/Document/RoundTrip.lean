import AppLinks.Document.Printer
import AppLinks.Proofs.Document.Schema

/-!
# Reading what was written

What a record is written as spells that record and no other, so writing it in either layout and
reading it again gives it back.

    X.OfJson x.toJson x, for every record `X`
    readText X.reader (x.toJson.render l) = .ok x      (Document.round_trips_with_parts)
-/

namespace AppLinks

open Json

/-! ## Written members -/

section
variable {α : Type} {name : String} {write : α → Json} {x : Option α}

theorem lookup_member (k : String) :
    (member name write x).lookup k = if k = name then x.map write else none := by
  cases x with
  | none => simp [member]
  | some a =>
    rw [member, Option.map_some, Option.toList_some, NameMap.lookup_cons_eq_ite]
    rfl

end

/-- The members' names are among `names`, in that order. -/
def Within (ms : List (String × Json)) (names : List String) : Prop :=
  (ms.map (·.1)).Sublist names

theorem Within.append {ms ms' : List (String × Json)} {names names' : List String}
    (h : Within ms names) (h' : Within ms' names') : Within (ms ++ ms') (names ++ names') := by
  unfold Within
  rw [List.map_append]
  exact List.Sublist.append h h'

theorem within_member {α : Type} (name : String) (write : α → Json) (x : Option α) :
    Within (member name write x) [name] := by
  cases x with
  | none => exact List.nil_sublist _
  | some a => exact List.Sublist.refl _

theorem Within.assigns {ms : List (String × Json)} {names : List String} (h : Within ms names)
    (hdistinct : names.Nodup) : Assigns names (.object ms) fun k => ms.lookup k :=
  .object fun k _ => List.nodup_iff_count.mp (hdistinct.sublist h) k

/-! ## Written values -/

theorem optional_map {α : Type} {S : Json → α → Prop} (write : α → Json) (h : ∀ a, S (write a) a)
    (hnull : ∀ a, write a ≠ .null) (x : Option α) : Optional S (x.map write) x := by
  cases x with
  | none => rfl
  | some a => exact Or.inr ⟨hnull a, a, h a, rfl⟩

theorem listOf_map {α : Type} {S : Json → α → Prop} (write : α → Json) (h : ∀ a, S (write a) a)
    (as : List α) : ListOf S (.array (as.map write)) as :=
  ⟨_, rfl, List.forall₂_map_left_iff.mpr (List.forall₂_same.mpr fun a _ => h a)⟩

theorem listOf_strings (ss : List String) : ListOf IsString (Json.strings ss) ss :=
  listOf_map .string (fun _ => rfl) ss

theorem mapOf_map {α : Type} {S : Json → α → Prop} (write : α → Json) (h : ∀ a, S (write a) a)
    (es : List (String × α)) : MapOf S (.object (es.map fun e => (e.1, write e.2))) es :=
  ⟨_, rfl, List.forall₂_map_left_iff.mpr (List.forall₂_same.mpr fun e _ => ⟨rfl, h e.2⟩)⟩

theorem optional_bool (x : Option Bool) : Optional IsBool (x.map .bool) x :=
  optional_map .bool (fun _ => rfl) (fun _ => Json.noConfusion) x

theorem optional_string (x : Option String) : Optional IsString (x.map .string) x :=
  optional_map .string (fun _ => rfl) (fun _ => Json.noConfusion) x

/-! ## Written records -/

theorem Defaults.ofJson_toJson (d : Defaults) : OfJson d.toJson d := by
  have hwithin := (within_member "caseSensitive" .bool d.caseSensitive).append
    (within_member "percentEncoded" .bool d.percentEncoded)
  refine ⟨_, hwithin.assigns (by decide), ?_⟩
  constructor <;> simp [List.lookup_append, lookup_member, optional_bool]

theorem QueryConstraint.ofJson_toJson (q : QueryConstraint) : OfJson q.toJson q := by
  cases q with
  | name n => exact .name n
  | values ws =>
    have h := OfJson.values (mapOf_map .string (S := IsString) (fun _ => rfl) ws.toList)
    rwa [NameMap.ofList_toList] at h

theorem QueryConstraint.toJson_ne_null (q : QueryConstraint) : q.toJson ≠ .null := by
  cases q <;> exact Json.noConfusion

theorem Component.ofJson_toJson (c : Component) : OfJson c.toJson c := by
  have hwithin := (((((((within_member "/" .string c.path).append
    (within_member "#" .string c.fragment)).append
    (within_member "?" QueryConstraint.toJson c.query)).append
    (within_member "exclude" .bool c.exclude)).append
    (within_member "comment" .string c.comment)).append
    (within_member "caseSensitive" .bool c.caseSensitive)).append
    (within_member "percentEncoded" .bool c.percentEncoded))
  have hquery := optional_map _ QueryConstraint.ofJson_toJson QueryConstraint.toJson_ne_null c.query
  refine ⟨_, hwithin.assigns (by decide), ?_⟩
  constructor <;>
    simp [List.lookup_append, lookup_member, optional_bool, optional_string, hquery]

theorem RuleSet.ofJson_toJson (r : RuleSet) : OfJson r.toJson r := by
  have hfirst : Within [("appIDs", .strings r.appIds),
      ("components", .array (r.components.map (·.toJson)))] ["appIDs", "components"] :=
    List.Sublist.refl _
  have hwithin := hfirst.append (within_member "defaults" Defaults.toJson r.defaults)
  have hcomponents := listOf_map _ Component.ofJson_toJson r.components
  have hdefaults := optional_map _ Defaults.ofJson_toJson (fun _ => Json.noConfusion) r.defaults
  refine ⟨_, hwithin.assigns (by decide), ?_⟩
  constructor <;>
    simp [lookup_member, List.lookup_cons, Present, Absentable, listOf_strings, hcomponents,
      hdefaults]

theorem Substitutions.ofJson_toJson (s : Substitutions) : Substitutions.OfJson s.toJson s :=
  ⟨_, mapOf_map _ listOf_strings s.toList, (NameMap.ofList_toList s).symm⟩

theorem LinkSet.ofJson_toJson (l : LinkSet) : OfJson l.toJson l := by
  have hfirst : Within [("details", .array (l.details.map (·.toJson)))] ["details"] :=
    List.Sublist.refl _
  have hwithin := (hfirst.append (within_member "defaults" Defaults.toJson l.defaults)).append
    (within_member "substitutionVariables" Substitutions.toJson l.substitutions)
  have hdetails := listOf_map _ RuleSet.ofJson_toJson l.details
  have hdefaults := optional_map _ Defaults.ofJson_toJson (fun _ => Json.noConfusion) l.defaults
  have hsubstitutions :=
    optional_map _ Substitutions.ofJson_toJson (fun _ => Json.noConfusion) l.substitutions
  refine ⟨_, hwithin.assigns (by decide), ?_⟩
  constructor <;>
    simp [List.lookup_append, lookup_member, List.lookup_cons, Absentable, hdetails, hdefaults,
      hsubstitutions]

theorem AppList.ofJson_toJson (l : AppList) : OfJson l.toJson l := by
  have hwithin : Within [("apps", .strings l.apps)] ["apps"] := List.Sublist.refl _
  refine ⟨_, hwithin.assigns (by decide), ?_⟩
  constructor
  simp [Present, listOf_strings]

theorem Document.ofJson_toJson (d : Document) : OfJson d.toJson d := by
  have hwithin := ((within_member "applinks" LinkSet.toJson d.applinks).append
    (within_member "webcredentials" AppList.toJson d.webcredentials)).append
    (within_member "appclips" AppList.toJson d.appclips)
  have hlinks := optional_map _ LinkSet.ofJson_toJson (fun _ => Json.noConfusion) d.applinks
  have happs := optional_map _ AppList.ofJson_toJson fun _ => Json.noConfusion
  refine ⟨_, hwithin.assigns (by decide), ?_⟩
  constructor <;> simp [List.lookup_append, lookup_member, hlinks, happs]

/-! ## Round trips -/

/-- Whatever `write` writes, in either layout, `r` reads back. -/
def RoundTrips {α : Type} (r : Reader α) (write : α → Json) : Prop :=
  ∀ (l : Layout) (x : α), readText r ((write x).render l) = .ok x

theorem Json.Reads.roundTrips {α : Type} {r : Reader α} {n : Nat} {S : Json → α → Prop}
    {write : α → Json} (h : Reads r n S) (hn : n < depthLimit) (hwrite : ∀ x, S (write x) x) :
    RoundTrips r write :=
  fun l x => (h.readText_render_iff hn l (write x) x).mpr (hwrite x)

namespace Document

def encode (l : Layout) (d : Document) : String := d.toJson.render l

/-- The encoding of the document that a text decodes to. -/
def reencode (l : Layout) (text : String) : Except DecodeError String :=
  (decode text).map (encode l)

theorem decode_encode (l : Layout) (d : Document) : decode (encode l d) = .ok d := by
  rw [decode, DecodeError.mapError_eq_ok_iff]
  exact reads.roundTrips (by decide) ofJson_toJson l d

/-- Writing and reading lose nothing, so that a text that was decoded and encoded again stays as
it is. -/
theorem round_trips_with_parts :
    (∀ l d, decode (encode l d) = .ok d ∧
      decodeBytes (Text.Utf8.encode (encode l d).toList) = .ok d) ∧
    RoundTrips LinkSet.reader LinkSet.toJson ∧
    RoundTrips RuleSet.reader RuleSet.toJson ∧
    RoundTrips Component.reader Component.toJson ∧
    RoundTrips QueryConstraint.reader QueryConstraint.toJson ∧
    RoundTrips Defaults.reader Defaults.toJson ∧
    ∀ l text, (reencode l text >>= decode) = decode text ∧
      (reencode l text >>= reencode l) = reencode l text := by
  refine ⟨fun l d => ⟨decode_encode l d, decode_encode l d⟩,
    LinkSet.reads.roundTrips (by decide) LinkSet.ofJson_toJson,
    RuleSet.reads.roundTrips (by decide) RuleSet.ofJson_toJson,
    Component.reads.roundTrips (by decide) Component.ofJson_toJson,
    QueryConstraint.reads.roundTrips (by decide) QueryConstraint.ofJson_toJson,
    Defaults.reads.roundTrips (by decide) Defaults.ofJson_toJson, ?_⟩
  intro l text
  unfold reencode
  cases decode text with
  | error e => exact ⟨rfl, rfl⟩
  | ok d =>
    have hagain := decode_encode l d
    constructor <;> simp only [Except.map, ok_bind, hagain]

end Document

end AppLinks
