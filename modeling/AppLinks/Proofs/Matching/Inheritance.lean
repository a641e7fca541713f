import AppLinks.Proofs.Matching.Interchange

/-!
# Inherited flags can be written out

A flag that a component is given itself overrides what it would inherit, so a link set in which
every component states the flags that are in force for it needs no defaults; and a path that loses
its only leading slash beforehand is compared, and known to the cache, as the path with it.

    (⟨none, none, s.substitutions⟩ : Setting).rules (c.writtenOut s) = s.rules c
                                                                            (rules_writtenOut)
    l.writtenOut.transcript qs = l.transcript qs                            (transcript_writtenOut)
-/

namespace AppLinks

/-! ## Writing out -/

/-- A path that begins with exactly one slash loses it; any other stays as it is. -/
def withoutOnlySlash (path : String) : String :=
  match path.toList with
  | '/' :: '/' :: _ => path
  | '/' :: cs => String.ofList cs
  | _ => path

/-- The component with the flags that are in force for it, and without the root of its path. -/
def Component.writtenOut (s : Setting) (c : Component) : Component :=
  { c with
    path := c.path.map withoutOnlySlash
    caseSensitive := some (s.rules c).caseSensitive
    percentEncoded := some (s.rules c).percentEncoded }

/-- The link set with everything that its components inherit written out and no defaults. -/
def LinkSet.writtenOut (l : LinkSet) : LinkSet where
  details := l.details.map fun r =>
    { r with
      components := r.components.map (·.writtenOut (l.setting r))
      defaults := none }
  defaults := none
  substitutions := l.substitutions

/-! ## Paths -/

theorem relative_withoutOnlySlash (path : String) :
    relative (withoutOnlySlash path) = relative path := by
  unfold withoutOnlySlash
  split
  · rfl
  · next cs hno hpath =>
    have hcs : relativeChars cs = cs := by
      unfold relativeChars
      split
      · next ds => exact absurd rfl (hno ds)
      · rfl
    unfold relative
    rw [hpath, String.toList_ofList, hcs]
    rfl
  · rfl

theorem map_relative_withoutOnlySlash {β : Type} (f : String → β) (path : Option String) :
    (path.map withoutOnlySlash).map (fun w => f (relative w)) =
      path.map fun w => f (relative w) := by
  rw [Option.map_map]
  congr 1
  funext w
  exact congrArg f (relative_withoutOnlySlash w)

/-! ## Interchange -/

/-- A component that states its flags has the same rules without defaults. -/
theorem rules_writtenOut (s : Setting) (c : Component) :
    (⟨none, none, s.substitutions⟩ : Setting).rules (c.writtenOut s) = s.rules c := rfl

theorem Component.interchangeable_writtenOut (s : Setting) (c : Component) :
    Component.Interchangeable s ⟨none, none, s.substitutions⟩ c (c.writtenOut s) := by
  constructor
  · intro v
    have hpath := map_relative_withoutOnlySlash (Demand.fits · v.relativePath) c.path
    unfold demands writtenOut
    rw [hpath]
  · have hpath := map_relative_withoutOnlySlash (fun w => w) c.path
    unfold wildcards writtenOut
    exact congrArg (fun p => p.toList ++ _ ++ _) hpath.symm
  · rfl
  · intro w _
    rw [rules_writtenOut]

theorem LinkSet.interchangeable_writtenOut (l : LinkSet) : l.Interchangeable l.writtenOut := by
  unfold Interchangeable writtenOut
  rw [List.forall₂_map_right_iff, List.forall₂_same]
  intro r _
  refine ⟨rfl, ?_⟩
  rw [List.forall₂_map_right_iff, List.forall₂_same]
  exact fun c _ => c.interchangeable_writtenOut (l.setting r)

/-! ## Top theorem -/

/-- **Writing out what is inherited shows in no session**: each request is answered alike, a failure
with the same place, wildcard and error, and leaves as many wildcards known. -/
theorem LinkSet.transcript_writtenOut (l : LinkSet) (qs : List Request) :
    l.writtenOut.transcript qs = l.transcript qs :=
  (l.interchangeable_writtenOut.transcript_eq qs).symm

/-- A flag of the rule set, one of the link set, one of the component's own; and of two slashes
none is dropped. -/
example :
    let l : LinkSet :=
      { details :=
          [{ appIds := ["T.app"],
             components := [Component.onPath "/Shop/*", (Component.onPath "//a").withCase true],
             defaults := some .caseInsensitive }],
        defaults := some { percentEncoded := some false } }
    l.writtenOut.details.flatMap (·.components) =
        [{ path := some "Shop/*", caseSensitive := some false, percentEncoded := some false },
         { path := some "//a", caseSensitive := some true, percentEncoded := some false }] ∧
      l.writtenOut.transcript [.appIds { scheme := "https", path := "/shop/x" }, .precompile] =
        [(.appIds ["T.app"], 1), (.failures [], 2)] := by
  decide +kernel

end AppLinks
