import AppLinks.Locations
import Mathlib.Data.List.Basic

/-!
# What the locations of a document depend on

Three demands are made on an origin, one after the other, and the first that is not met decides the
error.  A URL that meets them all has two locations, made of its scheme and its authority alone;
they have a path of their own, so neither is an origin again.

    u.locations = .error e ↔ u.Refused e               (locations_eq_error_iff)
    u.SameOrigin v → u.locations = v.locations         (SameOrigin.locations_eq)
-/

namespace AppLinks.Url

/-! ## Demands -/

/-- A host is named, and its name is not empty. -/
def Hosted (u : Url) : Prop := ∃ h, u.host = some h ∧ h.text ≠ ""

/-- Nothing is named below the root. -/
def Bare (u : Url) : Prop := u.path = "" ∨ u.path = "/"

structure IsOrigin (u : Url) : Prop where
  secure : u.scheme = "https"
  hosted : u.Hosted
  bare : u.Bare

/-- The first demand on an origin that a URL does not meet. -/
inductive Refused (u : Url) : OriginError → Prop
  | scheme : u.scheme ≠ "https" → Refused u .schemeIsNotHttps
  | host : u.scheme = "https" → ¬ u.Hosted → Refused u .hostIsNotFullyQualified
  | path : u.scheme = "https" → u.Hosted → ¬ u.Bare → Refused u .pathIsNotEmpty

theorem hosted_iff (u : Url) : u.Hosted ↔ ¬ u.host.all (·.text.isEmpty) = true := by
  unfold Hosted
  cases u.host with
  | none => simp
  | some h => simp

theorem bare_iff (u : Url) : u.Bare ↔ ¬ (u.path ≠ "" ∧ u.path ≠ "/") := by
  unfold Bare
  rw [not_and_or, not_not, not_not]

theorem origin_of_isOrigin {u : Url} (h : u.IsOrigin) :
    u.origin = .ok { u with query := none, fragment := none } := by
  unfold origin
  rw [if_neg (not_not.mpr h.secure), if_neg (u.hosted_iff.mp h.hosted),
    if_neg (u.bare_iff.mp h.bare)]

theorem origin_of_refused {u : Url} {e : OriginError} (h : u.Refused e) : u.origin = .error e := by
  unfold origin
  cases h with
  | scheme hscheme => rw [if_pos hscheme]
  | host hscheme hhost =>
    rw [if_neg (not_not.mpr hscheme), if_pos (not_not.mp fun h => hhost (u.hosted_iff.mpr h))]
  | path hscheme hhost hpath =>
    rw [if_neg (not_not.mpr hscheme), if_neg (u.hosted_iff.mp hhost),
      if_pos (not_not.mp fun h => hpath (u.bare_iff.mpr h))]

/-- Every URL meets all demands, or there is a first that it does not meet. -/
theorem isOrigin_or_refused (u : Url) : u.IsOrigin ∨ ∃ e, u.Refused e := by
  by_cases hscheme : u.scheme = "https"
  · by_cases hhost : u.Hosted
    · by_cases hpath : u.Bare
      · exact .inl ⟨hscheme, hhost, hpath⟩
      · exact .inr ⟨_, .path hscheme hhost hpath⟩
    · exact .inr ⟨_, .host hscheme hhost⟩
  · exact .inr ⟨_, .scheme hscheme⟩

/-! ## Locations -/

/-- The place of a path at the origin of a URL. -/
def place (u : Url) (path : String) : Url := ⟨u.scheme, u.authority, path, none, none⟩

theorem wellKnownLocation_of_isOrigin {u : Url} (h : u.IsOrigin) :
    u.wellKnownLocation = .ok (u.place "/.well-known/apple-app-site-association") := by
  unfold wellKnownLocation
  rw [origin_of_isOrigin h]
  rfl

theorem rootLocation_of_isOrigin {u : Url} (h : u.IsOrigin) :
    u.rootLocation = .ok (u.place "/apple-app-site-association") := by
  unfold rootLocation
  rw [origin_of_isOrigin h]
  rfl

theorem locations_of_isOrigin {u : Url} (h : u.IsOrigin) :
    u.locations = .ok [u.place "/.well-known/apple-app-site-association",
      u.place "/apple-app-site-association"] := by
  unfold locations
  rw [wellKnownLocation_of_isOrigin h, rootLocation_of_isOrigin h]
  rfl

theorem wellKnownLocation_of_refused {u : Url} {e : OriginError} (h : u.Refused e) :
    u.wellKnownLocation = .error e := by
  unfold wellKnownLocation
  rw [origin_of_refused h]
  rfl

theorem rootLocation_of_refused {u : Url} {e : OriginError} (h : u.Refused e) :
    u.rootLocation = .error e := by
  unfold rootLocation
  rw [origin_of_refused h]
  rfl

theorem locations_of_refused {u : Url} {e : OriginError} (h : u.Refused e) :
    u.locations = .error e := by
  unfold locations
  rw [wellKnownLocation_of_refused h]
  rfl

theorem locations_eq_error_iff (u : Url) (e : OriginError) :
    u.locations = .error e ↔ u.Refused e := by
  refine ⟨fun h => ?_, locations_of_refused⟩
  rcases u.isOrigin_or_refused with horigin | ⟨e', he'⟩
  · rw [locations_of_isOrigin horigin] at h
    cases h
  · rw [locations_of_refused he'] at h
    cases h
    exact he'

theorem exists_locations_iff (u : Url) : (∃ ls, u.locations = .ok ls) ↔ u.IsOrigin := by
  refine ⟨?_, fun h => ⟨_, locations_of_isOrigin h⟩⟩
  rintro ⟨ls, hls⟩
  rcases u.isOrigin_or_refused with horigin | ⟨e, he⟩
  · exact horigin
  · rw [locations_of_refused he] at hls
    cases hls

theorem exists_authority_of_isOrigin {u : Url} (h : u.IsOrigin) : ∃ a, u.authority = some a := by
  obtain ⟨host, hhost, -⟩ := h.hosted
  obtain ⟨a, ha, -⟩ := Option.bind_eq_some_iff.mp hhost
  exact ⟨a, ha⟩

/-- A place is written as the origin and the path, with nothing in between or behind. -/
theorem text_place {u : Url} {a : Authority} (hscheme : u.scheme = "https")
    (ha : u.authority = some a) (path : String) :
    (u.place path).text = "https://" ++ a.text ++ path := by
  have hfront : "https:" ++ ("//" ++ a.text) = "https://" ++ a.text := by
    rw [← String.append_assoc]
    rfl
  unfold place text pathGuard
  simp [hscheme, ha, marked, hfront]

/-- A place that has a path is no origin, for that reason only. -/
theorem refused_place {u : Url} (h : u.IsOrigin) {path : String} (hempty : path ≠ "")
    (hroot : path ≠ "/") : (u.place path).Refused .pathIsNotEmpty := by
  refine .path h.secure h.hosted ?_
  rintro (hpath | hpath)
  · exact hempty hpath
  · exact hroot hpath

/-! ## Same origin -/

/-- The URLs differ at most in query and fragment and in how the root is written. -/
structure SameOrigin (u v : Url) : Prop where
  scheme : u.scheme = v.scheme
  authority : u.authority = v.authority
  path : u.path = v.path ∨ u.Bare ∧ v.Bare

namespace SameOrigin

variable {u v : Url}

theorem symm (h : u.SameOrigin v) : v.SameOrigin u :=
  ⟨h.scheme.symm, h.authority.symm, h.path.imp Eq.symm And.symm⟩

theorem hosted (h : u.SameOrigin v) (hu : u.Hosted) : v.Hosted := by
  unfold Hosted host at hu ⊢
  rw [← h.authority]
  exact hu

theorem bare (h : u.SameOrigin v) (hu : u.Bare) : v.Bare := by
  rcases h.path with hpath | ⟨-, hv⟩
  · unfold Bare at hu ⊢
    rw [← hpath]
    exact hu
  · exact hv

theorem isOrigin (h : u.SameOrigin v) (hu : u.IsOrigin) : v.IsOrigin :=
  ⟨h.scheme.symm.trans hu.secure, h.hosted hu.hosted, h.bare hu.bare⟩

theorem refused (h : u.SameOrigin v) {e : OriginError} (hu : u.Refused e) : v.Refused e := by
  have hscheme : ∀ s, u.scheme = s ↔ v.scheme = s := fun s => by rw [h.scheme]
  cases hu with
  | scheme hs => exact .scheme fun hv => hs ((hscheme _).mpr hv)
  | host hs hhost => exact .host ((hscheme _).mp hs) fun hv => hhost (h.symm.hosted hv)
  | path hs hhost hpath =>
    exact .path ((hscheme _).mp hs) (h.hosted hhost) fun hv => hpath (h.symm.bare hv)

theorem locations_eq (h : u.SameOrigin v) : u.locations = v.locations := by
  rcases u.isOrigin_or_refused with horigin | ⟨e, he⟩
  · rw [locations_of_isOrigin horigin, locations_of_isOrigin (h.isOrigin horigin)]
    unfold place
    rw [h.scheme, h.authority]
  · rw [locations_of_refused he, locations_of_refused (h.refused he)]

end SameOrigin

/-! ## Top theorem -/

/-- **Locations depend on the origin alone.**  There are some exactly for a secure URL of a host
with nothing below its root, and otherwise the first of these that fails is the error; they keep
scheme and authority and nothing else, and neither is an origin. -/
theorem locations_by_origin (u : Url) :
    ((∃ ls, u.locations = .ok ls) ↔ u.scheme = "https" ∧ u.Hosted ∧ u.Bare) ∧
    (∀ e, u.locations = .error e ↔ u.Refused e) ∧
    (∀ e, u.Refused e → u.wellKnownLocation = .error e ∧ u.rootLocation = .error e) ∧
    (∀ ls, u.locations = .ok ls → ∃ a first second,
      u.authority = some a ∧ ls = [first, second] ∧
      u.wellKnownLocation = .ok first ∧ u.rootLocation = .ok second ∧
      first = ⟨u.scheme, u.authority, "/.well-known/apple-app-site-association", none, none⟩ ∧
      second = ⟨u.scheme, u.authority, "/apple-app-site-association", none, none⟩ ∧
      first.text = "https://" ++ a.text ++ "/.well-known/apple-app-site-association" ∧
      second.text = "https://" ++ a.text ++ "/apple-app-site-association" ∧
      ∀ l ∈ ls, l.locations = .error .pathIsNotEmpty ∧
        l.wellKnownLocation = .error .pathIsNotEmpty ∧
        l.rootLocation = .error .pathIsNotEmpty) ∧
    ∀ v, u.SameOrigin v → u.locations = v.locations := by
  refine ⟨?_, u.locations_eq_error_iff, ?_, ?_, fun v h => h.locations_eq⟩
  · rw [u.exists_locations_iff]
    exact ⟨fun h => ⟨h.secure, h.hosted, h.bare⟩, fun h => ⟨h.1, h.2.1, h.2.2⟩⟩
  · intro e he
    exact ⟨wellKnownLocation_of_refused he, rootLocation_of_refused he⟩
  · intro ls hls
    have h : u.IsOrigin := u.exists_locations_iff.mp ⟨ls, hls⟩
    obtain ⟨a, ha⟩ := exists_authority_of_isOrigin h
    obtain rfl : _ = ls := Except.ok.inj ((locations_of_isOrigin h).symm.trans hls)
    refine ⟨a, _, _, ha, rfl, wellKnownLocation_of_isOrigin h, rootLocation_of_isOrigin h, rfl,
      rfl, text_place h.secure ha _, text_place h.secure ha _, ?_⟩
    intro l hl
    have hrefused : l.Refused .pathIsNotEmpty := by
      rcases List.mem_pair.mp hl with rfl | rfl
      · exact refused_place h (by decide) (by decide)
      · exact refused_place h (by decide) (by decide)
    exact ⟨locations_of_refused hrefused, wellKnownLocation_of_refused hrefused,
      rootLocation_of_refused hrefused⟩

/-- Name, password and port are kept; the query, the fragment and the slash are not. -/
example :
    let host : Authority := ⟨"me", some "pw", some (.domain "example.com"), some 8443⟩
    let u : Url := ⟨"https", some host, "/", some "x=1", some "y"⟩
    (u.locations.map fun ls => ls.map Url.text) =
      .ok ["https://me:pw@example.com:8443/.well-known/apple-app-site-association",
        "https://me:pw@example.com:8443/apple-app-site-association"] ∧
      ({ u with scheme := "http", path := "/a" } : Url).locations = .error .schemeIsNotHttps := by
  decide +kernel

end AppLinks.Url
