import AppLinks.Url.Basic

/-!
# Where a document is served

An origin (a secure URL of a host, with no path of its own) serves its document at two places. The
rest of its URL does not matter.
-/

namespace AppLinks

/-- Why a URL is no origin. -/
inductive OriginError where
  | schemeIsNotHttps
  | hostIsNotFullyQualified
  | pathIsNotEmpty
  deriving DecidableEq, Repr

def OriginError.message : OriginError → String
  | .schemeIsNotHttps => "Scheme is not https"
  | .hostIsNotFullyQualified => "Host is not a fully qualified domain"
  | .pathIsNotEmpty => "Origin path is not empty"

namespace Url

def fileName : String := "apple-app-site-association"

/-- The origin that a URL names, without query and fragment. -/
def origin (u : Url) : Except OriginError Url :=
  if u.scheme ≠ "https" then .error .schemeIsNotHttps
  else if u.host.all (·.text.isEmpty) then .error .hostIsNotFullyQualified
  else if u.path ≠ "" ∧ u.path ≠ "/" then .error .pathIsNotEmpty
  else .ok { u with query := none, fragment := none }

/-- The place that is tried first. -/
def wellKnownLocation (u : Url) : Except OriginError Url :=
  u.origin.map fun o => { o with path := "/.well-known/" ++ fileName }

def rootLocation (u : Url) : Except OriginError Url :=
  u.origin.map fun o => { o with path := "/" ++ fileName }

/-- Both places, the one that is tried first in front. -/
def locations (u : Url) : Except OriginError (List Url) := do
  return [← u.wellKnownLocation, ← u.rootLocation]

end Url

end AppLinks
