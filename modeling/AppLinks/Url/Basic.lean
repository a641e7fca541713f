import AppLinks.Url.Ipv4
import AppLinks.Url.Ipv6

/-!
# URLs

A URL holds its parts as they are written, with whatever has to be escaped written as escapes.
-/

namespace AppLinks

inductive Host where
  | domain (name : String)
  | ipv4 (address : UInt32)
  | ipv6 (pieces : List Nat)
  deriving DecidableEq, Repr

def Host.text : Host → String
  | .domain name => name
  | .ipv4 a => Ipv4.text a
  | .ipv6 ps => "[" ++ Ipv6.text ps ++ "]"

/-- Who a URL addresses; without a host, nobody. -/
structure Authority where
  username : String := ""
  password : Option String := none
  host : Option Host := none
  portNumber : Option Nat := none
  deriving DecidableEq, Repr

structure Url where
  scheme : String
  authority : Option Authority := none
  path : String := ""
  query : Option String := none
  fragment : Option String := none
  deriving DecidableEq, Repr

/-! ## Text -/

/-- A part behind its mark, if it is there. -/
def marked (mark : String) : Option String → String
  | none => ""
  | some s => mark ++ s

namespace Authority

/-- The name and password in front of a host; a name without password has no colon. -/
def credentials (a : Authority) : String :=
  if a.username.isEmpty && a.password.isNone then ""
  else a.username ++ marked ":" a.password ++ "@"

def text (a : Authority) : String :=
  a.credentials ++ (a.host.map Host.text).getD "" ++ marked ":" (a.portNumber.map toString)

end Authority

namespace Url

def host (u : Url) : Option Host := u.authority.bind (·.host)

/-- Sets a path that begins with two slashes off from the scheme, where it would be read as an
authority. -/
def pathGuard (u : Url) : String :=
  if u.authority.isNone && u.path.toList.take 2 == ['/', '/'] then "/." else ""

def text (u : Url) : String :=
  u.scheme ++ ":" ++ marked "//" (u.authority.map Authority.text) ++ u.pathGuard ++ u.path ++
    marked "?" u.query ++ marked "#" u.fragment

end Url

end AppLinks
