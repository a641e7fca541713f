/-!
# Why a text is no URL
-/

namespace AppLinks

inductive UrlError where
  | noScheme
  | emptyHost
  | badPort
  | ipv4
  | ipv6
  | domainName
  | domainCharacter
  deriving DecidableEq, Repr

def UrlError.message : UrlError → String
  | .noScheme => "relative URL without a base"
  | .emptyHost => "empty host"
  | .badPort => "invalid port number"
  | .ipv4 => "invalid IPv4 address"
  | .ipv6 => "invalid IPv6 address"
  | .domainName => "invalid international domain name"
  | .domainCharacter => "invalid domain character"

end AppLinks
