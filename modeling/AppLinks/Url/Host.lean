import AppLinks.Text.Percent
import AppLinks.Url.Basic
import AppLinks.Url.Domain
import AppLinks.Url.Error

/-!
# Reading hosts

The host of a scheme that this library knows is a domain name or an address; under any other
scheme it is kept as it is, apart from escapes and addresses in brackets.
-/

namespace AppLinks.Host

/-- What stands between brackets, if the text begins with one. -/
def bracketed? : List Char → Option (Except UrlError Host)
  | '[' :: cs =>
    some <|
      if cs.getLast? = some ']' then
        match Ipv6.parse? cs.dropLast with
        | some ps => .ok (.ipv6 ps)
        | none => .error .ipv6
      else .error .ipv6
  | _ => none

/-- A name that ends in a number has to be an address. -/
def ofName (name : List Char) : Except UrlError Host :=
  if name.isEmpty then .error .emptyHost
  else if Ipv4.endsInNumber name then
    match Ipv4.parse? name with
    | some a => .ok (.ipv4 a)
    | none => .error .ipv4
  else .ok (.domain (String.ofList name))

def parse (cs : List Char) : Except UrlError Host :=
  match bracketed? cs with
  | some h => h
  | none =>
    match Domain.toAscii? (Text.Percent.decodeChars cs) with
    | some name => ofName name
    | none => .error .domainName

/-- Characters that no host may hold. -/
def separators : List Char :=
  ['\x00', '\t', '\n', '\r', ' ', '#', '/', ':', '<', '>', '?', '@', '[', '\\', ']', '^', '|']

/-- The host of a scheme of its own rules; nothing when the text is empty. -/
def parseOpaque (cs : List Char) : Except UrlError (Option Host) :=
  match bracketed? cs with
  | some h => h.map some
  | none =>
    if cs.any separators.contains then .error .domainCharacter
    else if cs.isEmpty then .ok none
    else .ok (some (.domain (String.ofList (Text.Percent.encode [] cs))))

end AppLinks.Host
