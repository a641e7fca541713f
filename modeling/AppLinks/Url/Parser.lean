import AppLinks.Url.Host
import AppLinks.Url.Path

/-!
# Reading URLs

A URL is read from left to right: scheme, authority, path, query, fragment. Blanks around it and
line breaks and tabs in it do not count. Nothing is read relative to another URL, so a text without
a scheme is none.
-/

namespace AppLinks

/-! ## Characters -/

namespace Url

/-- Characters that are written as escapes in a fragment. -/
def fragmentEscaped : List Char := [' ', '"', '<', '>', '\x60']

def queryEscaped (s : Scheme) : List Char :=
  [' ', '"', '#', '<', '>'] ++ if s.isSpecial then ['\''] else []

def isBlank (c : Char) : Bool := c.toNat ≤ 0x20

/-- The text without blanks around it and without tabs and line breaks. -/
def clean (cs : List Char) : List Char :=
  let trimmed := ((cs.dropWhile isBlank).reverse.dropWhile isBlank).reverse
  trimmed.filter fun c => c != '\t' && c != '\n' && c != '\r'

end Url

/-! ## Authorities -/

namespace Authority

/-- Characters that are written as escapes in a name or password. -/
def escaped : List Char :=
  Path.escaped ++ ['/', ':', ';', '=', '@', '[', '\\', ']', '^', '|']

/-- The text up to the last at sign, if there is one, and the text behind it. -/
def breakCredentials (cs : List Char) : Option (List Char) × List Char :=
  if cs.contains '@' then
    (some (cs.reverse.dropWhile (· != '@')).reverse.dropLast,
      (cs.reverse.takeWhile (· != '@')).reverse)
  else (none, cs)

/-- The name and password of credentials; an empty password is none. -/
def readCredentials (cs : List Char) : String × Option String :=
  let write (part : List Char) := String.ofList (Text.Percent.encode escaped part)
  let password := (cs.dropWhile (· != ':')).drop 1
  (write (cs.takeWhile (· != ':')),
    if password.isEmpty then none else some (write password))

/-- The text before the colon that ends a host, and the rest; colons between brackets do not
count. -/
def breakPort (inBrackets : Bool) : List Char → List Char × List Char
  | [] => ([], [])
  | c :: cs =>
    if c = ':' && !inBrackets then ([], c :: cs)
    else
      let (host, rest) := breakPort (c = '[' || (inBrackets && c != ']')) cs
      (c :: host, rest)

/-- The number behind a host and what stands behind it; no digits are no number. -/
def readPort (number : Option Nat) : List Char → Except UrlError (Option Nat × List Char)
  | [] => .ok (number, [])
  | c :: cs =>
    if c.isDigit then
      let n := number.getD 0 * 10 + (c.toNat - 48)
      if 65535 < n then .error .badPort else readPort (some n) cs
    else if c = '\\' then .ok (number, c :: cs)
    else .error .badPort

def readHost (s : Scheme) (cs : List Char) (hasPort : Bool) : Except UrlError (Option Host) :=
  if s.isSpecial then
    if cs.isEmpty then .error .emptyHost else (Host.parse cs).map some
  else
    match Host.parseOpaque cs with
    | .ok none => if hasPort then .error .emptyHost else .ok none
    | h => h

/-- An authority and what is left of its text; `isLast` when nothing follows it. -/
def read (s : Scheme) (cs : List Char) (isLast : Bool) :
    Except UrlError (Authority × List Char) := do
  let (credentials, address) := breakCredentials cs
  if credentials == some [] && address.isEmpty && !isLast then .error .emptyHost
  else
    let (username, password) := readCredentials (credentials.getD [])
    let (hostText, portText) := breakPort false address
    let host ← readHost s hostText !portText.isEmpty
    let (number, rest) ← readPort none (portText.drop 1)
    let number := if number == s.defaultPort then none else number
    if host.isNone && (!username.isEmpty || password.isSome) then .error .emptyHost
    else .ok (⟨username, password, host, number⟩, rest)

end Authority

/-! ## URLs -/

namespace Url

/-- The path, query and fragment texts of what follows the authority. -/
def pathText (cs : List Char) : List Char :=
  cs.takeWhile fun c => c != '?' && c != '#'

def queryText (cs : List Char) : Option (List Char) :=
  match (cs.takeWhile (· != '#')).dropWhile (· != '?') with
  | _ :: q => some q
  | [] => none

def fragmentText (cs : List Char) : Option (List Char) :=
  match cs.dropWhile (· != '#') with
  | _ :: f => some f
  | [] => none

/-- A URL of the given front whose path has been read; query and fragment come from `rest`. -/
def assemble (s : Scheme) (name : String) (authority : Option Authority) (path : String)
    (rest : List Char) : Url where
  scheme := name
  authority := authority
  path := path
  query := (queryText rest).map fun q =>
    String.ofList (Text.Percent.encode (queryEscaped s) q)
  fragment := (fragmentText rest).map fun f =>
    String.ofList (Text.Percent.encode fragmentEscaped f)

def dropSlash (s : Scheme) : List Char → List Char
  | c :: cs => if s.isSlash c then cs else c :: cs
  | [] => []

/-- The path behind an authority; only a URL of a scheme of its own rules may have none. -/
def rootedPath (s : Scheme) (rest : List Char) : String × Bool :=
  if !s.isSpecial && (pathText rest).isEmpty then ("", false)
  else Path.below s (dropSlash s (pathText rest))

def readWithAuthority (s : Scheme) (name : String) (cs : List Char) : Except UrlError Url := do
  let behind := cs.dropWhile fun c => !s.endsAuthority c
  let (a, rest) ← Authority.read s (cs.takeWhile fun c => !s.endsAuthority c) behind.isEmpty
  .ok (assemble s name (some a) (rootedPath s (rest ++ behind)).1 (rest ++ behind))

/-- The host of a file, where the local one goes without saying. -/
def readFileHost (cs : List Char) : Except UrlError (Option Host) :=
  if cs.isEmpty then .ok none
  else (Host.parse cs).map fun h => if h = .domain "localhost" then none else some h

def readFile (name : String) (cs : List Char) : Except UrlError Url := do
  let finish (host : Option Host) (path : String × Bool) (rest : List Char) : Url :=
    assemble .file name (some { host := if path.2 then none else host }) path.1 rest
  match cs with
  | c :: d :: rest =>
    if Scheme.file.isSlash c && Scheme.file.isSlash d then
      let hostText := rest.takeWhile fun c => !Scheme.file.endsAuthority c
      if (Path.drive? hostText).isSome then
        .ok (finish none (Path.below .file (pathText rest)) rest)
      else
        let host ← readFileHost hostText
        let behind := rest.drop hostText.length
        .ok (finish host (rootedPath .file behind) behind)
    else .ok (finish none (rootedPath .file cs) cs)
  | _ => .ok (finish none (rootedPath .file cs) cs)

def readOther (name : String) : List Char → Except UrlError Url
  | '/' :: '/' :: cs => readWithAuthority .other name cs
  | '/' :: cs => .ok (assemble .other name none (Path.below .other (pathText cs)).1 cs)
  | cs =>
    .ok (assemble .other name none (String.ofList (Text.Percent.encode [] (pathText cs))) cs)

def parse (text : String) : Except UrlError Url :=
  match Scheme.read? (clean text.toList) with
  | none => .error .noScheme
  | some (name, rest) =>
    match Scheme.ofName name with
    | .file => readFile name rest
    | .web usual =>
      readWithAuthority (.web usual) name (rest.dropWhile (Scheme.web usual).isSlash)
    | .other => readOther name rest

end Url

end AppLinks
