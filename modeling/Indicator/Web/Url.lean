import Indicator.Number.Integer
import Indicator.Text.Case
import Indicator.Web.Url.Host

/-!
# Addresses

The addresses that requests are sent to. A link that names a scheme and a host is an address by
itself; any other link is appended to the path of a base address. Dots in a path are resolved,
characters that may not stand in an address are written by their octets, the host is in lower case
and the number after it is left out where the scheme implies it.
-/

namespace Indicator.Web

/-- Why a text is no address, or an address cannot be used. -/
inductive UrlFault
  | control (c : Char) (position : Nat)
  | tooLong
  | longComponent (name : String)
  | missingSlash
  | leadingSlashes
  | leadingColon
  | badNumber (text : String)
  | badFourPartHost (host : String)
  | badGroupedHost (host : String)
  | foreignHost (host : String)
  | unencodable (what : Text.Unencodable)
  /-- A name in ASCII that does not stand for a name. -/
  | badName (what : DomainName.Fault)
  /-- An address that does not start with a scheme. -/
  | schemeless (address : String)
deriving DecidableEq, Repr

def UrlFault.message : UrlFault → String
  | control c position =>
    "Invalid non-printable ASCII character in URL, " ++ Text.quoted (String.ofList [c]) ++
      " at position " ++ toString position ++ "."
  | tooLong => "URL too long"
  | longComponent name => "URL component '" ++ name ++ "' too long"
  | missingSlash => "For absolute URLs, path must be empty or begin with '/'"
  | leadingSlashes => "Relative URLs cannot have a path starting with '//'"
  | leadingColon => "Relative URLs cannot have a path starting with ':'"
  | badNumber text => "Invalid port: " ++ Text.quoted text
  | badFourPartHost host => "Invalid IPv4 address: " ++ Text.quoted host
  | badGroupedHost host => "Invalid IPv6 address: " ++ Text.quoted host
  | foreignHost host => "Invalid IDNA hostname: " ++ Text.quoted host
  | unencodable what => what.message
  | badName what => what.message
  | schemeless address => "unknown url type: " ++ Text.quoted address

/-! ### Paths -/

/-- The segments of a path after those in `kept`, which are in reverse. One dot stands for nothing
and two dots take back a segment, but not the empty one before the first slash. -/
def resolveDots (kept : List (List Char)) : List (List Char) → List (List Char)
  | [] => kept.reverse
  | segment :: rest =>
    if segment = ['.'] then resolveDots kept rest
    else if segment = ['.', '.'] then
      resolveDots (if kept = [[]] then kept else kept.drop 1) rest
    else resolveDots (segment :: kept) rest

/-- A path without dot segments. -/
def normalPath (path : List Char) : List Char :=
  List.intercalate ['/'] (resolveDots [] (splitAt '/' path))

/-! ### Addresses -/

structure Url where
  scheme : String
  /-- The name and the password in front of the host. -/
  user : String
  host : String
  number : Option Int
  path : String
  query : Option String
  fragment : Option String
deriving DecidableEq, Repr

namespace Url

/-- The host with the number after it. -/
def location (url : Url) : String :=
  (if url.host.toList.contains ':' then "[" ++ url.host ++ "]" else url.host) ++
    match url.number with
    | none => ""
    | some n => ":" ++ toString n

def authority (url : Url) : String :=
  (if url.user = "" then "" else url.user ++ "@") ++ url.location

/-- An optional part after the character that leads it in. -/
def ledBy (mark : String) : Option String → String
  | none => ""
  | some part => mark ++ part

/-- What is asked for at the host: the path, and the query after a question mark. -/
def target (url : Url) : String :=
  (if url.path = "" then "/" else url.path) ++ ledBy "?" url.query

def text (url : Url) : String :=
  (if url.scheme = "" then "" else url.scheme ++ ":") ++
    (if url.authority = "" then "" else "//" ++ url.authority) ++ url.path ++
    ledBy "?" url.query ++ ledBy "#" url.fragment

/-- The path with the characters that its octets stand for. -/
def plainPath (url : Url) : String :=
  String.ofList (Text.decodeUtf8Lenient
    (percentDecode (if url.path = "" then "/" else url.path).toList))

/-- An address by itself, not to be appended to a base. -/
def isAbsolute (url : Url) : Bool := url.scheme ≠ "" && url.host ≠ ""

/-! ### Parts of an address -/

/-- The number that a scheme implies. -/
def impliedNumber (scheme : String) : Option Int :=
  [("ftp", 21), ("http", 80), ("https", 443), ("ws", 80), ("wss", 443)].lookup scheme

/-- The number after a host, left out where the scheme, spelled in lower case, implies it. -/
def readNumber (scheme : String) (text : List Char) : Except UrlFault (Option Int) :=
  if text.isEmpty then .ok none
  else match Number.readInteger (String.ofList text) with
    | .ok n => .ok (if impliedNumber scheme = some n then none else some n)
    | .error _ => .error (.badNumber (String.ofList text))

/-- A host in lower case and in ASCII; one in brackets loses them. -/
def readHost (host : List Char) : Except UrlFault String :=
  let shown := String.ofList host
  if Host.looksLikeFour host then
    if Host.isFour host then .ok shown else .error (.badFourPartHost shown)
  else if host.head? = some '[' && host.getLast? = some ']' then
    let inner := (host.drop 1).dropLast
    if Host.isEight inner then .ok (String.ofList inner) else .error (.badGroupedHost shown)
  else if host.all (·.toNat < 0x80) then
    ((encodeWith isHostSafe (host.map Char.toLower)).map String.ofList).mapError .unencodable
  else match DomainName.encode (Text.lower shown).toList with
    | .ok name => .ok (String.ofList name)
    | .error _ => .error (.foreignHost shown)

/-- The text in front of the last at sign of an authority, and the text after it. -/
def splitUser (authority : List Char) : List Char × List Char :=
  let location := (authority.reverse.takeWhile (· ≠ '@')).reverse
  ((authority.take (authority.length - location.length)).dropLast, location)

/-- The host and the text after the colon that follows it. -/
def splitHost (location : List Char) : List Char × List Char :=
  let bracketed := (location.reverse.dropWhile (· ≠ ']')).reverse
  let host :=
    if location.head? = some '[' && !bracketed.isEmpty then bracketed
    else location.takeWhile (· ≠ ':')
  let rest := location.drop host.length
  (host, if rest.head? = some ':' then rest.drop 1 else rest)

/-- The scheme, in front of a colon, and the rest. It may be empty. -/
def splitScheme (text : List Char) : List Char × List Char :=
  let isSchemeChar (c : Char) := c.isAlphanum || c = '+' || c = '.' || c = '-'
  let name := if (text.head?.map Char.isAlpha).getD false then text.takeWhile isSchemeChar else []
  match text.drop name.length with
  | ':' :: rest => (name, rest)
  | _ => ([], text)

/-- The authority, after two slashes, and the rest. -/
def splitAuthority : List Char → List Char × List Char
  | '/' :: '/' :: rest =>
    let inside (c : Char) := c ≠ '/' && c ≠ '?' && c ≠ '#'
    (rest.takeWhile inside, rest.dropWhile inside)
  | rest => ([], rest)

/-- The text in front of the first character `mark`, and the text after it. -/
def splitFirst (mark : Char) (text : List Char) : List Char × Option (List Char) :=
  match text.dropWhile (· ≠ mark) with
  | _ :: rest => (text.takeWhile (· ≠ mark), some rest)
  | [] => (text, none)

/-! ### Reading -/

/-- Checks where a path may start. -/
def checkPath (hasScheme hasAuthority : Bool) (path : List Char) : Except UrlFault Unit :=
  if hasAuthority && !path.isEmpty && path.head? ≠ some '/' then .error .missingSlash
  else if !hasScheme && !hasAuthority && path.take 2 = ['/', '/'] then .error .leadingSlashes
  else if !hasScheme && !hasAuthority && path.head? = some ':' then .error .leadingColon
  else .ok ()

/-- A part with its characters encoded. -/
def encodePart (safe : Char → Bool) (part : List Char) : Except UrlFault String :=
  ((encodeWith safe part).map String.ofList).mapError .unencodable

/-- An address from its parts as they are written. -/
def ofParts (scheme authority path : List Char) (query fragment : Option (List Char)) :
    Except UrlFault Url := do
  let (user, location) := splitUser authority
  let (host, digits) := splitHost location
  let user ← encodePart isUserSafe user
  let host ← readHost host
  let number ← readNumber (String.ofList scheme) digits
  let hasAuthority := user ≠ "" || host ≠ "" || number.isSome
  checkPath (!scheme.isEmpty) hasAuthority path
  let path := if !scheme.isEmpty || hasAuthority then normalPath path else path
  let path ← encodePart isPathSafe path
  let query ← query.mapM (encodePart isQuerySafe)
  let fragment ← fragment.mapM (encodePart isFragmentSafe)
  return ⟨String.ofList (scheme.map Char.toLower), user, host, number, path, query, fragment⟩

/-- The longest text that is read as an address or as a part of one. -/
def maxLength : Nat := 65536

/-- An address, or a link to be appended to one. -/
def parse (text : List Char) : Except UrlFault Url :=
  if maxLength < text.length then .error .tooLong
  else
    let isControl (c : Char) := c.toNat < 0x20 || c.toNat = 0x7F
    match text.dropWhile (!isControl ·) with
    | c :: rest => .error (.control c (text.length - rest.length - 1))
    | [] =>
      let (scheme, afterScheme) := splitScheme text
      let (authority, rest) := splitAuthority afterScheme
      let (front, fragment) := splitFirst '#' rest
      let (path, query) := splitFirst '?' front
      ofParts scheme authority path query fragment

/-- The same place with another path and query. Each part is looked at once more. -/
def withTarget (url : Url) (target : List Char) : Except UrlFault Url :=
  let (path, query) := splitFirst '?' target
  let parts := [("scheme", some url.scheme.toList), ("authority", some url.authority.toList),
    ("path", some path), ("query", query), ("fragment", url.fragment.map String.toList)]
  match parts.find? fun part => (part.2.map fun text => decide (maxLength < text.length)).getD false with
  | some (name, _) => .error (.longComponent name)
  | none =>
    ofParts url.scheme.toList url.authority.toList path query (url.fragment.map String.toList)

/-- A base address, whose path ends with a slash. -/
def parseBase (text : String) : Except UrlFault Url := do
  let url ← parse text.toList
  let target := url.target.toList
  if target.getLast? = some '/' then return url else url.withTarget (target ++ ['/'])

/-- The address that a link stands for. -/
def resolve (base : Url) (link : String) : Except UrlFault Url := do
  let url ← parse link.toList
  if url.isAbsolute then return url
  else base.withTarget (base.target.toList ++ url.target.toList.dropWhile (· = '/'))

/-! ### Use -/

/-- Checks a host that is written in ASCII for a name in other scripts. -/
def checkName (url : Url) : Except UrlFault Unit :=
  if DomainName.mark.isPrefixOf url.host.toList then
    (DomainName.check url.host.toList).mapError .badName
  else .ok ()

/-- Checks that a request can name the host, in ASCII. -/
def checkHost (url : Url) : Except UrlFault Unit := do
  url.checkName
  if url.host ≠ "" then
    let _ ← (Text.Encoding.ascii.check url.location).mapError .unencodable

/-- Checks that an address starts with a scheme, as far as it goes without its fragment. -/
def checkScheme (url : Url) : Except UrlFault Unit :=
  let whole := url.text.toList
  let front :=
    match whole.reverse.dropWhile (· ≠ '#') with
    | [] => whole
    | _ :: rest => rest.reverse
  let name := front.takeWhile fun c => c ≠ '/' && c ≠ ':'
  if !name.isEmpty && front[name.length]? = some ':' then .ok ()
  else .error (.schemeless (if whole.getLast? = some '#' then String.ofList front else url.text))

/-- Checks an address that a response to a request for `url` leads on to. One without a host is
taken to be at the same host. -/
def checkNext (url next : Url) : Except UrlFault Unit := do
  next.checkName
  if next.scheme ≠ "" && next.host = "" && url.host ≠ "" then
    checkPath true true next.path.toList

end Url

end Indicator.Web
