import CrawlAudit.Text.Utf8
import CrawlAudit.Url.DomainName
import CrawlAudit.Url.Ipv4

/-!
# Hosts of addresses

The host of an absolute url, as far as it is a name or an IPv4 address; a bracketed IPv6 address
is not looked at, for it has no dots. Tabs and line breaks are ignored wherever they stand. In
urls of the special schemes a backslash counts as a slash and the host is a domain name; in other
urls the host is any text without the characters that end it.
-/

namespace CrawlAudit.Url

/-- How the part after the scheme is read. -/
inductive SchemeKind where
  | special
  | file
  | other
  deriving DecidableEq

namespace SchemeKind

def ofName (name : List Char) : SchemeKind :=
  let scheme := String.ofList name
  if scheme = "file" then .file
  else if ["http", "https", "ws", "wss", "ftp"].contains scheme then .special
  else .other

/-- Whether a character is a slash in urls of the scheme. -/
def isSlash (kind : SchemeKind) (c : Char) : Bool :=
  c == '/' || (c == '\\' && kind != .other)

/-- Whether a character ends the part between the slashes. -/
def endsAuthority (kind : SchemeKind) (c : Char) : Bool :=
  kind.isSlash c || c == '?' || c == '#'

end SchemeKind

def isControlOrSpace (c : Char) : Bool :=
  c.toNat ≤ 0x20

def isIgnored (c : Char) : Bool :=
  c == '\t' || c == '\n' || c == '\r'

def significant (cs : List Char) : List Char :=
  let trimmed := ((cs.dropWhile isControlOrSpace).reverse.dropWhile isControlOrSpace).reverse
  trimmed.filter fun c => !isIgnored c

def isSchemeChar (c : Char) : Bool :=
  c.isAlphanum || c == '+' || c == '-' || c == '.'

/-- Splits a url after the colon of its scheme. -/
def scheme? (cs : List Char) : Option (SchemeKind × List Char) :=
  let (name, rest) := cs.span isSchemeChar
  match name, rest with
  | c :: _, ':' :: after =>
    if c.isAlpha then some (.ofName (name.map Char.toLower), after) else none
  | _, _ => none

/-- The octets of a text with its percent escapes resolved. -/
def percentDecode : List Char → List UInt8
  | '%' :: a :: b :: rest =>
    match Hexadecimal.digit? a, Hexadecimal.digit? b with
    | some x, some y => UInt8.ofNat (x * 16 + y) :: percentDecode rest
    | _, _ => 0x25 :: percentDecode (a :: b :: rest)
  | c :: rest => Utf8.encodeChar c ++ percentDecode rest
  | [] => []

/-- The host of a special url: a domain name in ASCII, or an IPv4 address. -/
def domainHost? (cs : List Char) : Option (List Char) := do
  let decoded ← Utf8.decode? (percentDecode cs)
  let domain ← DomainName.toAscii? decoded
  guard !domain.isEmpty
  if Ipv4.endsInNumber domain then (Ipv4.address? domain).map Ipv4.text else some domain

/-- The characters that the host of any url cannot have. -/
def isForbidden (c : Char) : Bool :=
  ['\x00', '\t', '\n', '\r', ' ', '#', '/', ':', '<', '>', '?', '@', '[', '\\', ']', '^',
    '|'].contains c

def percentEncode (octet : UInt8) : List Char :=
  let digit (n : Nat) : Char := (Nat.digitChar n).toUpper
  ['%', digit (octet.toNat / 16), digit (octet.toNat % 16)]

/-- The host of a url that is not special: control and non-ASCII characters are escaped. -/
def opaqueHost? (cs : List Char) : Option (List Char) :=
  if cs.isEmpty || cs.any isForbidden then none
  else
    some (cs.flatMap fun c =>
      if c.toNat < 0x20 || 0x7F ≤ c.toNat then (Utf8.encodeChar c).flatMap percentEncode
      else [c])

/-- Whether the text after the colon of a host is a port: a number of 16 bits, or nothing. -/
def isPort (cs : List Char) : Bool :=
  let (ds, rest) := cs.span Decimal.isDigit
  Decimal.value ds < 65536 && (rest.isEmpty || rest.head? == some '\\')

/-- What follows the last occurrence of a character; the whole text if there is none. -/
def afterLast (mark : Char) (cs : List Char) : List Char :=
  (cs.reverse.takeWhile (· != mark)).reverse

/-- The host at the front of what follows the slashes. User names and passwords stand before the
last at sign. -/
def authorityHost? (kind : SchemeKind) (cs : List Char) : Option (List Char) :=
  let authority := cs.takeWhile fun c => !kind.endsAuthority c
  let (host, port) := (afterLast '@' authority).span (· != ':')
  if host.contains '[' || !isPort (port.drop 1) then none
  else if kind = .other then opaqueHost? host
  else domainHost? host

/-- Whether a text is a drive: a letter and a colon or a bar. -/
def isDrive : List Char → Bool
  | [c, mark] => c.isAlpha && (mark == ':' || mark == '|')
  | _ => false

/-- The segments of a path up to its query. -/
def segments (cs : List Char) : List (List Char) :=
  (cs.takeWhile fun c => c != '?' && c != '#').splitOnP (SchemeKind.file.isSlash ·)

def isSingleDot (segment : List Char) : Bool :=
  [".", "%2e"].contains (String.ofList (segment.map Char.toLower))

def isDoubleDot (segment : List Char) : Bool :=
  ["..", ".%2e", "%2e.", "%2e%2e"].contains (String.ofList (segment.map Char.toLower))

/-- Whether a path of the given depth goes on with a drive as its first segment. -/
def hasDrive (depth : Nat) : List (List Char) → Bool
  | [] => false
  | segment :: rest =>
    if isDoubleDot segment then hasDrive (depth - 1) rest
    else if isSingleDot segment then hasDrive depth rest
    else (depth == 0 && isDrive segment) || hasDrive (depth + 1) rest

/-- The host of a file url, after its slashes. The local host counts as none, and so does a host
before a drive. -/
def fileHost? (cs : List Char) : Option (List Char) := do
  let (name, path) := cs.span fun c => !SchemeKind.file.endsAuthority c
  guard (!name.isEmpty && !isDrive name && !name.contains '[')
  let host ← domainHost? name
  guard (host != "localhost".toList)
  let rest :=
    match path with
    | c :: r => if SchemeKind.file.isSlash c then r else c :: r
    | [] => []
  guard !(hasDrive 0 (segments rest))
  return host

def hostChars? (cs : List Char) : Option (List Char) := do
  let (kind, rest) ← scheme? (significant cs)
  match kind, rest with
  | .special, cs => authorityHost? .special (cs.dropWhile SchemeKind.special.isSlash)
  | .file, a :: b :: cs =>
    if SchemeKind.file.isSlash a && SchemeKind.file.isSlash b then fileHost? cs else none
  | .other, '/' :: '/' :: cs => authorityHost? .other cs
  | _, _ => none

def host? (url : String) : Option String :=
  (hostChars? url.toList).map String.ofList

end CrawlAudit.Url
