import BlobTree.Settings.Domain
import BlobTree.Text.Units

/-!
# BlobTree.Settings.Url

Which texts are absolute URLs. A URL is a scheme, then either an authority (perhaps a user, a
host, perhaps a port) or anything at all; only the scheme, the host and the port can be wrong.

* Schemes of the web need a host, which is a domain name, an IPv4 address or, in brackets, an
  IPv6 address; for them a backslash counts as a slash. Other schemes take any host without
  forbidden characters, or none.
* Controls and blanks at the ends and line breaks anywhere are not part of the URL.
-/

namespace BlobTree
namespace Url

def isC0OrSpace (c : Char) : Bool :=
  c.toNat ≤ 0x20

/-- The text without controls and blanks at its ends and without tabs and line breaks. -/
def cleaned (s : Name) : Name :=
  let s := s.dropWhile isC0OrSpace
  let s := (s.reverse.dropWhile isC0OrSpace).reverse
  s.filter fun c => c ≠ '\t' ∧ c ≠ '\n' ∧ c ≠ '\r'

/-- The schemes of the web, which need a host. -/
def webSchemes : List Name :=
  ["ftp", "http", "https", "ws", "wss"].map String.toList

/-- The scheme in small letters and what follows its colon. -/
def splitScheme (s : Name) : Option (Name × Name) :=
  match s with
  | [] => none
  | first :: _ =>
    let scheme := s.takeWhile fun c => c.isAlphanum || c = '+' || c = '-' || c = '.'
    match s.dropWhile fun c => c.isAlphanum || c = '+' || c = '-' || c = '.' with
    | ':' :: rest => if first.isAlpha then some (scheme.map Char.toLower, rest) else none
    | _ => none

def isForbiddenInHost (c : Char) : Bool :=
  c.toNat = 0 || " \t\n\r#/:<>?@[]\\^|".toList.contains c

def isForbiddenInDomain (c : Char) : Bool :=
  isForbiddenInHost c || c.toNat < 0x20 || c = '%' || c.toNat = 0x7F

def digitValue? (base : Nat) (c : Char) : Option Nat :=
  let v? :=
    if c.isDigit then some (c.toNat - '0'.toNat)
    else if 'a' ≤ c.toLower ∧ c.toLower ≤ 'f' then some (c.toLower.toNat - 'a'.toNat + 10)
    else none
  v?.filter (· < base)

def natOf? (base : Nat) (s : Name) : Option Nat :=
  s.foldl (fun acc c => do return (← acc) * base + (← digitValue? base c)) (some 0)

/-- The value of one part of an IPv4 address: hexadecimal after `0x`, octal after `0`. -/
def ipv4Part? (s : Name) : Option Nat :=
  match s with
  | [] => none
  | '0' :: 'x' :: r | '0' :: 'X' :: r => natOf? 16 r
  | '0' :: c :: r => natOf? 8 (c :: r)
  | s => natOf? 10 s

/-- The parts of a domain, without the empty one after a final dot. -/
def labels (s : Name) : List Name :=
  let parts := s.splitOn '.'
  if parts.length > 1 ∧ parts.getLast? = some [] then parts.dropLast else parts

/-- A domain whose last part is a number is an address. -/
def endsInNumber (s : Name) : Bool :=
  if s.splitOn '.' = [[]] then false
  else match (labels s).getLast? with
    | some last => (!last.isEmpty && last.all Char.isDigit) || (ipv4Part? last).isSome
    | none => false

def isIpv4 (s : Name) : Bool :=
  let parts := labels s
  parts.length ≤ 4 &&
    match parts.mapM ipv4Part? with
    | none => false
    | some values =>
      values.dropLast.all (· ≤ 255) &&
        (values.getLast?.all fun v => v < Nat.pow 256 (5 - values.length))

/-- The dotted part of an IPv6 address: four numbers up to 255 without leading zeros. -/
def isDotted (s : Name) : Bool :=
  let parts := s.splitOn '.'
  parts.length = 4 && parts.all fun p =>
    !p.isEmpty && p.all Char.isDigit && (p.length = 1 || p.head? ≠ some '0') &&
      (natOf? 10 p).any (· ≤ 255)

/-- The groups of an IPv6 address from some place on. `used` groups are there already and
`gap` says whether a run of zeros has been left out. -/
def ipv6Groups : (steps : Nat) → Name → (used : Nat) → (gap : Bool) → Bool
  | 0, _, _, _ => false
  | _ + 1, [], used, gap => gap || used = 8
  | steps + 1, ':' :: rest, used, gap =>
    used < 8 && !gap && ipv6Groups steps rest (used + 1) true
  | steps + 1, s, used, gap =>
    let digits := (s.take 4).takeWhile fun c => (digitValue? 16 c).isSome
    used < 8 &&
      match s.drop digits.length with
      | '.' :: _ => !digits.isEmpty && used ≤ 6 && isDotted s && (gap || used + 2 = 8)
      | [':'] => false
      | ':' :: rest => ipv6Groups steps rest (used + 1) gap
      | [] => ipv6Groups steps [] (used + 1) gap
      | _ => false

def isIpv6 (s : Name) : Bool :=
  match s with
  | ':' :: ':' :: rest => ipv6Groups (s.length + 1) rest 1 true
  | ':' :: _ => false
  | _ => ipv6Groups (s.length + 1) s 0 false

/-- The bytes of a text in which `%` and two hexadecimal digits stand for a byte. -/
def decodedBytes : Name → List UInt8
  | '%' :: a :: b :: rest =>
    match digitValue? 16 a, digitValue? 16 b with
    | some x, some y => UInt8.ofNat (16 * x + y) :: decodedBytes rest
    | _, _ => '%'.toUInt8 :: decodedBytes (a :: b :: rest)
  | c :: rest => (String.ofList [c]).toUTF8.toList ++ decodedBytes rest
  | [] => []

/-- A domain with its percent-encoding undone, if that gives a text. -/
def decoded (s : Name) : Option Name :=
  (String.fromUTF8? ⟨(decodedBytes s).toArray⟩).map String.toList

/-- Whether a text is a domain: its form is one, and is an address if it ends in a number. -/
def isDomain (s : Name) : Bool :=
  match (decoded s).bind fun s => Domain.allowed? (s.map Char.toNat) with
  | none => false
  | some form =>
    let s := form.map Char.ofNat
    !s.isEmpty && !s.any isForbiddenInDomain && (!endsInNumber s || isIpv4 s)

/-- A host of a scheme of the web (`web`) or of another. -/
def isHost (web : Bool) (s : Name) : Bool :=
  match s with
  | '[' :: rest => rest.getLast? = some ']' && isIpv6 rest.dropLast
  | s => if web then isDomain s else !s.any isForbiddenInHost

/-- The host and what follows it from its colon on; a colon in brackets is part of the host. -/
def splitPort : (bracket : Bool) → Name → Name × Option Name
  | _, [] => ([], none)
  | bracket, c :: rest =>
    if c = ':' ∧ !bracket then ([], some rest)
    else
      let (host, port) := splitPort (if c = '[' then true else if c = ']' then false else bracket) rest
      (c :: host, port)

def isPort (s : Name) : Bool :=
  s.all Char.isDigit && (natOf? 10 s).all (· ≤ 65535)

/-- What stands between the slashes and the path. -/
def isAuthority (web : Bool) (s : Name) : Bool :=
  let afterUser := (s.reverse.takeWhile (· ≠ '@')).reverse
  let (host, port) := splitPort false afterUser
  if s.contains '@' ∧ afterUser.isEmpty then false
  else match port with
    | some port => !host.isEmpty && isHost web host && isPort port
    | none => if host.isEmpty then !web else isHost web host

def endsAuthority (web : Bool) (c : Char) : Bool :=
  c = '/' || c = '?' || c = '#' || (web && c = '\\')

def isSlash (c : Char) : Bool :=
  c = '/' || c = '\\'

/-- What follows `file:`; only a host can be wrong, and a drive letter is no host. -/
def isFilePart (s : Name) : Bool :=
  match s with
  | a :: b :: rest =>
    if isSlash a ∧ isSlash b then
      let host := rest.takeWhile (!endsAuthority true ·)
      let isDrive := match host with
        | [letter, mark] => letter.isAlpha && (mark = ':' || mark = '|')
        | _ => false
      host.isEmpty || isDrive || isHost true host
    else true
  | _ => true

def isValid (text : Name) : Bool :=
  match splitScheme (cleaned text) with
  | none => false
  | some (scheme, rest) =>
    if scheme = "file".toList then isFilePart rest
    else if webSchemes.contains scheme then
      isAuthority true ((rest.dropWhile isSlash).takeWhile (!endsAuthority true ·))
    else match rest with
      | '/' :: '/' :: rest => isAuthority false (rest.takeWhile (!endsAuthority false ·))
      | _ => true

end Url
end BlobTree
