import ConstrainedDecoding.Text.Lowercase
import ConstrainedDecoding.Url.DomainName
import ConstrainedDecoding.Url.Error
import ConstrainedDecoding.Url.Percent

/-!
The host of a URL. A host that looks like an IP address has to be one and is kept; any other name is
lowercased, and put into ASCII if it is not. In ASCII names what may not stand there is escaped
after that, so that an escape is in capitals until the host is read again.
-/

namespace ConstrainedDecoding.Host

/-! ## IPv4 -/

/-- Whether a host reads as four groups of digits with dots between them. -/
def isFourGroups (host : List Char) : Bool :=
  let groups := host.splitOnP (· = '.')
  groups.length = 4 && groups.all fun group => !group.isEmpty && group.all Char.isDigit

/-- A number below 256, written without leading zeros. -/
def isOctet (digits : List Char) : Bool :=
  !digits.isEmpty && digits.length ≤ 3 && digits.all Char.isDigit &&
    (digits.length = 1 || digits.head? ≠ some '0') &&
    digits.foldl (fun value c => value * 10 + (c.toNat - 48)) 0 < 256

def isIPv4 (host : List Char) : Bool :=
  let octets := host.splitOnP (· = '.')
  octets.length = 4 && octets.all isOctet

/-! ## IPv6 -/

/-- One to four hexadecimal digits. -/
def isGroup (digits : List Char) : Bool :=
  !digits.isEmpty && digits.length ≤ 4 && digits.all fun c => (Text.hexValue? c).isSome

/-- The number of groups in a stretch of an address. An IPv4 address counts as two, where it may
stand. -/
def groupCount? (allowIPv4 : Bool) (stretch : List Char) : Option Nat :=
  let groups := stretch.splitOnP (· = ':')
  let lead := groups.dropLast
  let final := groups.getLast?.getD []
  if stretch.isEmpty then some 0
  else if !lead.all isGroup then none
  else if isGroup final then some (lead.length + 1)
  else if allowIPv4 && isIPv4 final then some (lead.length + 2)
  else none

/-- The parts in front of and behind the first pair of colons. -/
def splitAtGap : List Char → List Char × Option (List Char)
  | [] => ([], none)
  | ':' :: ':' :: rest => ([], some rest)
  | c :: rest => let (front, back) := splitAtGap rest; (c :: front, back)

/-- Whether a text is eight groups, or fewer than eight with one gap. -/
def isAddress (text : List Char) : Bool :=
  match splitAtGap text with
  | (whole, none) => groupCount? true whole = some 8
  | (front, some back) =>
    match groupCount? false front, groupCount? true back with
    | some before, some after => before + after ≤ 7
    | _, _ => false

/-- An address, and behind a percent sign the zone where it holds. -/
def isIPv6 (text : List Char) : Bool :=
  isAddress (text.takeWhile (· ≠ '%')) &&
    match text.dropWhile (· ≠ '%') with
    | [] => true
    | _ :: zone => !zone.isEmpty && !zone.contains '%'

/-! ## All hosts -/

/-- The host of a URL as it is kept. -/
def normalize (host : String) : Except UrlError String :=
  let content := host.toList
  if host.isEmpty then .ok ""
  else if isFourGroups content then
    if isIPv4 content then .ok host else .error (.badHost .ipv4 host)
  else if content.head? = some '[' ∧ content.getLast? = some ']' then
    let inner := (content.drop 1).dropLast
    if isIPv6 inner then .ok (String.ofList inner) else .error (.badHost .ipv6 host)
  else if content.all Punycode.isAscii then
    .ok (Percent.encode Percent.inHost (Text.lowercase host))
  else
    match DomainName.write (Text.lowercase host).toList with
    | .ok written => .ok (String.ofList written)
    | .error _ => .error (.badHost .international host)

/-- The readable form of a host that is kept. Only a name whose first label is encoded has another
one. -/
def readable (host : String) : Except LabelError String :=
  if DomainName.isMarked host.toList then (DomainName.read host.toList).map String.ofList
  else .ok host

/-- Whether a host can be written in a header field. Zones of IPv6 addresses need not be ASCII. -/
def isAscii (host : String) : Bool :=
  host.toList.all Punycode.isAscii

end ConstrainedDecoding.Host
