import Montage.Files.Path
import Montage.Text.Quoted

/-! # Addresses

The path of an address is what lies between its host and its query or fragment, without the
parameters of its last part. Only a host in brackets and a few foreign forms of separators can make an
address unreadable.
-/

namespace Montage.Download

/-- Why an address cannot be read. -/
inductive AddressFault where
  | misplacedBrackets
  | futureAddress
  | shortAddress
  | noAddress (host : String)
  | separatorForms (host : String)
  | noOrigin (rest : String)
  deriving DecidableEq, Repr

/-- The wording of an unreadable address. -/
def AddressFault.message : AddressFault → String
  | .misplacedBrackets => "Invalid IPv6 URL"
  | .futureAddress => "IPvFuture address is invalid"
  | .shortAddress => "An IPv4 address cannot be in brackets"
  | .noAddress host => Text.quotedText host ++ " does not appear to be an IPv4 or IPv6 address"
  | .separatorForms host =>
    "netloc '" ++ host ++ "' contains invalid characters under NFKC normalization"
  | .noOrigin rest => "unknown url type: " ++ rest

namespace Address

/-- Whether a text is a number up to 255 without needless zeros. -/
def isOctet (s : List Char) : Bool :=
  s.all Char.isDigit && !s.isEmpty && s.length ≤ 3 && (s == ['0'] || s.head? != some '0') &&
    s.foldl (fun n c => 10 * n + (c.toNat - 48)) 0 ≤ 255

/-- Whether a text is four octets between points. -/
def isShort (s : List Char) : Bool :=
  let parts := Path.splitAt '.' s
  parts.length == 4 && parts.all isOctet

/-- Whether a text is up to four hexadecimal digits. -/
def isGroup (s : List Char) : Bool := !s.isEmpty && s.length ≤ 4 && s.all Text.isHexDigit

/-- The parts of a long address, four octets at its end counting as two groups. -/
def longParts? (s : List Char) : Option (List (List Char)) :=
  let parts := Path.splitAt ':' s
  if parts.length < 3 then none
  else
    match parts.getLast? with
    | some last =>
      if last.contains '.' then
        if isShort last then some (parts.dropLast ++ [['0'], ['0']]) else none
      else some parts
    | none => none

/-- The groups of a long address around a gap: an empty end belongs to the gap, and only to it. -/
def isSplit (before after : List (List Char)) : Bool :=
  let high := match before with
    | [] :: rest => if rest.isEmpty then some [] else none
    | groups => some groups
  let low := match after.reverse with
    | [] :: rest => if rest.isEmpty then some [] else none
    | groups => some groups
  match high, low with
  | some high, some low => high.length + low.length < 8 && (high ++ low).all isGroup
  | _, _ => false

/-- Whether a text is eight groups between colons, or fewer with one gap. -/
def isLong (s : List Char) : Bool :=
  match longParts? s with
  | none => false
  | some parts =>
    if 9 < parts.length then false
    else
      let inner := (parts.drop 1).dropLast
      match inner.count [] with
      | 0 => parts.length == 8 && parts.all isGroup
      | 1 =>
        let gap := inner.findIdx (· == []) + 1
        isSplit (parts.take gap) (parts.drop (gap + 1))
      | _ => false

/-- Whether a text is a long address with an optional zone after a percent sign. -/
def isZoned (s : List Char) : Bool :=
  match Path.splitAt '%' s with
  | [plain] => isLong plain && !s.contains '/'
  | [plain, zone] => isLong plain && !zone.isEmpty && !s.contains '/'
  | _ => false

/-- Whether a text names an address of a kind yet to come: its version in hexadecimal, and more. -/
def isFuture (s : List Char) : Bool :=
  match s with
  | 'v' :: rest =>
    let version := rest.takeWhile Text.isHexDigit
    match rest.drop version.length with
    | '.' :: more => !version.isEmpty && !more.isEmpty && !more.contains '\n'
    | _ => false
  | _ => false

/-- Checks the text between the brackets of a host. -/
def checkBracketed (s : List Char) : Except AddressFault Unit :=
  if s.head? = some 'v' then (if isFuture s then .ok () else .error .futureAddress)
  else if isShort s then .error .shortAddress
  else if isZoned s then .ok ()
  else .error (.noAddress (String.ofList s))

/-- The foreign characters that stand for text with a separator of addresses in it. -/
def separatorForms : List Nat :=
  [0x2047, 0x2048, 0x2049, 0x2100, 0x2101, 0x2105, 0x2106, 0x2A74, 0xFE13, 0xFE16, 0xFE55, 0xFE56,
    0xFE5F, 0xFE6B, 0xFF03, 0xFF0F, 0xFF1A, 0xFF1F, 0xFF20]

/-- The text after the last occurrence of a character, or the whole text. -/
def afterLast (c : Char) (s : List Char) : List Char := (s.reverse.takeWhile (· != c)).reverse

/-- The host of an authority with brackets: what stands in the brackets after the user, with nothing
before them and at most a port behind them. If there are brackets in the user only, the host ends at
the port. -/
def bracketedHost (authority : List Char) : Except AddressFault (List Char) :=
  let named := afterLast '@' authority
  if named.contains '[' then
    let inside := (named.dropWhile (· != '[')).drop 1
    let port := (inside.dropWhile (· != ']')).drop 1
    if named.head? != some '[' || (port.head?.map (· != ':')).getD false then
      .error .misplacedBrackets
    else .ok (inside.takeWhile (· != ']'))
  else .ok (named.takeWhile (· != ':'))

/-- Checks the brackets of an authority and the host that they are about. -/
def checkBrackets (authority : List Char) : Except AddressFault Unit :=
  match authority.contains '[', authority.contains ']' with
  | true, true => bracketedHost authority >>= checkBracketed
  | false, false => .ok ()
  | _, _ => .error .misplacedBrackets

/-- Refuses a host with a form of a separator in it. -/
def checkForms (s : List Char) : Except AddressFault Unit :=
  if s.any fun c => separatorForms.contains c.toNat then .error (.separatorForms (String.ofList s))
  else .ok ()

/-- Whether a character may stand in a scheme after its first letter. -/
def isSchemeChar (c : Char) : Bool := c.isAlphanum || c == '+' || c == '-' || c == '.'

/-- The scheme of an address in lower case, empty if there is none, and what follows. -/
def splitScheme (s : List Char) : List Char × List Char :=
  let scheme := s.takeWhile (· != ':')
  match s.drop scheme.length with
  | ':' :: rest =>
    if ((scheme.head?.map Char.isAlpha).getD false) && scheme.all isSchemeChar then
      (scheme.map Char.toLower, rest)
    else ([], s)
  | _ => ([], s)

/-- The schemes whose paths may have parameters. -/
def parameterSchemes : List String :=
  ["", "ftp", "hdl", "prospero", "http", "imap", "https", "shttp", "rtsp", "rtsps", "rtspu", "sip",
    "sips", "mms", "sftp", "tel"]

/-- The path without the parameters of its last part. -/
def dropParameters (path : List Char) : List Char :=
  let last := (path.reverse.takeWhile (· != '/')).reverse
  path.take (path.length - last.length) ++ last.takeWhile (· != ';')

/-- The path of an address. -/
def path (url : List Char) : Except AddressFault (List Char) := do
  let s := (url.dropWhile fun c => c.toNat ≤ 32).filter fun c => c != '\t' && c != '\r' && c != '\n'
  let (scheme, s) := splitScheme s
  let (host, s) := match s with
    | '/' :: '/' :: rest =>
      let host := rest.takeWhile fun c => c != '/' && c != '?' && c != '#'
      (host, rest.drop host.length)
    | other => ([], other)
  checkBrackets host
  checkForms host
  let path := (s.takeWhile (· != '#')).takeWhile (· != '?')
  return if parameterSchemes.contains (String.ofList scheme) then dropParameters path else path

end Address

end Montage.Download
