import Montage.Download.Origin
import Montage.HostName.Basic
import Montage.Number.Numeral

/-! # Destinations

Before a request is sent to an address, the address has to pass as a destination: it is of a bounded
length and without control characters, its host is a name or an address of the form that it resembles,
its port is an integer, and a path without an origin does not look as if it had one.
-/

namespace Montage.Download

/-- Why an address is no destination. -/
inductive DestinationFault where
  | tooLong
  | partTooLong (part : String)
  | control (c : Char) (position : Nat)
  | shortAddress (host : List Char)
  | longAddress (host : List Char)
  | foreignName (host : List Char)
  | badPort (port : List Char)
  | detachedPath
  | doubleSlash
  | leadingColon
  deriving DecidableEq, Repr

/-- The wording of an address that is no destination. -/
def DestinationFault.message : DestinationFault → String
  | .tooLong => "URL too long"
  | .partTooLong part => s!"URL component '{part}' too long"
  | .control c position =>
    let shown := String.ofList (Text.quoted [c])
    s!"Invalid non-printable ASCII character in URL, {shown} at position {position}."
  | .shortAddress host => "Invalid IPv4 address: " ++ String.ofList (Text.quoted host)
  | .longAddress host => "Invalid IPv6 address: " ++ String.ofList (Text.quoted host)
  | .foreignName host => "Invalid IDNA hostname: " ++ String.ofList (Text.quoted host)
  | .badPort port => "Invalid port: " ++ String.ofList (Text.quoted port)
  | .detachedPath => "For absolute URLs, path must be empty or begin with '/'"
  | .doubleSlash => "Relative URLs cannot have a path starting with '//'"
  | .leadingColon => "Relative URLs cannot have a path starting with ':'"

namespace Destination

/-- The greatest number of characters of an address. -/
def lengthLimit : Nat := 65536

/-- Whether a character is a control character of ASCII. -/
def isControl (c : Char) : Bool := c.toNat < 32 || c.toNat == 127

/-- What may come after a stage of four groups of digits with any one character between two of them. At
even stages a group is about to begin; at odd ones it may go on. -/
def groupStages (c : Char) (stage : Nat) : List Nat :=
  if stage % 2 = 0 then (if c.isDigit then [stage + 1] else [])
  else (if c.isDigit then [stage] else []) ++ (if stage < 7 then [stage + 1] else [])

/-- Whether a host resembles four numbers with something between them. -/
def resemblesShort (host : List Char) : Bool :=
  (host.foldl (fun stages c => (stages.flatMap (groupStages c)).eraseDups) [0]).contains 7

/-- Whether a host stands in brackets. -/
def isBracketed (host : List Char) : Bool := host.head? == some '[' && host.getLast? == some ']'

/-- Refuses a host that is not what it resembles. -/
def checkHost (host : List Char) : Except DestinationFault Unit :=
  if resemblesShort host then
    if Address.isShort host then .ok () else .error (.shortAddress host)
  else if isBracketed host then
    if Address.isZoned (host.drop 1).dropLast then .ok () else .error (.longAddress host)
  else if host.all (fun c => c.toNat < 0x80) ∨ HostName.isSendable host then .ok ()
  else .error (.foreignName host)

/-- Refuses a port that is there and no integer. -/
def checkPort (port : List Char) : Except DestinationFault Unit :=
  if port.isEmpty || (Numeral.readSigned? port).isSome then .ok () else .error (.badPort port)

/-- Refuses a path that would be taken for more than a path. -/
def checkPath (origin : Address.Origin) : Except DestinationFault Unit :=
  if origin.scheme ≠ [] ∨ origin.authority ≠ {} then .ok ()
  else
    match origin.path with
    | '/' :: '/' :: _ => .error .doubleSlash
    | ':' :: _ => .error .leadingColon
    | _ => .ok ()

/-- Refuses an address that cannot be read as a destination. -/
def check (url : List Char) : Except DestinationFault Unit :=
  if lengthLimit < url.length then .error .tooLong
  else
    match url.findIdx? isControl with
    | some position => .error (.control (url.getD position ' ') position)
    | none => do
      let origin := Address.origin url
      checkHost origin.authority.host
      checkPort origin.authority.port
      checkPath origin

/-- Refuses an address that a request cannot be sent to. Of one without an origin nothing but the path
and the query is requested, with their escapes. -/
def checkFirst (url : List Char) : Except DestinationFault Unit := do
  check url
  if Address.hasOrigin url then .ok ()
  else if lengthLimit < (Address.restPath url).length then .error (.partTooLong "path")
  else if lengthLimit + 1 < (Address.restQuery url).length then .error (.partTooLong "query")
  else .ok ()

/-- Refuses an address that lacks the host only, which then is that of the address before it, unless its
path can follow a host. -/
def checkBorrowed (url : List Char) : Except DestinationFault Unit :=
  let origin := Address.origin url
  if origin.scheme ≠ [] ∧ origin.authority.host = [] ∧ origin.path ≠ [] ∧
      origin.path.head? ≠ some '/' then .error .detachedPath
  else .ok ()

end Destination

end Montage.Download
