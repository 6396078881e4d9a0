import Montage.Download.Address
import Montage.Text.Percent

/-! # Origins of addresses

An address leads somewhere only if it names a scheme and a host. Of any other address nothing but the
path and the query is requested, and what comes back is refused.
-/

namespace Montage.Download.Address

/-- What names the other side in an address: a user, a host and a port. -/
structure Authority where
  user : List Char := []
  host : List Char := []
  port : List Char := []
  deriving DecidableEq, Repr

/-- The parts of an address that decide where it leads. -/
structure Origin where
  scheme : List Char
  authority : Authority
  path : List Char
  query : Option (List Char)
  deriving DecidableEq, Repr

/-- Whether a character ends the authority of an address. -/
def endsAuthority (c : Char) : Bool := c == '/' || c == '?' || c == '#'

/-- The parts of an authority. The user ends at the last at sign; a host that starts with a bracket goes
on to the last closing one, any other to the port. -/
def authorityOf (s : List Char) : Authority :=
  let named := afterLast '@' s
  let host :=
    if named.head? = some '[' && named.contains ']' then
      (named.reverse.dropWhile (· != ']')).reverse
    else named.takeWhile (· != ':')
  let port := named.drop host.length
  { user := s.take (s.length - named.length)
    host := host
    port := if port.head? = some ':' then port.drop 1 else port }

/-- The scheme before a colon, which may be empty, and what follows. -/
def schemeOf (s : List Char) : List Char × List Char :=
  let scheme := s.takeWhile (· != ':')
  match s.drop scheme.length with
  | ':' :: rest =>
    if scheme.all isSchemeChar && (scheme.head?.map Char.isAlpha).getD true then (scheme, rest)
    else ([], s)
  | _ => ([], s)

/-- The origin, path and query of an address. -/
def origin (url : List Char) : Origin :=
  let (scheme, s) := schemeOf (url.takeWhile (· != '#'))
  let (authority, s) := match s with
    | '/' :: '/' :: rest => rest.span fun c => !endsAuthority c
    | other => ([], other)
  { scheme := scheme
    authority := authorityOf authority
    path := s.takeWhile (· != '?')
    query := match s.dropWhile (· != '?') with
      | _ :: query => some query
      | [] => none }

/-- Whether an address names a scheme and a host. -/
def hasOrigin (url : List Char) : Bool :=
  let parts := origin url
  !parts.scheme.isEmpty && !parts.authority.host.isEmpty

/-- The characters that stand for themselves in a query. -/
def isQueryChar (c : Char) : Bool :=
  32 < c.toNat && c.toNat < 127 && !"\"#<>".toList.contains c

/-- The characters that stand for themselves in a path. -/
def isPathChar (c : Char) : Bool := isQueryChar c && !"?\x60\x7b\x7d".toList.contains c

/-- The path that is requested of an address without an origin: its path from the root. -/
def restPath (url : List Char) : List Char :=
  '/' :: Text.Percent.encode isPathChar ((origin url).path.dropWhile (· == '/'))

/-- The query that is requested of an address without an origin, with its mark. -/
def restQuery (url : List Char) : List Char :=
  match (origin url).query with
  | some query => '?' :: Text.Percent.encode isQueryChar query
  | none => []

/-- What is requested of an address without an origin: its path from the root, and its query. -/
def rest (url : List Char) : List Char := restPath url ++ restQuery url

/-- Refuses an address without an origin. -/
def checkOrigin (url : String) : Except AddressFault Unit :=
  if hasOrigin url.toList then .ok () else .error (.noOrigin (String.ofList (Text.quoted (rest url.toList))))

end Montage.Download.Address
