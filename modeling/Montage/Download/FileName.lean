import Montage.Download.Address
import Montage.Download.Disposition
import Montage.MediaType
import Montage.Files.Path

/-! # Names of downloaded files

A download is stored under the name in its header, or under the last part of its address. The media
type adds its extension if the name does not end with it. Then characters that a file system may
refuse are replaced, leading points are dropped, and the name is cut.
-/

namespace Montage.Download

/-- The name of a download without a name. -/
def defaultName : String := "download"

/-- The greatest number of characters of a name. -/
def maxNameLength : Nat := 255

/-- Whether a character is refused in names. -/
def isRefused (c : Char) : Bool := c.toNat < 32 || "<>:\"/\\|?*".toList.contains c

/-- A name that can be stored. -/
def sanitize (name : List Char) : List Char :=
  let replaced := name.map fun c => if isRefused c then '_' else c
  Text.strip ((replaced.dropWhile (· == '.')).take maxNameLength)

/-- The last part of the path of an address, without its escapes. -/
def addressName (url : String) : Except AddressFault String := do
  let path ← Address.path url.toList
  let name := (Path.ofText (String.ofList (Text.Percent.decode path))).name
  return if name = "" then defaultName else name

/-- The name in a header that counts as given. -/
def headerName? (disposition : Option String) : Option String :=
  ((disposition.bind fun header => Disposition.name? header.toList).filter fun name => name ≠ []).map
    String.ofList

/-- The extension that a media type or else a name asks for, empty if there is none. -/
def extensionFor (contentType : Option String) (name : String) : String :=
  match contentType.bind fun header => MediaType.extension? (MediaType.ofHeader header) with
  | some extension => extension
  | none => FileName.extension (Path.ofText name).name

/-- A stored name after a name and the extension it has to end with. -/
def storedName (name extension : String) : String :=
  let full := if extension.toList.isSuffixOf name.toList then name else name ++ extension
  let clean := String.ofList (sanitize full.toList)
  if clean = "" ∨ clean = extension then defaultName ++ extension else clean

/-- The name under which a response to a request is stored. -/
def resolveName (url : String) (contentType disposition : Option String) :
    Except AddressFault String := do
  let name ← match headerName? disposition with
    | some name => pure name
    | none => addressName url
  return storedName name (extensionFor contentType name)

end Montage.Download
