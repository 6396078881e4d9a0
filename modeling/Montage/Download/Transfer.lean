import Montage.Download.Destination
import Montage.Download.FileName
import Montage.Download.Size
import Montage.Settings
import Montage.Text.Digit
import Montage.Work.Basic

/-! # Transfers

A transfer stores what an address leads to in the directory for downloads. A file that is already
there under the name is used as it is. The body is first written under a temporary name, which is
given up however the transfer ends; only a complete body gets the name of the download.
-/

namespace Montage

/-- A stored download: its place, its name, its size, and whether it was there before. -/
structure Stored where
  path : Path
  name : String
  size : Nat
  reused : Bool := false
  deriving DecidableEq

namespace Download

/-- Where downloads go, how large they may be, and the wording of that limit. -/
structure Store where
  directory : Path
  limit : Int
  limitText : String

/-- The store that the settings ask for. -/
def Store.ofSettings (settings : Settings) : Store where
  directory := Path.ofText settings.downloadDir
  limit := settings.maxDownloadBytes
  limitText := s!"{settings.maxDownloadMegabytes} MB"

/-- The coded fault of a transfer that fails. -/
def fail {α : Type} (message : String) : Work α :=
  .failed (.service (.ofMessage .download message))

/-- The coded fault of a failure of the transport. -/
def failTransport {α : Type} (reason : String) : Work α := fail ("Download failed: " ++ reason)

/-- Tells the observers of the job about a transfer. -/
def tell (message : String) : Work Unit := Work.emit .download message none

/-- The greatest number of times that a request is sent on. -/
def redirectLimit : Nat := 20

/-- Receives pieces that are of no use. -/
def discard (failure : Option String) : List ByteArray → Work Unit
  | [] => do
    Work.receive
    match failure with
    | some reason => failTransport reason
    | none => return
  | _ :: rest => do
    Work.receive
    discard failure rest

/-- The fault of an unreadable address. -/
def AddressFault.toJob (fault : AddressFault) : JobFault := .plain .value fault.message

/-- The fault of an address that is no destination. -/
def DestinationFault.toJob (fault : DestinationFault) : JobFault := .plain .address fault.message

/-- The fault of a header that cannot be sent. -/
def HeaderFault.toJob (fault : HeaderFault) : JobFault := .plain .coding fault.message

/-- Checks the address that a response sends its client to. -/
def checkTarget (target : String) : Work Unit :=
  match Destination.check target.toList with
  | .error fault => failTransport s!"Invalid URL in location header: {fault.message}."
  | .ok () => Work.ofExcept DestinationFault.toJob (Destination.checkBorrowed target.toList)

/-- Requests an address and follows the redirections of the answers, `left` times at most. -/
def request (url : String) : Nat → List String → Work Response
  | 0, _ => failTransport "Exceeded maximum allowed redirects."
  | left + 1, redirects => do
    let exchange ← Work.request url redirects
    Work.ofExcept HeaderFault.toJob exchange.checkHeaders
    match exchange.received with
    | .error reason => failTransport reason
    | .ok response =>
      Work.ofExcept AddressFault.toJob (Address.checkOrigin url)
      match response.redirect? with
      | none => return response
      | some target =>
        checkTarget target
        discard response.failure response.body
        request url left (redirects ++ [target])

/-- The size that a response declares, if it is written in digits. -/
def declaredSize (response : Response) : Work (Option Nat) :=
  match response.header? "content-length" with
  | some text =>
    if Text.isDigitRun text.toList then
      (Work.ofExcept IntegerFault.toJob (readInteger text.toList)).bind fun n => .done (some n)
    else return none
  | none => return none

/-- Refuses a response that declares too large a size. -/
def checkDeclared (store : Store) (response : Response) : Work Unit := do
  match ← declaredSize response with
  | some size =>
    if store.limit < size then
      let text ← Work.ofExcept RangeFault.toJob (sizeText size)
      fail ("Media too large: " ++ text ++ " exceeds " ++ store.limitText)
    else return
  | none => return

/-- Writes the pieces of a body to an open file of `size` octets so far, up to the limit of the store,
and answers how many octets there are in the end. -/
def writeBody (store : Store) (number : Nat) (failure : Option String) (size : Nat) :
    List ByteArray → Work Nat
  | [] => do
    Work.receive
    match failure with
    | some reason => failTransport reason
    | none => return size
  | piece :: rest => do
    Work.receive
    let size := size + piece.size
    if store.limit < size then
      fail ("Media too large: exceeds " ++ store.limitText)
    else
      Work.extend number piece
      writeBody store number failure size rest

/-- The temporary name of a download; a path without a name has none. -/
def partialPath (path : Path) : Work Path :=
  if path.name = "" then .failed (.plain .value s!"PosixPath('{path.text}') has an empty name")
  else return path.withName (path.name ++ ".part")

/-- Stores the body of a response under its final name and answers its size. -/
def storeBody (store : Store) (path : Path) (response : Response) : Work Nat := do
  let temporary ← partialPath path
  Work.ensuring (Work.remove temporary) do
    let number ← Work.create temporary
    let size ← writeBody store number response.failure 0 response.body
    Work.rename temporary path
    return size

/-- Stores a response to a request for an address under a name. -/
def storeResponse (store : Store) (name : String) (response : Response) : Work Stored := do
  let path := store.directory / name
  if ← Work.isFile path then
    tell s!"File already exists, skipping download: {name}"
    let size ← Work.ofExcept FileFault.toJob ((← Work.files).size path)
    return { path := path, name := name, size := size, reused := true }
  else
    checkDeclared store response
    tell s!"Streaming media to: {name}"
    let size ← storeBody store path response
    tell s!"Successfully downloaded: {name}"
    return { path := path, name := name, size := size }

/-- Downloads an address. -/
def transfer (store : Store) (url : String) : Work Stored := do
  Work.makeDirectories store.directory
  tell s!"Starting download from URL: {url}"
  Work.ofExcept DestinationFault.toJob (Destination.checkFirst url.toList)
  let response ← request url (redirectLimit + 1) []
  if response.isSuccess then
    let name ← Work.ofExcept AddressFault.toJob
      (resolveName url (response.header? "content-type") (response.header? "content-disposition"))
    tell s!"Fetched media metadata: {name}"
    storeResponse store name response
  else fail (s!"Download failed with HTTP {response.status}: " ++ url)

end Download

end Montage
