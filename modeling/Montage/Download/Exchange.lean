import Montage.Download.Coding
import Montage.Download.Header
import Montage.Files.Path
import Montage.Text.Blank

/-! # Exchanges

What comes back for a request: a response, or a failure of the transport before there is one.
-/

namespace Montage

/-- A response. Its body comes in chunks, and the transport may fail after the last of them; a body may
also come whole with the response. -/
structure Response where
  status : Nat := 200
  headers : List (String × String) := []
  body : List ByteArray := []
  failure : Option String := none
  whole : Bool := false

/-- A response, or the failure of the transport. -/
inductive Exchange where
  | response (response : Response)
  | failed (message : String)

namespace Response

/-- The value of a header, whose name may be in any case; several values are put together. -/
def header? (response : Response) (name : String) : Option String :=
  match response.headers.filter fun (key, _) => key.toLower == name with
  | [] => none
  | found => some (", ".intercalate (found.map Prod.snd))

/-- The first fault of the names and values of the headers. -/
def headerFault? (response : Response) : Option HeaderFault :=
  let texts := response.headers.flatMap fun (name, value) => [name, value]
  texts.findSome? fun text => Montage.headerFault? text.toList

/-- Whether the request succeeded. -/
def isSuccess (response : Response) : Bool := 200 ≤ response.status && response.status ≤ 299

/-- Where a response sends its client instead. -/
def redirect? (response : Response) : Option String :=
  if [301, 302, 303, 307, 308].contains response.status then response.header? "location" else none

/-- The codings of the body that can be undone, in the order in which they were applied. -/
def codings (response : Response) : List Coding :=
  let names := Path.splitAt ',' ((response.header? "content-encoding").getD "").toList
  names.filterMap fun name => Coding.ofName? (String.ofList ((Text.strip name).map Char.toLower))

/-- The response with its body unpacked. -/
def unpacked (response : Response) : Response :=
  match response.codings.getLast? with
  | none => response
  | some coding =>
    let start := ((response.body.headD ByteArray.empty).toList.take 5).map UInt8.toNat
    { response with
      body := []
      failure := ((coding.fault? start).map Coding.faultText).or response.failure }

end Response

/-- Refuses a response whose headers cannot be sent. -/
def Exchange.checkHeaders : Exchange → Except HeaderFault Unit
  | .failed _ => .ok ()
  | .response found =>
    match found.headerFault? with
    | some fault => .error fault
    | none => .ok ()

/-- The response as its client gets it. What fails in a body that comes whole is a failure of the
transport before there is a response. -/
def Exchange.received : Exchange → Except String Response
  | .failed reason => .error reason
  | .response packed =>
    let found := packed.unpacked
    match found.whole, found.failure with
    | true, some reason => .error reason
    | _, _ => .ok found

end Montage
