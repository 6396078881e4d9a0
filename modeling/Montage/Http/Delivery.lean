import Montage.Http.Date
import Montage.Http.Range
import Montage.Http.Request
import Montage.MediaType

/-! # Delivery of files

A file is sent whole, or in the ranges that are asked for, or not at all if it has not changed since a
date.
-/

namespace Montage.Http.Delivery

/-- The media type of a file that is served. -/
def mediaType (name : String) : String :=
  (MediaType.ofFileName? name).getD "application/octet-stream"

/-- When files count as last changed, since they keep no time of their own: a year, a month, a day and
a time of day. -/
def lastChange : List Int := [2026, 1, 1, 0, 0, 0]

/-- Whether a request is met by what its sender has already. A tag that the sender has is never that of
the file, and with one the date does not count. -/
def isKnown (request : Request) : Bool :=
  match (request.header? "if-none-match").getD "", request.header? "if-modified-since" with
  | "", some header =>
    match Date.read? header with
    | some date => Date.isNoLater lastChange date
    | none => false
  | _, _ => false

/-- The text between the ranges of a file that are sent together. -/
def boundary : String := "montage-range"

/-- The ranges of a file one after another, each with its type and place. -/
def together (mediaType : String) (content : ByteArray) (spans : List Span) : ByteArray :=
  let parts := spans.map fun span =>
    s!"--{boundary}\nContent-Type: {mediaType}\n".toUTF8 ++
      s!"Content-Range: bytes {span.first}-{span.stop - 1}/{content.size}\n\n".toUTF8 ++
      span.cut content ++ "\n".toUTF8
  parts.foldr (· ++ ·) s!"--{boundary}--".toUTF8

/-- The response with a file, or with the ranges of it that are asked for. Ranges that are only meant
for a file with a tag are passed over. -/
def response (request : Request) (name : String) (content : ByteArray) : Response :=
  let whole : Response := { mediaType := mediaType name, body := .content content }
  if isKnown request then .bare 304
  else
    match request.header? "range", request.header? "if-range" with
    | some header, none =>
      match Span.ofHeader content.size header with
      | .error fault => .plain fault.status fault.message
      | .ok [span] => { whole with status := 206, body := .content (span.cut content) }
      | .ok spans =>
        { status := 206, mediaType := "multipart/byteranges"
          body := .content (together whole.mediaType content spans) }
    | _, _ => whole

end Montage.Http.Delivery
