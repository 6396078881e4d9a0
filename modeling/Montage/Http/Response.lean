import Montage.Fault
import Montage.Form.Basic

/-! # Responses

Answers of the interface come in an envelope that says whether the request was met, with a message and
either data or a report on what is wrong. Paths that are not served get a bare detail.
-/

namespace Montage.Http

/-- What a response carries. -/
inductive Body where
  | value (value : Json)
  | messages (items : List Json)
  | content (octets : ByteArray)

/-- A response. -/
structure Response where
  status : Nat := 200
  mediaType : String := "application/json"
  body : Body

namespace Response

/-- The value of a report on a fault. -/
def reportValue (report : FaultReport) : Json :=
  .obj [("code", .str report.code), ("message", .str report.message),
    ("retryable", .bool report.retryable),
    ("suggested_fix", Json.ofOptionString report.suggestedFix)]

/-- An envelope. -/
def envelope (success : Bool) (message : String) (data error : Json) : Json :=
  .obj [("success", .bool success), ("message", .str message), ("data", data), ("error", error)]

/-- The response to a request that is met. -/
def met (message : String) (data : Json) : Response :=
  { body := .value (envelope true message data .null) }

/-- The response to a request that is not met. -/
def refused (status : Nat) (report : FaultReport) : Response :=
  { status := status, body := .value (envelope false report.message .null (reportValue report)) }

/-- The response that goes with a fault of the service. -/
def ofFault (fault : ServiceFault) : Response := refused fault.status fault.report

/-- The response to a request that makes no sense. -/
def badRequest (message : String) : Response := refused 400 (.ofCode "BAD_REQUEST" message)

/-- The response to a request that the service broke on. -/
def broken : Response := refused 500 (.ofCode "INTERNAL_ERROR" "Internal server error")

/-- A response with nothing but a detail. -/
def detail (status : Nat) (text : String) : Response :=
  { status := status, body := .value (.obj [("detail", .str text)]) }

/-- A response with nothing but a text. -/
def plain (status : Nat) (text : String) : Response :=
  { status := status, mediaType := "text/plain", body := .content text.toUTF8 }

/-- A response with nothing but its status. -/
def bare (status : Nat) : Response :=
  { status := status, mediaType := "", body := .content .empty }

/-- The response to a request for what is not served. -/
def notFound : Response := detail 404 "Not Found"

/-- The response to a request of a method that is not served. -/
def notAllowed : Response := detail 405 "Method Not Allowed"

end Response

end Montage.Http
