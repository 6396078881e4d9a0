import Montage.Form.Basic
import Montage.Http.BodyText
import Montage.Http.Response
import Montage.Http.Target
import Montage.Json.Reader
import Montage.MediaType

/-! # Requests

A request that carries a form has it as the text of a structured value, and says so in its content
type. A body in any other type is no form, and a body without any text is none at all.
-/

namespace Montage.Http

/-- A request. -/
structure Request where
  method : String
  target : Target
  headers : List (String × String) := []
  body : String := ""

/-- Why the form of a request is refused. -/
inductive RequestFault where
  | bodyMissing
  | malformed (offset : Nat)
  | unreadable
  | form (fault : FormFault)
  deriving DecidableEq, Repr

namespace RequestFault

/-- The wording of a refused form. The place of a fault starts with the body. -/
def message : RequestFault → String
  | .bodyMissing => ({ place := ["body"], problem := .missing } : FormFault).message .attributes
  | .malformed offset => s!"body -> {offset}: JSON decode error"
  | .unreadable => "There was an error parsing the body"
  | .form fault => (fault.under "body").message .attributes

/-- The response to a refused form. -/
def response (fault : RequestFault) : Response :=
  match fault with
  | .unreadable => .detail 400 fault.message
  | _ => .ofFault (.ofMessage .validation fault.message)

end RequestFault

namespace Request

/-- The value of a header, whose name may be in any case; of several values the first. -/
def header? (request : Request) (name : String) : Option String :=
  (request.headers.find? fun (key, _) => key.toLower == name).map Prod.snd

/-- Whether a content type is that of structured values. -/
def isStructured (contentType : Option String) : Bool :=
  match contentType with
  | none => false
  | some header =>
    let name := (MediaType.ofHeader header).map Char.toLower
    match Path.splitAt '/' name with
    | [kind, form] =>
      kind == "application".toList && (form == "json".toList || "+json".toList.isSuffixOf form)
    | _ => false

/-- The deepest nesting of a value in a body. -/
def valueDepth : Nat := 950

/-- The value that a request carries; what is no structured value counts as text. -/
def value (request : Request) : Except RequestFault Json :=
  if request.body = "" then .error .bodyMissing
  else if isStructured (request.header? "content-type") then
    match BodyEncoding.decode? request.body.toUTF8.toList with
    | none => .error .unreadable
    | some text =>
      match Json.read valueDepth text with
      | .ok value => .ok value
      | .error (.malformed rest) => .error (.malformed (Json.Fault.offset text (.malformed rest)))
      | .error _ => .error .unreadable
  else .ok (.str request.body)

/-- The form that a request carries. -/
def form {α : Type} (request : Request) (read : FormReader α) : Except RequestFault α := do
  (read (← request.value)).mapError .form

end Request

end Montage.Http
