import Montage.Http.Request

/-! # Requests from other origins

Before a page of another origin sends a request, the question is asked whether it may.
-/

namespace Montage.Http.CrossOrigin

/-- The methods that pages of other origins may use. -/
def methods : List String := ["DELETE", "GET", "HEAD", "OPTIONS", "PATCH", "POST", "PUT"]

/-- Whether a list of origins allows an origin; a star allows every one. -/
def allows (origins : Json) (origin : String) : Bool :=
  match origins with
  | .arr items => items.any fun
    | .str item => item == "*" || item == origin
    | _ => false
  | _ => false

/-- The answer to the question whether a request may be sent, if that is asked. -/
def answer? (origins : Json) (request : Request) : Option Response :=
  if request.method = "OPTIONS" then do
    let origin ← request.header? "origin"
    let method ← request.header? "access-control-request-method"
    let refused := (if allows origins origin then [] else ["origin"]) ++
      (if methods.contains method then [] else ["method"])
    if refused = [] then return .plain 200 "OK"
    else return .plain 400 ("Disallowed CORS " ++ ", ".intercalate refused)
  else none

end Montage.Http.CrossOrigin
