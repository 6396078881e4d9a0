import Montage.Files.Path

/-! # Routes

The paths that are served, and what each of them stands for. A path that is served only with a slash at
its end, or only without, is known by that.
-/

namespace Montage.Http

/-- What a path stands for. -/
inductive Route where
  | compose
  | compressVideo
  | compressImage
  | jobStatus
  | progress (jobId : String)
  | stickers
  | fonts
  | output (segments : List String)
  | health
  deriving DecidableEq, Repr

namespace Route

/-- The route of the segments of a path, the first of which is empty. -/
def ofSegments? : List String → Option Route
  | ["", "api", "media", "compose"] => some .compose
  | ["", "api", "media", "compress-video"] => some .compressVideo
  | ["", "api", "media", "compress-image"] => some .compressImage
  | ["", "api", "job", "status"] => some .jobStatus
  | ["", "api", "job", jobId, "progress"] => if jobId = "" then none else some (.progress jobId)
  | ["", "api", "assets", "stickers"] => some .stickers
  | ["", "api", "assets", "fonts"] => some .fonts
  | "" :: "outputs" :: segment :: rest => some (.output (segment :: rest))
  | ["", "health"] => some .health
  | _ => none

/-- The parts of a path between its slashes. -/
def segments (path : List Char) : List String := (Path.splitAt '/' path).map String.ofList

/-- The route of a path. A line break at its end is passed over, but an output with one is looked for
by the whole path; no output has a line break elsewhere. -/
def ofPath? (path : List Char) : Option Route :=
  let whole := if path.getLast? = some '\n' then path.dropLast else path
  match ofSegments? (segments whole) with
  | some (.output parts) =>
    if whole.contains '\n' then none
    else some (.output (if whole = path then parts else segments path))
  | found => found

/-- A path without the slashes at its end if it has any, else with one. -/
def otherForm (path : List Char) : List Char :=
  if path.getLast? = some '/' then (path.reverse.dropWhile (· == '/')).reverse else path ++ ['/']

/-- Whether the other form of a path has a route; the root has no other form. -/
def hasOtherForm (path : List Char) : Bool :=
  path != ['/'] && (ofPath? (otherForm path)).isSome

/-- Whether a route takes requests of a method. -/
def allows (route : Route) (method : String) : Bool :=
  match route with
  | .compose | .compressVideo | .compressImage => method == "POST"
  | .output _ => method == "GET" || method == "HEAD"
  | _ => method == "GET"

end Route

end Montage.Http
