import Montage.Assets
import Montage.Form.Composition
import Montage.Form.Compress
import Montage.Http.CrossOrigin
import Montage.Http.Delivery
import Montage.Http.Route
import Montage.Http.Serving
import Montage.Processing.Order

/-! # The server

The server answers requests by steps of its job service and by looks at its files. A request for the
progress of a job is answered with a subscription, which is then served.
-/

namespace Montage.Http

/-- What comes of probing the engine. -/
inductive Probe where
  | available
  | missing
  | crashed
  deriving DecidableEq, Repr

/-- A server, with the origins whose pages may send requests to it. -/
structure Server where
  settings : Settings
  origins : Json
  probe : Probe := .available
  workshop : Workshop

/-- The answer to a request: a whole response, or a subscription to the progress of a job. -/
inductive Reply where
  | whole (response : Response)
  | progress (jobId : String) (subscription : Subscription)

/-- The parts of a path without the empty ones and those that stand for no step. A path from the root
cannot lead above it; what leads above the start of another path stays at its start. -/
def plainParts (root : String) (parts : List String) : List String :=
  parts.foldl (fun kept part =>
    if part = "" ∨ part = "." then kept
    else if part ≠ ".." then kept ++ [part]
    else if kept.all (· == "..") then (if root = "" then kept ++ [part] else kept)
    else kept.dropLast) []

namespace Server

/-- The server at its start, with the directories that it writes to. -/
def start (settings : Settings) (probe : Probe) (world : World) : Except JobFault Server := do
  let origins ← settings.origins.mapError OriginFault.toJob
  let make (files : Files) (directory : String) : Except JobFault Files :=
    (files.makeDirectories (Path.ofText directory)).mapError FileFault.toJob
  let files ← make (← make world.files settings.outputDir) settings.downloadDir
  return {
    settings := settings
    origins := origins
    probe := probe
    workshop := { service := .ofSettings settings, world := { world with files := files } } }

/-- Takes an order whose form can be read. -/
def order {α : Type} (server : Server) (request : Request) (read : FormReader α)
    (order : α → Order) (message : α → String) : Server × Response :=
  match request.form read with
  | .error fault => (server, fault.response)
  | .ok form =>
    let (workshop, jobId) := server.workshop.order server.settings (order form)
    ({ server with workshop := workshop },
      .met (message form ++ ". Track it with the job id provided as data") (.str jobId))

/-- The ids in a text between commas, without blanks around them and without empty ones. -/
def jobIds (text : String) : List String :=
  ((Path.splitAt ',' text.toList).map Text.strip).filterMap fun id =>
    if id = [] then none else some (String.ofList id)

/-- Answers for the states of jobs. -/
def jobStatus (server : Server) (target : Target) : Server × Response :=
  match jobIds ((target.value? "ids").getD "") with
  | [] => (server, .badRequest "No job IDs provided. Use ?ids=your-job-id or ?ids=id1,id2,id3")
  | ids =>
    let (workshop, states) := server.workshop.query ids
    ({ server with workshop := workshop },
      .met "Fetched status for provided job ids"
        (.obj (states.map fun (id, state) => (id, .str state.name))))

/-- The library of assets. -/
def library (server : Server) : AssetLibrary :=
  .ofSettings server.settings server.workshop.world.files

/-- Lists the stickers. -/
def stickers (server : Server) : Response :=
  match server.library.stickers with
  | .error _ => .broken
  | .ok names => .met s!"Found {names.length} stickers" (.arr (names.map .str))

/-- Lists the fonts. -/
def fonts (server : Server) : Response :=
  match server.library.fonts with
  | .error _ => .broken
  | .ok fonts =>
    .met s!"Found {fonts.length} fonts"
      (.arr (fonts.map fun font =>
        .obj [("family", .str font.family), ("weight", .str font.weight)]))

/-- Answers whether the engine can be run. -/
def health (server : Server) : Response :=
  let answer (status : String) (found : Bool) : Response :=
    { body := .value (.obj [("status", .str status), ("version", .str server.settings.appVersion),
        ("ffmpeg", .bool found)]) }
  match server.probe with
  | .available => answer "healthy" true
  | .missing => answer "degraded" false
  | .crashed => .broken

/-- A file of the output directory. What leads out of it is not found. -/
def output (server : Server) (request : Request) (segments : List String) : Response :=
  let directory := Path.ofText server.settings.outputDir
  let inside := plainParts directory.root directory.parts
  let parts := plainParts directory.root (directory.parts ++ segments)
  let path : Path := { directory with parts := parts }
  match server.workshop.world.files.content? path with
  | some content =>
    if inside.isPrefixOf parts then Delivery.response request path.name content else .notFound
  | none => .notFound

/-- Subscribes to the progress of a job. -/
def subscribe (server : Server) (jobId : String) : Server × Reply :=
  match server.workshop.subscribe jobId with
  | .error fault => (server, .whole (.ofFault fault))
  | .ok (workshop, subscription) =>
    ({ server with workshop := workshop }, .progress jobId subscription)

/-- Answers a request on a route. -/
def meet (server : Server) (request : Request) (route : Route) : Server × Reply :=
  let whole (answer : Server × Response) : Server × Reply := (answer.1, .whole answer.2)
  match route with
  | .compose =>
    whole (server.order request Form.composition (fun form => .compose form.job)
      fun form => s!"Submitted {form.kind.name} composition")
  | .compressVideo =>
    whole (server.order request Form.videoCompression (fun form => .compressVideo form.job)
      fun _ => "Submitted task for compressing video")
  | .compressImage =>
    whole (server.order request Form.imageCompression .compressImage
      fun _ => "Submitted task for compressing image")
  | .jobStatus => whole (server.jobStatus request.target)
  | .progress jobId => server.subscribe jobId
  | .stickers => (server, .whole server.stickers)
  | .fonts => (server, .whole server.fonts)
  | .output segments => (server, .whole (server.output request segments))
  | .health => (server, .whole server.health)

/-- A response as its method lets it be seen. -/
def shown (method : String) (response : Response) : Response :=
  if method = "HEAD" then { response with body := .content .empty } else response

/-- Answers a request that has a route, or would have one by the other form of its path, to which it
then is sent on. -/
def answerRouted (server : Server) (request : Request) : Server × Reply :=
  let path := request.target.path.toList
  match Route.ofPath? path with
  | none => (server, .whole (if Route.hasOtherForm path then .bare 307 else .notFound))
  | some route =>
    if route.allows request.method then server.meet request route else (server, .whole .notAllowed)

/-- Answers a request. -/
def answer (server : Server) (request : Request) : Server × Reply :=
  let met : Server × Reply := match CrossOrigin.answer? server.origins request with
    | some response => (server, .whole response)
    | none => server.answerRouted request
  match met with
  | (server, .whole response) => (server, .whole (shown request.method response))
  | reply => reply

/-- Serves a subscription to an observer who stays until its queue is empty. -/
def serve (server : Server) (jobId : String) (subscription : Subscription) : Server × Response :=
  let service := server.workshop.service
  let waiting := (service.registry.records[subscription.number]?).map fun job =>
    (job.stream.queue subscription.index).length
  let session : Session := {
    service := service
    serving := {
      jobId := jobId
      subscription := subscription
      interval := server.settings.heartbeatInterval }
    readings := [server.workshop.world.now.seconds]
    timestamp := server.workshop.world.now.stamp }
  let session := session.serve (waiting.getD 0)
  ({ server with workshop := { server.workshop with service := session.service } },
    { mediaType := "text/event-stream", body := .messages session.serving.messages })

end Server

end Montage.Http
