import Montage.Composition
import Montage.Download.Transfer
import Montage.Encoding.Fallback
import Montage.Processing.Output
import Montage.Processing.Relay

/-! # Composing a scene

The scene is compiled first, so that a scene that cannot be compiled costs nothing. Then its main
medium is downloaded, and the engine encodes the composition with the first profile that works.
-/

namespace Montage

/-- The fault of a job that comes from a refused asset. -/
def AssetFault.toJob : AssetFault → JobFault
  | .invalidName kind name => .service (.invalidAssetName name kind)
  | .unreachable fault => fault.toJob
  | fault => .service (.ofMessage .missingAsset fault.message)

/-- The fault of a job that comes from a filter graph. -/
def Graph.Fault.toJob : Graph.Fault → JobFault
  | .selector fault => fault.toJob
  | fault => .service (.ofMessage .unsoundGraph fault.message)

/-- The fault of a job that comes from a scene that cannot be compiled. -/
def CompositionFault.toJob : CompositionFault → JobFault
  | .asset fault => fault.toJob
  | .range fault => fault.toJob
  | .graph fault => fault.toJob

/-- What is asked of a composing job. -/
structure ComposeJob where
  scene : Scene
  kind : MediaKind
  url : String

namespace Processing

/-- The extension of outputs of a kind of media. -/
def outputExtension : MediaKind → String
  | .image => ".jpg"
  | .video => ".mp4"

/-- The name of the output of a job. -/
def outputName (kind : MediaKind) (jobId : String) : String :=
  s!"{kind.name}_{jobId}" ++ outputExtension kind

/-- What the engine is called with for a kind of media: arguments after the graph, the profiles, and the
time limit if it is not the usual one. -/
def encodingPlan (settings : Settings) (kind : MediaKind) (quality : Binary64) :
    Except RangeFault (List String × List Encoding.Profile × Option Binary64) :=
  match kind with
  | .image => (Encoding.imageProfile quality).map fun profile =>
      ([], [profile], some settings.imageTimeout)
  | .video => .ok (Encoding.videoOutputArgs, Encoding.videoProfiles quality settings, none)

/-- Tells the observers of the job which profile is tried. -/
def tellAttempt (profile : Encoding.Profile) : Work Unit :=
  Work.emit .processing s!"Encoding with {profile.name}"
    (some (.obj [("profile", .str profile.name), ("hardware", .bool profile.hardware)]))

/-- The work of a composing job. -/
def compose (settings : Settings) (assets : Files → AssetResolver) (job : ComposeJob)
    (jobId : String) : Work Json := do
  let started ← Work.clock
  let files ← Work.files
  let compiled ← Work.ofExcept CompositionFault.toJob
    (Composition.compile (assets files) settings job.scene job.kind)
  Work.emit .processing "Filter graph compiled" (some (.obj [
    ("statements", .int compiled.program.statements.length),
    ("stickers", .int compiled.stickerPaths.length)]))
  let source ← Download.transfer (.ofSettings settings) job.url
  let directory := Path.ofText settings.outputDir
  Work.makeDirectories directory
  let output := directory / outputName job.kind jobId
  let (extra, profiles, timeout) ← Work.ofExcept RangeFault.toJob
    (encodingPlan settings job.kind (clamp job.scene.quality 1 100))
  let attempt : Encoding.Attempt Engine.ReportReader := {
    base := settings.enginePath :: (compiled.inputArgs source.path.text ++ compiled.graphArgs ++ extra)
    output := output.text
    timeout := timeout
    onAttempt := tellAttempt
    onLine := relay }
  match ← attempt.run {} profiles with
  | .error exhausted => .failed (.service exhausted.toService)
  | .ok encoded =>
    let stats ← inspect output started
    let report : Json := .obj (stats.fields ++ [("profile", .str encoded.profile.name)])
    Work.emit .processing s!"Output written: {output.name} ({stats.sizeText})" (some report)
    return report

end Processing

end Montage
