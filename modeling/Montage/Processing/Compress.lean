import Montage.Download.Transfer
import Montage.Encoding.Compression
import Montage.Processing.Output
import Montage.Processing.Relay

/-! # Compressing a medium

The medium is downloaded and compressed under a name of its own. A compressed file that is already
there under that name is taken as the result.
-/

namespace Montage

/-- What is asked of a job that compresses a video. -/
structure CompressVideoJob where
  url : String
  bitrate : Binary64 := Encoding.defaultBitrate

/-- What is asked of a job that compresses a picture. -/
structure CompressImageJob where
  url : String
  quality : Int := 80
  maxWidth : Option Int := none
  maxHeight : Option Int := none

namespace Processing

/-- The directory of compressed files. -/
def compressedDirectory (settings : Settings) : Path := Path.ofText settings.outputDir / "compressed"

/-- The path of the compressed form of a file. -/
def compressedPath (settings : Settings) (name : String) : Path :=
  compressedDirectory settings / s!"compressed_{(Path.ofText name).name}"

/-- A double with two places after the point. -/
def percentText (x : Binary64) : String :=
  match x.toRat? with
  | some r => (if x.isNegative then "-" else "") ++ fixedText (if r < 0 then -r else r) 2 .toEven
  | none => x.text

/-- The fault of an engine call that leaves no output. -/
def missingOutput : JobFault := .service Engine.Fault.noOutput.toService

/-- Runs the engine for a compression. Its output has to be there afterwards. -/
def runCompression (args : List String) (output : Path) (timeout : Option Binary64) : Work Unit := do
  Work.emit .processing "Starting compression" none
  let (outcome, _) ← Work.runEngine args timeout relay {}
  match outcome with
  | .failed fault => .failed (.service fault.toService)
  | .crashed fault => .failed fault
  | .finished _ => if ← Work.isFile output then return else .failed missingOutput

/-- Compresses a stored medium by a call of the engine, and reports what was saved. -/
def compress (args : List String) (source output : Path) (started : Binary64)
    (timeout : Option Binary64) : Work Json := do
  if ← Work.isFile output then
    Work.emit .processing s!"Compressed file already exists: {output.name}" none
  else runCompression args output timeout
  let files ← Work.files
  let initial ← Work.ofExcept FileFault.toJob (files.size source)
  let stats ← inspect output started
  let saved ← Work.ofExcept RangeFault.toJob (Download.reduction initial stats.size)
  let initialText ← Work.ofExcept RangeFault.toJob (Download.sizeText initial)
  let report : Json := .obj (stats.fields ++
    [("originalSize", .int initial), ("reductionPercent", .num saved)])
  Work.emit .processing
    (s!"Compression complete! Reduced from {initialText} to {stats.sizeText} (" ++
      percentText saved ++ "% reduction)")
    (some report)
  return report

/-- The work of a job that compresses a video. -/
def compressVideo (settings : Settings) (job : CompressVideoJob) : Work Json := do
  let started ← Work.clock
  let source ← Download.transfer (.ofSettings settings) job.url
  Work.makeDirectories (compressedDirectory settings)
  let output := compressedPath settings source.name
  let args := Encoding.compressVideoArgs settings.enginePath source.path.text output.text job.bitrate
  compress args source.path output started none

/-- The work of a job that compresses a picture. -/
def compressImage (settings : Settings) (job : CompressImageJob) : Work Json := do
  let started ← Work.clock
  let source ← Download.transfer (.ofSettings settings) job.url
  Work.makeDirectories (compressedDirectory settings)
  let output := compressedPath settings source.name
  let args ← Work.ofExcept RangeFault.toJob
    (Encoding.compressImageArgs settings.enginePath source.path.text output.text
      (Binary64.ofInt job.quality) job.maxWidth job.maxHeight)
  compress args source.path output started (some settings.imageTimeout)

end Processing

end Montage
