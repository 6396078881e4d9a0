import Montage.Download.Size
import Montage.Settings
import Montage.Work.Basic

/-! # Outputs

What a job reports of the file that it leaves: its place, its size, and how long the job took.
-/

namespace Montage.Processing

/-- The milliseconds between two readings of the clock, without the fraction. -/
def elapsedMilliseconds (started now : Binary64) : Except RangeFault Int :=
  ((now - started) * 1000).truncate

/-- What is reported of an output. -/
structure OutputStats where
  path : Path
  size : Nat
  sizeText : String
  milliseconds : Int

/-- The fields of a report on an output. -/
def OutputStats.fields (stats : OutputStats) : List (String × Json) :=
  [("outputPath", .str stats.path.text), ("size", .int stats.size),
    ("sizeHuman", .str stats.sizeText), ("durationMs", .int stats.milliseconds)]

/-- Looks at an output of a job that started at a reading of the clock. -/
def inspect (path : Path) (started : Binary64) : Work OutputStats := do
  let files ← Work.files
  let size ← Work.ofExcept FileFault.toJob (files.size path)
  let sizeText ← Work.ofExcept RangeFault.toJob (Download.sizeText size)
  let now ← Work.clock
  let milliseconds ← Work.ofExcept RangeFault.toJob (elapsedMilliseconds started now)
  return { path := path, size := size, sizeText := sizeText, milliseconds := milliseconds }

end Montage.Processing
