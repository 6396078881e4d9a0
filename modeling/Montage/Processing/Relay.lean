import Montage.Engine.Report
import Montage.Work.Basic

/-! # Relaying engine lines

While the engine runs for a job, every line that it prints and that has something to report becomes a
progress event of the job.
-/

namespace Montage

/-- The fault of a job that comes from an engine line. -/
def Engine.ReportFault.toJob : Engine.ReportFault → JobFault
  | .range fault => fault.toJob
  | .integer fault => fault.toJob

namespace Processing

/-- Tells the observers of the job what a line reports, if anything. -/
def tellReport (found : Except Engine.ReportFault (Option Engine.Report)) : Work Unit :=
  match found with
  | .error fault => .failed fault.toJob
  | .ok none => return
  | .ok (some report) => Work.emit .processing report.message (report.data.map Json.obj)

/-- Handles one line of the engine. Lines for results belong to blocks; each line of messages is
reported by itself, unless it is blank. -/
def relay (reader : Engine.ReportReader) (line : Engine.Line) : Work Engine.ReportReader :=
  match line.channel with
  | .stdout => do
    let (reader, found) := reader.feed line.text
    tellReport found
    return reader
  | .stderr =>
    if Text.isBlankText line.text then return reader
    else do
      tellReport ((Engine.Report.ofLine line.text.toList).map some)
      return reader

end Processing

end Montage
