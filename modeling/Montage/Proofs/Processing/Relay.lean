import Montage.Processing.Relay
import Montage.Proofs.Engine.Report
import Montage.Proofs.Work.Transcript

/-! # What the lines of the engine report

The lines of one call of the engine are read in order, each by the reader that the lines before it left
behind. What a reader keeps of a block that is still open goes into the report that closes it. So two
readers report the same, whatever they are given to read, exactly if they keep the same keys; the keys of
single streams do not count, for they are left out of reports.
-/

namespace Montage.Processing

open Montage.Engine

/-- The reader after a line, and what the line reports. -/
def readLine (reader : ReportReader) (line : Line) :
    ReportReader × Except ReportFault (Option Report) :=
  match line.channel with
  | .stdout => reader.feed line.text
  | .stderr =>
    if Text.isBlankText line.text then (reader, .ok none)
    else (reader, (Report.ofLine line.text.toList).map some)

/-- The reader after lines. -/
def readerAfter (reader : ReportReader) (lines : List Line) : ReportReader :=
  lines.foldl (fun reader line => (readLine reader line).1) reader

theorem readerAfter_cons (reader : ReportReader) (line : Line) (rest : List Line) :
    readerAfter reader (line :: rest) = readerAfter (readLine reader line).1 rest := rfl

theorem readerAfter_append (reader : ReportReader) (first second : List Line) :
    readerAfter reader (first ++ second) = readerAfter (readerAfter reader first) second :=
  List.foldl_append

/-- What is told of a report. -/
def tellingOf (report : Report) : Telling :=
  ⟨.processing, report.message, report.data.map Json.obj⟩

/-- What is told of lines, up to a line that cannot be reported. -/
def reports (reader : ReportReader) : List Line → List Telling
  | [] => []
  | line :: rest =>
    match (readLine reader line).2 with
    | .error _ => []
    | .ok none => reports (readLine reader line).1 rest
    | .ok (some report) => tellingOf report :: reports (readLine reader line).1 rest

theorem relay_eq (reader : ReportReader) (line : Line) :
    relay reader line = (tellReport (readLine reader line).2).bind fun _ =>
      .done (readLine reader line).1 := by
  unfold relay readLine
  cases line.channel with
  | stdout => rfl
  | stderr =>
    by_cases blank : Text.isBlankText line.text
    · simp only [blank, ↓reduceIte]
      rfl
    · simp only [blank]
      rfl

/-- Relayed lines tell what they report. Then the work goes on with the reader that they leave behind,
unless one of them could not be reported. -/
theorem does_relay {α : Type} {reader : ReportReader} {lines : List Line}
    {next : ReportReader → Work α} {deeds : List Deed} {rest : Work α}
    (does : ((lines.foldlM relay reader).bind next).Does deeds rest)
    (resting : rest.isTelling = false) :
    ∃ others, deeds = tellings (reports reader lines) ++ others ∧
      (others = [] ∨ (next (readerAfter reader lines)).Does others rest) := by
  induction lines generalizing reader deeds with
  | nil => exact ⟨deeds, rfl, .inr does⟩
  | cons line lines ih =>
    have goesOn : ((line :: lines).foldlM relay reader).bind next =
        (tellReport (readLine reader line).2).bind fun _ =>
          (lines.foldlM relay (readLine reader line).1).bind next := by
      rw [List.foldlM_cons, relay_eq]
      exact (Work.bind_assoc _ _ next).trans (Work.bind_assoc _ _ _)
    rw [goesOn] at does
    rw [readerAfter_cons, reports]
    cases found : (readLine reader line).2 with
    | error fault =>
      -- The work fails at a line that cannot be reported, before it does anything else.
      rw [found] at does
      cases does with
      | nothing => exact ⟨[], rfl, .inl rfl⟩
    | ok report =>
      rw [found] at does
      cases report with
      | none => exact ih does
      | some report =>
        cases does with
        | nothing => contradiction
        | step does =>
          obtain ⟨others, split, left⟩ := ih does
          exact ⟨others, by rw [split]; rfl, left⟩

theorem readLine_stdout (reader : ReportReader) (text : String) :
    readLine reader ⟨.stdout, text⟩ = reader.feed text := rfl

/-- Lines of messages leave the reader alone, and it makes no difference to them. -/
theorem readLine_stderr (reader : ReportReader) (text : String) :
    readLine reader ⟨.stderr, text⟩ = (reader, if Text.isBlankText text then .ok none
      else (Report.ofLine text.toList).map some) := by
  simp only [readLine]
  split <;> rfl

theorem readLine_congr {first second : ReportReader}
    (same : shown first.block = shown second.block) (line : Line) :
    (readLine first line).2 = (readLine second line).2 ∧
      shown (readLine first line).1.block = shown (readLine second line).1.block := by
  obtain ⟨channel, text⟩ := line
  cases channel with
  | stdout => exact ReportReader.feed_congr same text
  | stderr =>
    rw [readLine_stderr, readLine_stderr]
    exact ⟨rfl, same⟩

/-- Two readers that show the same report the same. -/
theorem reports_congr {first second : ReportReader}
    (same : shown first.block = shown second.block) (lines : List Line) :
    reports first lines = reports second lines := by
  induction lines generalizing first second with
  | nil => rfl
  | cons line rest ih =>
    obtain ⟨found, after⟩ := readLine_congr same line
    rw [reports, reports, found, ih after]

theorem readerAfter_open {reader : ReportReader}
    (opened : ∀ entry ∈ reader.block, entry.1 ≠ "progress") (lines : List Line) :
    ∀ entry ∈ (readerAfter reader lines).block, entry.1 ≠ "progress" := by
  induction lines generalizing reader with
  | nil => exact opened
  | cons line rest ih =>
    obtain ⟨channel, text⟩ := line
    rw [readerAfter_cons]
    cases channel with
    | stdout => exact ih (ReportReader.feed_open opened text)
    | stderr =>
      rw [readLine_stderr]
      exact ih opened

/-- The line that closes a block of which another one follows. -/
def closing : Line := ⟨.stdout, "progress=continue"⟩

theorem readLine_closing (reader : ReportReader) : readLine reader closing =
    ({}, (Report.ofBlock (Entries.set reader.block "progress" "continue")).map some) := by
  have line : Text.strip "progress=continue".toList = "progress=continue".toList := by decide
  have entry : ReportReader.blockLine? "progress=continue".toList =
      some ("progress", "continue") := by decide
  rw [closing, readLine_stdout, ReportReader.feed_eq, line, if_neg (by decide), entry]
  rfl

/-- A reader that reports the closing line as a new one does shows nothing of the lines before. -/
theorem shown_of_reports {reader : ReportReader}
    (opened : ∀ entry ∈ reader.block, entry.1 ≠ "progress")
    (same : reports reader [closing] = reports {} [closing]) : shown reader.block = [] := by
  have fresh : Report.ofBlock (Entries.set [] "progress" "continue") =
      .ok ⟨"Processing...", some [("progress", .str "continue")]⟩ := by rfl
  simp only [reports, readLine_closing, fresh, Except.map] at same
  cases found : Report.ofBlock (Entries.set reader.block "progress" "continue") with
  | error fault => simp [found] at same
  | ok report =>
    rw [found] at same
    simp only [Report.ofBlock, bind_eq_ok, pure_eq_ok] at found
    obtain ⟨data, read, rfl⟩ := found
    simp only [tellingOf, Option.map_some, List.cons.injEq, Telling.mk.injEq, Option.some.injEq,
      Json.obj.injEq, and_true, true_and] at same
    -- The report has an entry for each that is shown. It has one, which is that of the closing line.
    have plain : Report.isStreamKey "progress" = false := by decide
    have entries := length_blockData read
    rw [same.2, shown_set, plain, if_neg Bool.false_ne_true, Entries.set_of_absent] at entries
    · exact List.length_eq_zero_iff.mp (by simpa using entries)
    · exact fun entry member => opened entry (List.mem_filter.mp member).1

/-- The lines before make no difference to what is reported exactly if they left nothing over but keys of
single streams. -/
theorem reports_eq_fresh_iff (before : List Line) :
    (∀ lines, reports (readerAfter {} before) lines = reports {} lines) ↔
      ∀ entry ∈ (readerAfter {} before).block, Report.isStreamKey entry.1 = true := by
  have nothing : (∀ entry ∈ (readerAfter {} before).block, Report.isStreamKey entry.1 = true) ↔
      shown (readerAfter {} before).block = [] := by
    simp [shown, List.filter_eq_nil_iff]
  rw [nothing]
  constructor
  · exact fun same => shown_of_reports (readerAfter_open (List.forall_mem_nil _) before) (same _)
  · exact fun none lines => reports_congr none lines

end Montage.Processing
