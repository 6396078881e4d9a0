import Montage.Processing.Compress
import Montage.Proofs.Files.Path
import Montage.Proofs.Processing.Attempts
import Montage.Proofs.Work.Crew

/-! # What a compression reports

A compression takes a file that it finds under its name as the result, and it looks there again after its
own call of the engine. The name belongs to the source, so other jobs use it too, and a call that fails
leaves there what it has written by then. What is reported is the work of a call that has succeeded if
every call for that name has.
-/

namespace Montage

namespace Work

variable {α β : Type}

theorem does_isFile_bind {path : Path} {next : Bool → Work β} {deeds : List Deed} {value : β}
    (does : ((isFile path).bind next).Does deeds (.done value)) :
    ∃ seen there others, deeds = ⟨.files, seen⟩ :: others ∧ seen.isFile path = .ok there ∧
      (next there).Does others (.done value) := by
  obtain ⟨seen, others, rfl, asking⟩ := does_perform_bind (bind_assoc _ _ next ▸ does)
  obtain ⟨there, found, rest⟩ := does_ofExcept_bind asking
  exact ⟨seen, there, others, rfl, found, rest⟩

end Work

theorem outcome?_tellings (what : List Telling) : outcome? (tellings what) = none := by
  induction what with
  | nil => rfl
  | cons telling others ih => exact ih

namespace Processing

open Work (runEngine_bind does_bind_done does_perform_bind does_ofExcept_bind does_ofAwaited_bind does_isFile_bind)

variable {args : List String} {source output : Path} {started : Binary64} {timeout : Option Binary64}
  {deeds : List Deed} {report : Json}

/-- The file that is reported was there when the job first looked, and the job did not call the engine. -/
def IsFound (output : Path) (deeds : List Deed) : Prop :=
  (∃ seen, ⟨.files, seen⟩ ∈ deeds ∧ seen.isFile output = .ok true) ∧
    ∀ deed ∈ deeds, Work.isLaunch deed.step = false

/-- The job called the engine for the file that is reported, and that call succeeded. -/
def IsMade (output : Path) (deeds : List Deed) : Prop :=
  ∃ before args timeout lines after,
    deeds = before ++ ⟨.launch args timeout, .arrived lines⟩ :: after ∧
      Engine.outputPath args = output ∧ endsWell after = true

theorem IsFound.prepend {before : List Deed} (found : IsFound output deeds)
    (quiet : ∀ deed ∈ before, Work.isLaunch deed.step = false) : IsFound output (before ++ deeds) := by
  obtain ⟨⟨seen, member, there⟩, calm⟩ := found
  exact ⟨⟨seen, List.mem_append_right _ member, there⟩, List.forall_mem_append.mpr ⟨quiet, calm⟩⟩

theorem IsMade.prepend (before : List Deed) (made : IsMade output deeds) :
    IsMade output (before ++ deeds) := by
  obtain ⟨front, args, timeout, lines, after, rfl, path, well⟩ := made
  exact ⟨before ++ front, args, timeout, lines, after, by rw [List.append_assoc], path, well⟩

theorem IsMade.append (made : IsMade output deeds) (more : List Deed) : IsMade output (deeds ++ more) := by
  obtain ⟨before, args, timeout, lines, after, rfl, path, well⟩ := made
  exact ⟨before, args, timeout, lines, after ++ more, by simp, path, endsWell_append_of_true well more⟩

theorem does_relay_done {lines : List Engine.Line} {reader last : Engine.ReportReader}
    (does : (lines.foldlM relay reader).Does deeds (.done last)) :
    deeds = tellings (reports reader lines) := by
  rw [← Work.bind_done (lines.foldlM relay reader)] at does
  obtain ⟨others, rfl, left⟩ := does_relay does rfl
  rcases left with rfl | left
  · exact List.append_nil _
  · cases left
    exact List.append_nil _

theorem does_runEngine_bind {α : Type} {reader : Engine.ReportReader}
    {next : Engine.Outcome × Engine.ReportReader → Work α} {value : α}
    (does : ((Work.runEngine args timeout relay reader).bind next).Does deeds (.done value)) :
    ∃ lines outcome last after others,
      deeds = ⟨.launch args timeout, .arrived lines⟩ :: after ++ others ∧
        outcome? after = some (.arrived outcome) ∧ (next (outcome, last)).Does others (.done value) := by
  rw [runEngine_bind] at does
  obtain ⟨answer, others, rfl, launched⟩ := does_perform_bind does
  obtain ⟨lines, rfl, printing⟩ := does_ofAwaited_bind launched
  obtain ⟨told, others, last, rfl, relayed, waiting⟩ := does_bind_done printing
  obtain ⟨answer, others, rfl, collected⟩ := does_perform_bind waiting
  obtain ⟨outcome, rfl, rest⟩ := does_ofAwaited_bind collected
  -- The lines are relayed by telling things, so the first end that is collected is that of this call.
  obtain rfl := does_relay_done relayed
  refine ⟨lines, outcome, last, tellings (reports reader lines) ++ [⟨.collect, .arrived outcome⟩], others,
    by simp, ?_, rest⟩
  rw [outcome?_append _ (outcome?_tellings _)]
  rfl

theorem does_inspect_bind {α : Type} {next : OutputStats → Work α} {value : α}
    (does : ((inspect output started).bind next).Does deeds (.done value)) :
    ∃ seen stats after, deeds = ⟨.files, seen⟩ :: after ∧ stats.path = output ∧
      seen.size output = .ok stats.size ∧ ∃ others, (next stats).Does others (.done value) := by
  simp only [inspect, bind, pure, Work.bind_assoc] at does
  obtain ⟨seen, others, rfl, sizing⟩ := does_perform_bind does
  obtain ⟨size, found, naming⟩ := does_ofExcept_bind sizing
  obtain ⟨text, -, timing⟩ := does_ofExcept_bind naming
  obtain ⟨now, others, rfl, reading⟩ := does_perform_bind timing
  obtain ⟨milliseconds, -, rest⟩ := does_ofExcept_bind reading
  exact ⟨seen, ⟨output, size, text, milliseconds⟩, _, rfl, rfl, found, others, rest⟩

/-- A call of the engine that a compression goes on after has succeeded. -/
theorem does_runCompression_bind {α : Type} {next : Unit → Work α} {value : α}
    (path : Engine.outputPath args = output)
    (does : ((runCompression args output timeout).bind next).Does deeds (.done value)) :
    ∃ before others, deeds = before ++ others ∧ IsMade output before ∧
      (next ()).Does others (.done value) := by
  simp only [runCompression, bind, pure, Work.bind_assoc] at does
  obtain ⟨told, others, rfl, calling⟩ := does_perform_bind does
  obtain ⟨lines, outcome, last, after, others, rfl, ends, judging⟩ := does_runEngine_bind calling
  cases outcome with
  | failed fault => cases judging
  | crashed fault => cases judging
  | finished milliseconds =>
    simp only [Work.bind_assoc] at judging
    obtain ⟨seen, there, others, rfl, -, rest⟩ := does_isFile_bind judging
    cases there with
    | false => cases rest
    | true =>
      have made : IsMade output (⟨_, told⟩ :: ⟨.launch args timeout, .arrived lines⟩ :: after) :=
        ⟨[⟨_, told⟩], args, timeout, lines, after, rfl, path, by rw [endsWell, ends]⟩
      exact ⟨_, others, by simp, made.append [⟨.files, seen⟩], rest⟩

/-- What a compression reports once its output is there. -/
def reportOutput (source output : Path) (started : Binary64) : Work Json := do
  let files ← Work.files
  let initial ← Work.ofExcept FileFault.toJob (files.size source)
  let stats ← inspect output started
  let saved ← Work.ofExcept RangeFault.toJob (Download.reduction initial stats.size)
  let initialText ← Work.ofExcept RangeFault.toJob (Download.sizeText initial)
  let report : Json := .obj (stats.fields ++
    [("originalSize", .int initial), ("reductionPercent", .num saved)])
  Work.emit .processing
    (s!"Compression complete! Reduced from {initialText} to {stats.sizeText} (" ++
      percentText saved ++ "% reduction)")
    (some report)
  return report

theorem compress_eq : compress args source output started timeout =
    (Work.isFile output).bind fun there =>
      (if there then Work.emit .processing s!"Compressed file already exists: {output.name}" none
        else runCompression args output timeout).bind fun _ => reportOutput source output started := by
  refine congrArg (Work.bind (Work.isFile output)) (funext fun there => ?_)
  cases there <;> rfl

theorem does_reportOutput (does : (reportOutput source output started).Does deeds (.done report)) :
    ∃ before seen after size more, deeds = ⟨.files, before⟩ :: ⟨.files, seen⟩ :: after ∧
      report = .obj (("outputPath", .str output.text) :: ("size", .int (size : Nat)) :: more) ∧
      seen.size output = .ok size := by
  obtain ⟨before, others, rfl, sizing⟩ := does_perform_bind does
  obtain ⟨initial, -, inspecting⟩ := does_ofExcept_bind sizing
  obtain ⟨seen, stats, after, rfl, rfl, size, others, saving⟩ := does_inspect_bind inspecting
  obtain ⟨saved, -, naming⟩ := does_ofExcept_bind saving
  obtain ⟨text, -, telling⟩ := does_ofExcept_bind naming
  obtain ⟨told, others, rfl, ending⟩ := does_perform_bind telling
  cases ending
  exact ⟨before, seen, after, stats.size, _, rfl, rfl, size⟩

/-- What a compression did when it ends with a report: it found its output or made it, and what it reports is
what it then saw of it. -/
theorem does_compress (path : Engine.outputPath args = output)
    (does : (compress args source output started timeout).Does deeds (.done report)) :
    ∃ before seen after size more, deeds = before ++ ⟨.files, seen⟩ :: after ∧
      report = .obj (("outputPath", .str output.text) :: ("size", .int (size : Nat)) :: more) ∧
      seen.size output = .ok size ∧ (IsFound output before ∨ IsMade output before) := by
  rw [compress_eq] at does
  obtain ⟨first, there, others, rfl, look, deciding⟩ := does_isFile_bind does
  cases there with
  | true =>
    obtain ⟨told, others, rfl, reporting⟩ := does_perform_bind deciding
    obtain ⟨again, seen, after, size, more, rfl, report, said⟩ := does_reportOutput reporting
    refine ⟨[⟨.files, first⟩, ⟨_, told⟩, ⟨.files, again⟩], seen, after, size, more, rfl, report, said,
      .inl ⟨⟨first, List.mem_cons_self, look⟩, ?_⟩⟩
    simp [Work.isLaunch]
  | false =>
    obtain ⟨made, others, rfl, done, reporting⟩ := does_runCompression_bind path deciding
    obtain ⟨again, seen, after, size, more, rfl, report, said⟩ := does_reportOutput reporting
    exact ⟨⟨.files, first⟩ :: made ++ [⟨.files, again⟩], seen, after, size, more, by simp, report, said,
      .inr ((done.prepend [_]).append _)⟩

theorem outputPath_append {front back : List String} {last : String} (ends : back.getLast? = some last) :
    Engine.outputPath (front ++ back) = Path.ofText last := by
  rw [Engine.outputPath, List.getLast?_append, ends, Option.some_or, Option.getD_some]

theorem outputPath_compressImageArgs {engine input output : String} {quality : Binary64}
    {maxWidth maxHeight : Option Int}
    (made : Encoding.compressImageArgs engine input output quality maxWidth maxHeight = .ok args) :
    Engine.outputPath args = Path.ofText output := by
  obtain ⟨scale, -, made⟩ := bind_eq_ok.mp made
  rw [← pure_eq_ok.mp made]
  exact outputPath_append rfl

/-- The output of a compression is read back from its text, by the engine as by everyone. -/
theorem ofText_compressedPath (settings : Settings) (name : String) :
    Path.ofText (compressedPath settings name).text = compressedPath settings name :=
  (((Path.ofText_isRead _).div _).div _).ofText_text

/-- The works of jobs that compress. -/
inductive IsCompression (settings : Settings) : Work Json → Prop
  | video (job : CompressVideoJob) : IsCompression settings (compressVideo settings job)
  | image (job : CompressImageJob) : IsCompression settings (compressImage settings job)

/-- Before a job compresses anything it calls no engine. -/
theorem does_fetch {settings : Settings} {url : String} {next : Binary64 → Stored → Work Json}
    (does : (Work.clock.bind fun started =>
      (Download.transfer (.ofSettings settings) url).bind fun source =>
        (Work.makeDirectories (compressedDirectory settings)).bind fun _ =>
          next started source).Does deeds (.done report)) :
    ∃ started source first second, deeds = first ++ second ∧
      (∀ deed ∈ first, Work.isLaunch deed.step = false) ∧
      (next started source).Does second (.done report) := by
  obtain ⟨started, others, rfl, downloading⟩ := does_perform_bind does
  obtain ⟨transferred, others, source, rfl, download, placing⟩ := does_bind_done downloading
  obtain ⟨made, second, _, rfl, make, rest⟩ := does_bind_done placing
  refine ⟨started, source, ⟨_, started⟩ :: (transferred ++ made), second, by simp, ?_, rest⟩
  have quiet := (Download.transfer_neverLaunches _ _).does download
  have calm := (Work.NeverLaunches.makeDirectories _).does make
  exact List.forall_mem_cons.mpr ⟨rfl, List.forall_mem_append.mpr ⟨quiet, calm⟩⟩

/-- What a job that compresses did when it ends with a report. -/
theorem IsCompression.does {settings : Settings} {work : Work Json} (compresses : IsCompression settings work)
    (does : work.Does deeds (.done report)) :
    ∃ text before seen after size more, deeds = before ++ ⟨.files, seen⟩ :: after ∧
      report = .obj (("outputPath", .str text) :: ("size", .int (size : Nat)) :: more) ∧
      seen.size (Path.ofText text) = .ok size ∧
      (IsFound (Path.ofText text) before ∨ IsMade (Path.ofText text) before) := by
  have whole : ∃ name args source started timeout first second,
      Engine.outputPath args = compressedPath settings name ∧ deeds = first ++ second ∧
        (∀ deed ∈ first, Work.isLaunch deed.step = false) ∧
        (compress args source (compressedPath settings name) started timeout).Does second (.done report) := by
    cases compresses with
    | video job =>
      obtain ⟨started, source, first, second, split, quiet, compressing⟩ := does_fetch does
      exact ⟨source.name, _, source.path, started, none, first, second,
        (outputPath_append rfl).trans (ofText_compressedPath ..), split, quiet, compressing⟩
    | image job =>
      obtain ⟨started, source, first, second, split, quiet, choosing⟩ := does_fetch does
      obtain ⟨args, chosen, compressing⟩ := does_ofExcept_bind choosing
      exact ⟨source.name, args, source.path, started, some settings.imageTimeout, first, second,
        (outputPath_compressImageArgs chosen).trans (ofText_compressedPath ..), split, quiet, compressing⟩
  obtain ⟨name, args, source, started, timeout, first, second, path, rfl, quiet, compressing⟩ := whole
  obtain ⟨before, seen, after, size, more, rfl, report, said, grounds⟩ := does_compress path compressing
  refine ⟨(compressedPath settings name).text, first ++ before, seen, after, size, more, by simp, report, ?_⟩
  rw [ofText_compressedPath]
  exact ⟨said, grounds.imp (·.prepend quiet) (·.prepend first)⟩

end Processing

open Processing (IsCompression IsFound IsMade)

/-- However jobs take turns and whatever the engine does, a job that compresses and ends with a report took a
file that it found, without a call of its own, or its own call succeeded. The file whose size it reports, as
it saw it, is what a call of the engine left that had succeeded by then, provided that nothing else was ever
put in its place: no download, no directory, and nothing by a call that failed or had not ended by then. -/
theorem Crew.Run.compressed {settings : Settings} {start crew : Crew Json} {history : List Act} {number : Nat}
    {report : Json} (run : start.Run history crew) (idle : ∀ number, start.engines number = none)
    (compresses : IsCompression settings (start.works number)) (ends : crew.works number = .done report) :
    ∃ text before seen after size more,
      history = before ++ .deed number ⟨.files, seen⟩ :: after ∧
        report = .obj (("outputPath", .str text) :: ("size", .int (size : Nat)) :: more) ∧
        seen.size (Path.ofText text) = .ok size ∧
        (IsFound (Path.ofText text) (deedsOf number before) ∨
          IsMade (Path.ofText text) (deedsOf number before)) ∧
        (IsKept start.files before (Path.ofText text).place →
          IsFinished before (Path.ofText text).place seen) := by
  obtain ⟨text, first, seen, second, size, more, deeds, report, said, grounds⟩ :=
    compresses.does (ends ▸ run.does number)
  obtain ⟨before, after, rfl, rfl⟩ := exists_of_deedsOf_eq deeds
  refine ⟨text, before, seen, after, size, more, rfl, report, said, grounds, fun kept => ?_⟩
  obtain ⟨middle, next, front, moves, -⟩ := run.split
  obtain rfl := moves.look
  obtain ⟨node, stands⟩ := Files.exists_of_size said
  exact front.isFinished idle kept stands

/-- Two jobs that compress the same video. -/
def twins : Crew Json where
  files := {}
  works _ := Processing.compressVideo {} ⟨"https://a.example/b.mp4", Encoding.defaultBitrate⟩

/-- What the first of the jobs does to its end, when the engine leaves one octet before its own end. -/
def firstTwin (outcome : Engine.Outcome) : List Act × Crew Json :=
  twins.play { exchange := fun _ => .response {}, turn := fun _ => { outcome := outcome } }
    (List.replicate 16 (.step 0) ++ .output 0 ⟨#[0]⟩ :: List.replicate 6 (.step 0))

/-- What the second one does after that. -/
def secondTwin (outcome : Engine.Outcome) : List Act × Crew Json :=
  (firstTwin outcome).2.play { exchange := fun _ => .response {}, turn := fun _ => { outcome := outcome } }
    (List.replicate 15 (.step 1))

theorem run_twins (outcome : Engine.Outcome) :
    twins.Run ((firstTwin outcome).1 ++ (secondTwin outcome).1) (secondTwin outcome).2 :=
  (Crew.run_play ..).append (Crew.run_play ..)

/-- The path and the size in a report. -/
def reported? : Work Json → Option (String × Int)
  | .done (.obj (("outputPath", .str text) :: ("size", .int size) :: _)) => some (text, size)
  | _ => none

theorem exists_of_reported? {work : Work Json} {text : String} {size : Int}
    (reports : reported? work = some (text, size)) :
    ∃ more, work = .done (.obj (("outputPath", .str text) :: ("size", .int size) :: more)) := by
  unfold reported? at reports
  split at reports
  · next more =>
    obtain ⟨rfl, rfl⟩ := Prod.mk.inj (Option.some.inj reports)
    exact ⟨more, rfl⟩
  · contradiction

/-- The text of the path that both jobs report. -/
def twinText : String := "outputs/compressed/compressed_b.mp4"

/-- If the call of the first job succeeds, the second one reports what that call left. -/
theorem Crew.twin_reuses : ∃ history crew report,
    twins.Run history crew ∧ crew.works 1 = .done report ∧
      ∃ before seen after, history = before ++ .deed 1 ⟨.files, seen⟩ :: after ∧
        IsKept twins.files before (Path.ofText twinText).place ∧
        IsFinished before (Path.ofText twinText).place seen := by
  obtain ⟨reports, alone, apart, succeed, calm⟩ :
      reported? ((secondTwin (.finished 1)).2.works 1) = some (twinText, 1) ∧
        (∀ act ∈ (firstTwin (.finished 1)).1, act.deedOf? 1 = none) ∧
        (∀ act ∈ (firstTwin (.finished 1)).1 ++ (secondTwin (.finished 1)).1,
          (Path.ofText twinText).place ∉ act.places) ∧
        callsSucceed (Path.ofText twinText).place (firstTwin (.finished 1)).1 = true ∧
        ∀ act ∈ (secondTwin (.finished 1)).1, callsSucceed (Path.ofText twinText).place [act] = true := by
    decide +kernel
  obtain ⟨more, ends⟩ := exists_of_reported? reports
  obtain ⟨text, before, seen, after, size, rest, split, report, -, -, finished⟩ :=
    (run_twins (.finished 1)).compressed (fun _ => rfl) (.video _) ends
  obtain rfl : twinText = text := by cases report; rfl
  -- The deed at which the second job looks comes after all that the first one did.
  have kept : IsKept twins.files before (Path.ofText twinText).place := by
    obtain ⟨later, rfl, second⟩ := exists_split_of_others alone split
    rw [second] at apart calm
    refine ⟨by decide, List.forall_mem_nil _, fun act member => apart act ?_, ?_⟩
    · rw [← List.append_assoc]
      exact List.mem_append_left _ member
    · exact callsSucceed_append succeed
        (callsSucceed_of_each fun act member => calm act (List.mem_append_left _ member))
  exact ⟨_, _, _, run_twins (.finished 1), ends, before, seen, after, split, kept, finished kept⟩

/-- If the call of the first job fails, the second one reports what that call left all the same. -/
theorem Crew.twin_reports_leftover : ∃ history crew more,
    twins.Run history crew ∧
      crew.works 1 = .done (.obj (("outputPath", .str twinText) :: ("size", .int 1) :: more)) ∧
      ∀ place files, ¬IsFinished history place files := by
  obtain ⟨reports, fail⟩ :
      reported? ((secondTwin (.failed (.exited 1 []))).2.works 1) = some (twinText, 1) ∧
        ∀ act ∈ (firstTwin (.failed (.exited 1 []))).1 ++ (secondTwin (.failed (.exited 1 []))).1,
          act.isSuccess = false := by
    decide +kernel
  obtain ⟨more, ends⟩ := exists_of_reported? reports
  exact ⟨_, _, more, run_twins (.failed (.exited 1 [])), ends, fun place files => Crew.not_isFinished fail⟩

end Montage
