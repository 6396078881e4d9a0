import Montage.Processing.Compose
import Montage.Proofs.Download.Transfer
import Montage.Proofs.Processing.Relay
import Montage.Work.World

/-! # Attempts share one reader

A scene may be encoded in several attempts, each of which is one call of the engine. All of them are read by
one reader, which keeps what an attempt that failed has left of a block. So an attempt is reported as a
reader reports it that has read the lines of all attempts before; it is reported as if it were the only
one exactly if these left nothing over but keys of single streams.
-/

namespace Montage.Processing

open Montage.Engine Montage.Encoding

/-- The lines that the engine prints in a transcript. -/
def printed : List Deed → List Line
  | ⟨.launch _ _, .arrived lines⟩ :: rest => lines ++ printed rest
  | _ :: rest => printed rest
  | [] => []

/-- Every call of the engine in a transcript is reported by the reader that the calls before it left. -/
def RelaysFrom : ReportReader → List Deed → Prop
  | reader, ⟨.launch _ _, .arrived lines⟩ :: rest =>
    told rest = reports reader lines ∧ RelaysFrom (readerAfter reader lines) rest
  | reader, _ :: rest => RelaysFrom reader rest
  | _, [] => True

theorem relaysFrom_cons {reader : ReportReader} {deed : Deed} {rest : List Deed}
    (other : Work.isLaunch deed.step = false) :
    RelaysFrom reader (deed :: rest) ↔ RelaysFrom reader rest := by
  obtain ⟨step, answer⟩ := deed
  cases step with
  | launch => contradiction
  | _ => exact Iff.rfl

theorem relaysFrom_append {reader : ReportReader} {first second : List Deed}
    (others : ∀ deed ∈ first, Work.isLaunch deed.step = false) :
    RelaysFrom reader (first ++ second) ↔ RelaysFrom reader second := by
  induction first with
  | nil => exact Iff.rfl
  | cons deed rest ih =>
    rw [List.cons_append, relaysFrom_cons (others deed List.mem_cons_self)]
    exact ih fun deed member => others deed (List.mem_cons_of_mem _ member)

theorem relaysFrom_of_others {reader : ReportReader} {deeds : List Deed}
    (others : ∀ deed ∈ deeds, Work.isLaunch deed.step = false) : RelaysFrom reader deeds := by
  have nothing : RelaysFrom reader [] := trivial
  simpa using (relaysFrom_append others).mpr nothing

/-- What the reader is like at any call of the engine. -/
theorem RelaysFrom.split {reader : ReportReader} {before after : List Deed} {args : List String}
    {timeout : Option Binary64} {lines : List Line}
    (relays : RelaysFrom reader (before ++ ⟨.launch args timeout, .arrived lines⟩ :: after)) :
    told after = reports (readerAfter reader (printed before)) lines := by
  induction before generalizing reader with
  | nil => exact relays.1
  | cons deed rest ih =>
    obtain ⟨step, answer⟩ := deed
    cases step with
    | launch args timeout =>
      cases answer with
      | arrived lines =>
        rw [printed, readerAfter_append]
        exact ih relays.2
      | cancelled => exact ih relays
    | _ => exact ih relays

variable {α : Type}

/-- A work whose calls of the engine are reported in turn by one reader. Where the work is about to tell
something, it has not told all there is to report yet. -/
def Relays (reader : ReportReader) (work : Work α) : Prop :=
  ∀ deeds rest, work.Does deeds rest → rest.isTelling = false → RelaysFrom reader deeds

theorem Relays.of_neverLaunches {reader : ReportReader} {work : Work α} (never : work.NeverLaunches) :
    Relays reader work := by
  intro deeds rest does _
  exact relaysFrom_of_others (never.does does)

theorem Relays.bind {β : Type} {reader : ReportReader} {work : Work α} {next : α → Work β}
    (never : work.NeverLaunches) (relays : ∀ value, Relays reader (next value)) :
    Relays reader (work.bind next) := by
  intro deeds rest does resting
  rcases Work.does_bind does with ⟨left, here, rfl⟩ | ⟨first, second, value, rfl, here, there⟩
  · exact relaysFrom_of_others (never.does here)
  · exact (relaysFrom_append (never.does here)).mpr (relays value second rest there resting)

/-- One call of the engine is reported by the reader there is, and leaves another one behind. -/
theorem Relays.runEngine {reader : ReportReader} {args : List String} {timeout : Option Binary64}
    {next : Outcome × ReportReader → Work α}
    (relays : ∀ outcome lines, Relays (readerAfter reader lines) (next (outcome, readerAfter reader lines))) :
    Relays reader ((Work.runEngine args timeout relay reader).bind next) := by
  intro deeds rest does resting
  rw [Work.runEngine_bind] at does
  cases does with
  | nothing => exact trivial
  | @step _ _ answer others _ does =>
    cases answer with
    | cancelled =>
      cases does with
      | nothing => exact trivial
    | arrived lines =>
      obtain ⟨others, rfl, left⟩ := does_relay does resting
      refine ⟨?_, (relaysFrom_append (isLaunch_tellings _)).mpr ?_⟩
      · -- What follows the lines starts with collecting the outcome, so it tells nothing at first.
        have nothing : told others = [] := by
          rcases left with rfl | left
          · rfl
          · cases left <;> rfl
        rw [told_tellings, nothing, List.append_nil]
      · rcases left with rfl | left
        · exact trivial
        · cases left with
          | nothing => exact trivial
          | @step _ _ answer others _ does =>
            cases answer with
            | cancelled =>
              cases does with
              | nothing => exact trivial
            | arrived outcome => exact relays outcome lines others rest does resting

/-- All attempts at an encoding are reported in turn, whatever comes after them. -/
theorem Relays.tryFrom {attempt : Attempt ReportReader} (relayed : attempt.onLine = relay)
    (announced : ∀ profile, (attempt.onAttempt profile).NeverLaunches)
    {next : Except Exhausted Encoded → Work α} (later : ∀ result, (next result).NeverLaunches)
    (profiles : List Profile) (tried : List String) (last : Option Fault) (reader : ReportReader) :
    Relays reader ((attempt.tryFrom tried last reader profiles).bind next) := by
  -- A call that fails hands its reader on to the next one, so the induction is over all readers.
  induction profiles generalizing tried last reader with
  | nil => exact .of_neverLaunches (later _)
  | cons profile rest ih =>
    rw [Attempt.tryFrom, relayed]
    simp only [Bind.bind, Work.bind_assoc]
    refine .bind (announced profile) fun _ => .runEngine fun outcome lines => ?_
    cases outcome with
    | finished milliseconds => exact .of_neverLaunches (later _)
    | failed fault => exact ih _ _ _
    | crashed fault => exact .of_neverLaunches (.failed fault)

theorem tellAttempt_neverLaunches (profile : Profile) : (tellAttempt profile).NeverLaunches :=
  .emit _ _ _

theorem inspect_neverLaunches (path : Path) (started : Binary64) :
    (inspect path started).NeverLaunches :=
  .bind (.perform rfl) fun _ => .bind (.ofExcept _ _) fun _ => .bind (.ofExcept _ _) fun _ =>
    .bind (.perform rfl) fun _ => .bind (.ofExcept _ _) fun _ => .done _

/-- The attempts of a composing job are reported in turn, by a reader that is new at first. -/
theorem Relays.compose (settings : Settings) (assets : Files → AssetResolver) (job : ComposeJob)
    (jobId : String) : Relays {} (compose settings assets job jobId) := by
  refine .bind (.perform rfl) fun started => .bind (.perform rfl) fun files =>
    .bind (.ofExcept _ _) fun compiled => .bind (.emit _ _ _) fun _ =>
    .bind (Download.transfer_neverLaunches _ _) fun source => .bind (.makeDirectories _) fun _ =>
    .bind (.ofExcept _ _) fun (extra, profiles, timeout) => ?_
  refine .tryFrom rfl tellAttempt_neverLaunches (fun result => ?_) profiles [] none {}
  cases result with
  | error exhausted => exact .failed _
  | ok encoded =>
    exact .bind (inspect_neverLaunches _ _) fun _ => .bind (.emit _ _ _) fun _ => .done _

theorem Relays.attempts (base : List String) (output : String) (timeout : Option Binary64)
    (profiles : List Profile) : Relays {}
      ((⟨base, output, timeout, tellAttempt, relay⟩ : Attempt ReportReader).run {} profiles) := by
  let attempt : Attempt ReportReader := ⟨base, output, timeout, tellAttempt, relay⟩
  have attempts : Relays {} ((attempt.run {} profiles).bind .done) :=
    .tryFrom rfl tellAttempt_neverLaunches .done profiles [] none {}
  rwa [Work.bind_done] at attempts

/-- The reader that deeds leave behind for the next call of the engine. -/
def readerOf (before : List Deed) : ReportReader := readerAfter {} (printed before)

/-- Whatever the profiles and the lines of the engine, each attempt at an encoding, by itself and in a
composing job, is reported as by a reader that has read the lines of all attempts before. It is reported
as if it were the only one, whatever its lines, exactly if the attempts before left nothing over but keys
of single streams. -/
theorem attempt_reports (before after : List Deed) (args : List String) (limit : Option Binary64)
    (lines : List Line) :
    (∀ base output timeout profiles rest,
      ((⟨base, output, timeout, tellAttempt, relay⟩ : Attempt ReportReader).run {} profiles).Does
        (before ++ ⟨.launch args limit, .arrived lines⟩ :: after) rest →
      rest.isTelling = false → told after = reports (readerOf before) lines) ∧
    (∀ settings assets job jobId rest, (compose settings assets job jobId).Does
        (before ++ ⟨.launch args limit, .arrived lines⟩ :: after) rest →
      rest.isTelling = false → told after = reports (readerOf before) lines) ∧
    ((∀ lines, reports (readerOf before) lines = reports {} lines) ↔
      ∀ entry ∈ (readerOf before).block, Report.isStreamKey entry.1 = true) := by
  refine ⟨?_, ?_, reports_eq_fresh_iff (printed before)⟩
  · intro base output timeout profiles rest does resting
    exact (Relays.attempts base output timeout profiles _ rest does resting).split
  · intro settings assets job jobId rest does resting
    exact (Relays.compose settings assets job jobId _ rest does resting).split

/-- A call of the engine that fails in the middle of a block. -/
def halfBlock : EngineTurn where
  lines := [⟨.stdout, "progress=continue"⟩, ⟨.stdout, "frame=7"⟩]
  outcome := .failed (.exited 1 [])

/-- The second of two attempts tells of a frame that only the first one has printed by then; read on its
own, it has nothing but the end of a block to tell of. -/
theorem halfBlock_leaks :
    (World.perform ⟨{}, {}, [], none, fun _ => .response {}, fun _ => halfBlock, 0, []⟩
      (compose {} (fun _ => ⟨.ok, fun family _ => .ok family⟩)
        ⟨{}, .video, "https://a.example/b.mp4"⟩ "job-1")).2.2.map Event.message =
      ["Filter graph compiled", "Starting download from URL: https://a.example/b.mp4",
        "Fetched media metadata: b.mp4", "Streaming media to: b.mp4",
        "Successfully downloaded: b.mp4", "Encoding with x264-copy-audio", "Processing...",
        "Encoding with x264-aac", "Processing frame 7..."] ∧
    (reports {} halfBlock.lines).map Telling.message = ["Processing..."] := by
  constructor <;> decide +kernel

end Montage.Processing
