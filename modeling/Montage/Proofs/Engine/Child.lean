import Montage.Proofs.Engine.Lines
import Montage.Proofs.Processing.Relay

/-! # What becomes of the process

Behind a run of the engine there is a process, which exits when it likes; that its exit code is known comes
later. A run that ends by its time limit or by a cancellation kills the process unless the exit code is
known, and one that ends by itself has seen it exit. A run that ends because its handler of lines failed
does neither: it leaves the process behind, unless it has happened to exit.
-/

namespace Montage.Engine

variable {σ ε : Type} {limit : Binary64} {onLine : σ → Line → Except (LineFault ε) σ}

namespace Run

variable {run middle next : Run σ ε}

/-- A run after some lines have been read: nothing has happened but that the handler may have failed. -/
structure Reads (onLine : σ → Line → Except (LineFault ε) σ) (run next : Run σ ε) : Prop where
  kills : next.kills = run.kills
  ended : next.ended = run.ended
  exitCode : next.exitCode = run.exitCode
  blamed : ∀ fault, next.fault = some (.own fault) → run.fault = some (.own fault) ∨
    ∃ mind line, onLine mind line = .error (.own fault)

theorem Reads.refl (run : Run σ ε) : run.Reads onLine run := ⟨rfl, rfl, rfl, fun _ => .inl⟩

theorem Reads.trans (first : run.Reads onLine middle) (second : middle.Reads onLine next) :
    run.Reads onLine next :=
  ⟨second.kills.trans first.kills, second.ended.trans first.ended,
    second.exitCode.trans first.exitCode,
    fun fault failed => (second.blamed fault failed).elim (first.blamed fault) .inr⟩

theorem reads_setReader (run : Run σ ε) (channel : Channel) (reader : Option LineReader) :
    run.Reads onLine (run.setReader channel reader) := by
  cases channel <;> exact ⟨rfl, rfl, rfl, fun _ => .inl⟩

theorem reads_note (run : Run σ ε) (channel : Channel) (text : String) :
    run.Reads onLine (run.note channel text) := by
  cases channel <;> exact ⟨rfl, rfl, rfl, fun _ => .inl⟩

theorem reads_fail (run : Run σ ε) (channel : Channel) {fault : LineFault ε} {mind : σ} {line : Line}
    (failed : onLine mind line = .error fault) : run.Reads onLine (run.fail channel fault) := by
  have stops : run.Reads onLine (run.setReader channel none) := reads_setReader run channel none
  refine ⟨stops.kills, stops.ended, stops.exitCode, fun own first => ?_⟩
  have first : run.fault.getD fault = .own own := Option.some.inj first
  cases before : run.fault with
  | none =>
    rw [before, Option.getD_none] at first
    exact .inr ⟨mind, line, first ▸ failed⟩
  | some earlier =>
    rw [before, Option.getD_some] at first
    exact .inl (congrArg some first)

theorem reads_handle (run : Run σ ε) (channel : Channel) (lines : List String) :
    run.Reads onLine (handle onLine channel run lines) := by
  induction lines generalizing run with
  | nil => exact .refl run
  | cons text rest ih =>
    have noted : run.Reads onLine (run.note channel text) := reads_note run channel text
    simp only [handle]
    split
    · next mind _ =>
      have kept : (run.note channel text).Reads onLine { run.note channel text with mind := mind } :=
        ⟨rfl, rfl, rfl, fun _ => .inl⟩
      exact (noted.trans kept).trans (ih _)
    · next failed => exact noted.trans (reads_fail _ channel failed)

theorem reads_arrive (run : Run σ ε) (channel : Channel) (octets : List UInt8) :
    run.Reads onLine (run.arrive onLine channel octets) := by
  unfold arrive
  split
  · exact .refl run
  · split
    · exact (reads_setReader run channel none).trans (reads_handle _ channel _)
    · exact (reads_setReader run channel _).trans (reads_handle _ channel _)

/-- What an event does to a run that has not ended. -/
inductive Effect (onLine : σ → Line → Except (LineFault ε) σ) (run : Run σ ε) :
    RunEvent → Run σ ε → Prop
  /-- Lines may have been read, and nothing else happens. -/
  | reads {event : RunEvent} {next : Run σ ε} (reads : run.Reads onLine next) :
      Effect onLine run event next
  /-- The exit code becomes known. -/
  | learns (code known : Int) : Effect onLine run (.exited code) { run with exitCode := some known }
  /-- The run ends because the handler has failed. -/
  | crashes {fault : ε} (failed : run.fault = some (.own fault)) :
      Effect onLine run .resumed { run with ended := some (.crashed fault) }
  /-- The run kills the process and ends. -/
  | kills {event : RunEvent} {last : RunEnd ε} (orderly : ∀ fault, last ≠ .crashed fault)
      (unknown : run.exitCode = none) :
      Effect onLine run event { run with kills := run.kills + 1, ended := some last }
  /-- The run ends after the exit code has become known. -/
  | ends {event : RunEvent} {last : RunEnd ε} (orderly : ∀ fault, last ≠ .crashed fault)
      (known : run.exitCode.isSome = true) :
      Effect onLine run event { run with ended := some last }

theorem effect_abort (run : Run σ ε) (event : RunEvent) {last : RunEnd ε}
    (orderly : ∀ fault, last ≠ .crashed fault) : Effect onLine run event (run.abort last) := by
  by_cases unknown : run.exitCode.isNone = true
  · rw [abort, if_pos unknown]
    exact .kills orderly (Option.isNone_iff_eq_none.mp unknown)
  · rw [abort, if_neg unknown]
    exact .ends orderly (by simpa [Option.isSome_iff_ne_none] using unknown)

theorem effect_expire (run : Run σ ε) (limit : Binary64) (event : RunEvent) :
    Effect onLine run event (run.expire limit) := effect_abort run event nofun

theorem effect_resume (run : Run σ ε) (limit : Binary64) :
    Effect onLine run .resumed (run.resume limit) := by
  unfold resume
  split
  · next failed => exact .crashes failed
  · exact effect_expire run limit _
  · exact effect_abort run _ nofun
  · split
    · next code _ _ known =>
      refine .ends (fun fault same => ?_) (by simp [known])
      split at same <;> cases same
    · exact .reads (.refl run)

/-- Every event has one of these effects. -/
theorem effect_step (going : run.ended = none) (event : RunEvent) :
    Effect onLine run event (run.step limit onLine event) := by
  unfold step
  split
  · next ended => simp [going] at ended
  · cases event with
    | arrived channel octets => exact .reads (reads_arrive run channel octets)
    | exited code => exact .learns code _
    | resumed => exact effect_resume run limit
    | expired => exact effect_expire run limit _
    | cancelled => exact effect_abort run _ nofun

end Run

/-! ## Runs and processes -/

/-- What has become of a process. -/
inductive Child where
  | running
  | exited
  | killed
  deriving DecidableEq

/-- A process after it was killed; one that has exited is already gone. -/
def Child.kill : Child → Child
  | .running => .killed
  | child => child

/-- A call of the engine: its run, and the process behind it if there is one. -/
structure Call (σ ε : Type) where
  run : Run σ ε
  child : Option Child

/-- What comes of launching a process: it is refused, or there is a process with some of its streams. -/
inductive Launch where
  | refused (reason : String)
  | started (stdout stderr : Bool)

/-- What happens during a call: the process exits, or the runner notices something. -/
inductive Happening where
  | gone
  | noticed (event : RunEvent)
  deriving DecidableEq

namespace Call

variable {program : String} {mind : σ} {launch : Launch} {first call : Call σ ε}
  {past : List Happening} {happening : Happening}

/-- A call at its beginning. -/
def start (program : String) (mind : σ) : Launch → Call σ ε
  | .refused reason =>
    { run := { mind := mind, ended := some (.failed (.notStarted program reason)) }, child := none }
  | .started stdout stderr =>
    let pipe (given : Bool) : Option LineReader := if given then some {} else none
    { run := { mind := mind, stdout := pipe stdout, stderr := pipe stderr }, child := some .running }

/-- Whether something can happen: only a process that runs can exit, and the exit code is known only of one
that does not run. -/
def Allows (call : Call σ ε) : Happening → Prop
  | .gone => call.child = some .running
  | .noticed (.exited _) => call.child ≠ some .running
  | .noticed _ => True

/-- A call after something has happened. Whenever the run kills, the process is killed. -/
def after (limit : Binary64) (onLine : σ → Line → Except (LineFault ε) σ) (call : Call σ ε) :
    Happening → Call σ ε
  | .gone => { call with child := some .exited }
  | .noticed event =>
    let run := call.run.step limit onLine event
    { run := run, child := if run.kills = call.run.kills then call.child else call.child.map .kill }

/-- Calls that happenings lead to, each of them allowed at its point. -/
inductive Course (limit : Binary64) (onLine : σ → Line → Except (LineFault ε) σ) (first : Call σ ε) :
    List Happening → Call σ ε → Prop
  | nil : Course limit onLine first [] first
  | snoc {past : List Happening} {call : Call σ ε} (course : Course limit onLine first past call)
      (happening : Happening) (allowed : call.Allows happening) :
      Course limit onLine first (past ++ [happening]) (call.after limit onLine happening)

/-- What is known of a call at any point. As long as the run goes on nothing has been killed, and the process
runs unless it has exited. The exit code is known only of a process that does not run, and the handler is
to blame for every crash. -/
structure IsTended (onLine : σ → Line → Except (LineFault ε) σ) (past : List Happening)
    (call : Call σ ε) : Prop where
  once : call.run.kills ≤ 1
  going : call.run.ended = none → call.run.kills = 0 ∧ (call.child = some .running ↔ .gone ∉ past)
  known : call.run.exitCode.isSome = true → call.child ≠ some .running
  blamed : ∀ fault, call.run.fault = some (.own fault) →
    ∃ mind line, onLine mind line = .error (.own fault)

theorem isTended_start (program : String) (mind : σ) (launch : Launch) :
    IsTended onLine [] (start program mind launch : Call σ ε) := by
  cases launch with
  | refused reason => exact ⟨Nat.zero_le _, nofun, nofun, nofun⟩
  | started stdout stderr => exact ⟨Nat.zero_le _, fun _ => ⟨rfl, by simp [start]⟩, nofun, nofun⟩

/-- After the end of the run nothing happens to the process but that it exits. -/
theorem after_ended {last : RunEnd ε} (ended : call.run.ended = some last) (event : RunEvent) :
    call.after limit onLine (.noticed event) = call := by
  rw [Call.after, Run.step_of_ended ended, if_pos rfl]

theorem IsTended.after (tended : IsTended onLine past call) (allowed : call.Allows happening) :
    IsTended onLine (past ++ [happening]) (call.after limit onLine happening) := by
  cases happening with
  | gone =>
    exact ⟨tended.once, fun going => ⟨(tended.going going).1, by simp [Call.after]⟩, fun _ => nofun,
      tended.blamed⟩
  | noticed event =>
    cases state : call.run.ended with
    | some last =>
      rw [after_ended state]
      exact ⟨tended.once, fun going => by simp [state] at going, tended.known, tended.blamed⟩
    | none =>
      obtain ⟨unharmed, alive⟩ := tended.going state
      have alive : call.child = some .running ↔ .gone ∉ past ++ [.noticed event] := by simpa using alive
      have effect : Run.Effect onLine call.run event (call.run.step limit onLine event) :=
        Run.effect_step state event
      rw [Call.after]
      generalize call.run.step limit onLine event = next at effect
      cases effect with
      | reads reads =>
        rw [if_pos reads.kills]
        refine ⟨reads.kills ▸ tended.once, fun _ => ⟨reads.kills.trans unharmed, alive⟩, ?_, ?_⟩
        · rw [reads.exitCode]
          exact tended.known
        · exact fun fault failed => (reads.blamed fault failed).elim (tended.blamed fault) id
      | learns code known =>
        rw [if_pos rfl]
        exact ⟨tended.once, fun _ => ⟨unharmed, alive⟩, fun _ => allowed, tended.blamed⟩
      | kills orderly unknown =>
        refine ⟨by simp [unharmed], nofun, fun known => ?_, tended.blamed⟩
        simp [unknown] at known
      | crashes | ends =>
        rw [if_pos rfl]
        exact ⟨tended.once, nofun, tended.known, tended.blamed⟩

theorem Course.isTended (course : Course limit onLine first past call)
    (tended : IsTended onLine [] first) : IsTended onLine past call := by
  induction course with
  | nil => exact tended
  | snoc course happening allowed ih => exact ih.after allowed

/-- How a run ends, and what it leaves behind: only a run whose handler failed ends while its process runs,
and it always does if the process has not exited by then. -/
theorem IsTended.ends (tended : IsTended onLine past call) (going : call.run.ended = none)
    {event : RunEvent} {last : RunEnd ε}
    (ended : (call.after limit onLine (.noticed event)).run.ended = some last) :
    ((call.after limit onLine (.noticed event)).child = some .running ↔
      (∃ fault, last = .crashed fault) ∧ .gone ∉ past) ∧
    ∀ fault, last = .crashed fault → ∃ mind line, onLine mind line = .error (.own fault) := by
  obtain ⟨unharmed, alive⟩ := tended.going going
  have effect : Run.Effect onLine call.run event (call.run.step limit onLine event) :=
    Run.effect_step going event
  rw [Call.after] at ended ⊢
  generalize call.run.step limit onLine event = next at effect ended
  cases effect with
  | reads reads => simp [reads.ended, going] at ended
  | learns code known => simp [going] at ended
  | crashes failed =>
    -- nothing has been killed yet, so the process is as it was left to itself
    obtain rfl := Option.some.inj ended
    rw [if_pos rfl, alive]
    refine ⟨by simp, fun fault same => ?_⟩
    cases same
    exact tended.blamed _ failed
  | kills orderly unknown =>
    obtain rfl := Option.some.inj ended
    refine ⟨iff_of_false ?_ fun ⟨⟨fault, same⟩, _⟩ => orderly fault same, fun fault same =>
      absurd same (orderly fault)⟩
    rw [if_neg (Nat.succ_ne_self _)]
    cases call.child with
    | none => nofun
    | some child => cases child <;> nofun
  | ends orderly known =>
    obtain rfl := Option.some.inj ended
    rw [if_pos rfl]
    exact ⟨iff_of_false (tended.known known) fun ⟨⟨fault, same⟩, _⟩ => orderly fault same,
      fun fault same => absurd same (orderly fault)⟩

/-- A process is killed only as long as its exit code is not known. -/
theorem unknown_of_kill (killed : (call.after limit onLine happening).run.kills ≠ call.run.kills) :
    call.run.exitCode = none := by
  cases happening with
  | gone => exact absurd rfl killed
  | noticed event =>
    cases state : call.run.ended with
    | some last => exact absurd (by rw [after_ended state]) killed
    | none =>
      have effect : Run.Effect onLine call.run event (call.run.step limit onLine event) :=
        Run.effect_step state event
      rw [Call.after] at killed
      generalize call.run.step limit onLine event = next at effect killed
      cases effect with
      | reads reads => exact absurd reads.kills killed
      | kills orderly unknown => exact unknown
      | learns | crashes | ends => exact absurd rfl killed

/-- Nothing happens to a call whose launch was refused. -/
theorem Course.eq_of_refused {program reason : String} {mind : σ}
    (course : Course limit onLine (start program mind (.refused reason)) past call) :
    call = start program mind (.refused reason) := by
  induction course with
  | nil => rfl
  | snoc course happening allowed ih =>
    subst ih
    cases happening with
    | gone => cases allowed
    | noticed event => exact after_ended rfl event

/-- Whatever happens during a call, the process is killed at most once, and not once its exit code is known.
When a run ends, its process runs on exactly if the handler has failed with a fault of its own and the
process has not exited by itself. A launch that is refused leaves no process behind. -/
theorem Course.tends {program : String} {mind : σ} {launch : Launch}
    (course : Course limit onLine (start program mind launch) past call) :
    call.run.kills ≤ 1 ∧
    (∀ happening, (call.after limit onLine happening).run.kills ≠ call.run.kills →
      call.run.exitCode = none) ∧
    (∀ event last, call.run.ended = none →
      (call.after limit onLine (.noticed event)).run.ended = some last →
      ((call.after limit onLine (.noticed event)).child = some .running ↔
        (∃ fault, last = .crashed fault) ∧ .gone ∉ past) ∧
      ∀ fault, last = .crashed fault → ∃ mind line, onLine mind line = .error (.own fault)) ∧
    ∀ reason, launch = .refused reason →
      call.run.ended = some (.failed (.notStarted program reason)) ∧ call.child = none := by
  have tended : IsTended onLine past call := course.isTended (isTended_start program mind launch)
  refine ⟨tended.once, fun happening => unknown_of_kill, fun event last going ended =>
    tended.ends going ended, ?_⟩
  rintro reason rfl
  rw [course.eq_of_refused]
  exact ⟨rfl, rfl⟩

/-- The handler of a job, which reads what the lines report. -/
def reportLine (reader : ReportReader) (line : Line) : Except (LineFault JobFault) ReportReader :=
  match (Processing.readLine reader line).2 with
  | .ok _ => .ok (Processing.readLine reader line).1
  | .error fault => .error (.own fault.toJob)

/-- The engine prints some text. -/
def printed (text : String) : Happening :=
  .noticed (.arrived .stdout (text.toList.map fun c => UInt8.ofNat c.toNat))

/-- A call for a job after its engine has printed some text. -/
def printing (text : String) : Call ReportReader JobFault :=
  (start "ffmpeg" {} (.started true true)).after 600 reportLine (printed text)

theorem printing_course (text : String) :
    Course 600 reportLine (start "ffmpeg" {} (.started true true)) [printed text] (printing text) :=
  Course.nil.snoc (printed text) trivial

/-- The time limit strikes, and the process does not run on. -/
theorem printing_tends :
    (printing "frame=1\n").run.kills ≤ 1 ∧
      ((printing "frame=1\n").after 600 reportLine (.noticed .expired)).child ≠ some .running := by
  obtain ⟨once, -, ends, -⟩ := (printing_course "frame=1\n").tends
  refine ⟨once, fun runs => ?_⟩
  have ended : ((printing "frame=1\n").after 600 reportLine (.noticed .expired)).run.ended =
      some (.failed (.timedOut 600 [])) := by decide +kernel
  obtain ⟨⟨fault, crashed⟩, -⟩ := (ends .expired _ (by decide +kernel) ended).1.mp runs
  cases crashed

/-- A number of frames that is no integer: the handler fails, the run ends, and the process runs on. -/
theorem printing_abandons :
    ∃ call fault, Course 600 reportLine (start "ffmpeg" {} (.started true true))
        [printed "frame=1e999\nprogress=continue\n", .noticed .resumed] call ∧
      call.run.ended = some (.crashed fault) ∧ call.child = some .running ∧ call.run.kills = 0 := by
  have course := (printing_course "frame=1e999\nprogress=continue\n").snoc (.noticed .resumed) trivial
  refine ⟨_, .plain .range "cannot convert float infinity to integer", course, ?_, ?_, ?_⟩ <;>
    decide +kernel

end Call

end Montage.Engine
