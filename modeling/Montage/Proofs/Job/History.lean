import Montage.Proofs.Job.Filing

/-! # What a job tells

The stream of a job takes one event at its submission, one at its start, then what the job itself tells,
in order, and last what its end tells. A job that is asked to stop before its start tells nothing in
between, and ends with the shutdown that finds it.
-/

namespace Montage.JobService

open ServiceStep

variable {service : JobService} {step : ServiceStep} {number : Nat} {task later : Task}
  {job next : Job} {life : List ServiceStep} {stage : TaskStage} {state : JobState} {begun : Bool}
  {tail : List Event}

/-- The event that a job tells in a step by itself; its end is not its own to tell. -/
def told? (number : Nat) : ServiceStep → Option Event
  | .emit now other phase message data =>
    if other == number && !phase.isTerminal then some (now.event phase message data) else none
  | _ => none

/-- What a job tells by itself, in the order of the steps. -/
def told (number : Nat) (steps : List ServiceStep) : List Event := steps.filterMap (told? number)

/-- The step that ends a job that has started, the state it leaves, and what it tells. A fault is told
as an error before it ends the job, a cancellation is not. -/
inductive Ends (number : Nat) : ServiceStep → JobState → List Event → Prop
  | complete {now : Moment} {result : Json} :
      Ends number (.complete now number result) .completed
        [now.event .completed "Job completed" (some result)]
  | fail {now : Moment} {fault : JobFault} :
      Ends number (.fail now number fault) .failed
        [now.event .error s!"Failed: {fault.message}" fault.data,
          now.event .failed fault.label fault.data]
  | cancel {now : Moment} :
      Ends number (.cancel now number) .failed [now.event .failed "Job cancelled" none]

/-- The steps since a job's submission, the stage of its task, its state, whether it has started, and
what its stream took after the first event. -/
inductive Tale (number : Nat) :
    List ServiceStep → TaskStage → JobState → Bool → List Event → Prop
  /-- The task has not started yet. -/
  | waits {life : List ServiceStep} : Tale number life .created .queued false []
  /-- The task was asked to stop before its start. -/
  | stopped {before after : List ServiceStep} {now : Moment}
      (asked : before.any (asksToStop number) = true) :
      Tale number (before ++ .start now number :: after) .ended .queued false []
  /-- The end of a shutdown found the job of a task that never started. -/
  | left {before between after : List ServiceStep} {now closed : Moment}
      (asked : before.any (asksToStop number) = true) :
      Tale number (before ++ .start now number :: between ++ .endShutdown closed :: after) .ended
        .failed false [closed.event .failed "Job cancelled" none]
  /-- The task has started. -/
  | runs {before during : List ServiceStep} {now : Moment} :
      Tale number (before ++ .start now number :: during) .started .running true
        (now.event .processing "Job started" none :: told number during)
  /-- The task has started and ended. -/
  | ended {before during after : List ServiceStep} {now : Moment} {step : ServiceStep}
      {state : JobState} {closing : List Event} (ends : Ends number step state closing) :
      Tale number (before ++ .start now number :: during ++ step :: after) .ended state true
        (now.event .processing "Job started" none :: told number during ++ closing)

theorem told?_of_apart (apart : step.concerns number = false) : told? number step = none := by
  cases step with
  | emit now other phase message data => exact if_neg (Bool.eq_false_iff.mp apart)
  | _ => rfl

theorem told?_emit (now : Moment) {phase : Phase} (message : String) (data : Option Json)
    (plain : phase.isTerminal = false) :
    told? number (.emit now number phase message data) = some (now.event phase message data) :=
  if_pos (by simp [plain])

/-- A step in which a running job tells nothing leaves its tale as it is. -/
theorem Tale.quiet (tale : Tale number life stage state begun tail)
    (quiet : stage = .started → told? number step = none) :
    Tale number (life ++ [step]) stage state begun tail := by
  cases tale with
  | waits => exact .waits
  | stopped asked =>
    rw [List.append_assoc]
    exact .stopped asked
  | left asked =>
    rw [List.append_assoc]
    exact .left asked
  | @runs before during now =>
    have same : told number during = told number (during ++ [step]) := by
      simp [told, quiet rfl]
    rw [List.append_assoc, same]
    exact .runs
  | ended ends =>
    rw [List.append_assoc]
    exact .ended ends

theorem Tale.of_created (tale : Tale number life .created state begun tail) :
    begun = false ∧ tail = [] := by
  cases tale
  exact ⟨rfl, rfl⟩

theorem Tale.of_started (tale : Tale number life .started state begun tail) : begun = true := by
  cases tale
  rfl

theorem Tale.of_queued (tale : Tale number life .ended .queued begun tail) :
    ∃ before now after, before.any (asksToStop number) = true ∧
      life = before ++ .start now number :: after ∧ begun = false ∧ tail = [] := by
  cases tale with
  | stopped asked => exact ⟨_, _, _, asked, rfl, rfl, rfl⟩
  | ended ends => cases ends

/-- A running job tells something. -/
theorem Tale.tells (tale : Tale number life .started state begun tail) {event : Event}
    (tells : told? number step = some event) :
    Tale number (life ++ [step]) .started state begun (tail ++ [event]) := by
  cases tale with
  | @runs before during now =>
    have more : told number during ++ [event] = told number (during ++ [step]) := by
      simp [told, tells]
    rw [List.append_assoc, List.cons_append, List.cons_append, more]
    exact .runs

/-- A running job ends. -/
theorem Tale.ends (tale : Tale number life .started state begun tail) {closing : List Event}
    {last : JobState} (ends : Ends number step last closing) :
    Tale number (life ++ [step]) .ended last begun (tail ++ closing) := by
  cases tale with
  | runs => exact .ended ends

/-- A job that has started and goes on is running. -/
theorem Tale.started (tale : Tale number life task.stage job.state job.startedAt.isSome tail)
    (sound : IsSound task job) (started : job.startedAt.isSome = true)
    (going : job.isTerminal = false) : task.stage = .started := by
  cases stage : task.stage with
  | started => rfl
  | created =>
    rw [stage] at tale
    simp [tale.of_created.1] at started
  | ended =>
    rw [stage, sound.left stage going] at tale
    obtain ⟨_, _, _, _, _, begun, _⟩ := tale.of_queued
    simp [begun] at started

/-- A turn carries the tale of a job on, and its stream takes what the tale says. -/
theorem Turn.tale (turn : Turn number task job step later next) (sound : IsSound task job)
    (settles : ∀ now, step = .endShutdown now → task.stage = .ended) {first : Event}
    (tale : Tale number life task.stage job.state job.startedAt.isSome tail)
    (accepted : job.stream.accepted = first :: tail)
    (asked : task.stopping = true → life.any (asksToStop number) = true) :
    ∃ tail, Tale number (life ++ [step]) later.stage next.state next.startedAt.isSome tail ∧
      next.stream.accepted = first :: tail := by
  cases turn with
  | start created going =>
    obtain ⟨opened, _⟩ := sound.agrees.going (sound.going (by simp [created]))
    rw [created] at tale
    obtain ⟨_, rfl⟩ := tale.of_created
    exact ⟨_, .runs, by rw [Job.start_accepted opened, accepted]; rfl⟩
  | skip created stopping =>
    rw [created] at tale
    obtain ⟨begun, rfl⟩ := tale.of_created
    rw [begun, sound.queued created]
    exact ⟨[], .stopped (asked stopping), accepted⟩
  | @tell now phase message data started plain =>
    cases going : job.isTerminal with
    | true =>
      rw [Job.tell_closed (sound.agrees.ended going)]
      refine ⟨tail, tale.quiet ?_, accepted⟩
      simp [sound.ended going]
    | false =>
      obtain ⟨opened, _⟩ := sound.agrees.going going
      have stage := tale.started sound started going
      rw [stage] at tale
      refine ⟨_, stage ▸ tale.tells (told?_emit now message data plain), ?_⟩
      rw [Job.tell_accepted opened, accepted]
      rfl
  | complete started =>
    obtain ⟨opened, _⟩ := sound.agrees.going (sound.going (by simp [started]))
    rw [started] at tale
    exact ⟨_, tale.ends .complete, by rw [Job.complete_accepted opened, accepted]; rfl⟩
  | fail started =>
    obtain ⟨opened, _⟩ := sound.agrees.going (sound.going (by simp [started]))
    rw [started] at tale
    exact ⟨_, tale.ends .fail, by rw [Job.failWith_accepted opened, accepted]; rfl⟩
  | cancel started =>
    obtain ⟨opened, _⟩ := sound.agrees.going (sound.going (by simp [started]))
    rw [started] at tale
    exact ⟨_, tale.ends .cancel, by rw [Job.cancel, Job.fail_accepted opened, accepted]; rfl⟩
  | @sweep now left =>
    obtain ⟨opened, _⟩ := sound.agrees.going left
    have stage := settles now rfl
    rw [stage, sound.left stage left] at tale
    obtain ⟨before, start, after, stopped, rfl, begun, rfl⟩ := tale.of_queued
    refine ⟨_, ?_, by rw [Job.cancel, Job.fail_accepted opened, accepted]; rfl⟩
    rw [stage]
    exact begun ▸ .left stopped
  | rest apart => exact ⟨tail, tale.quiet fun _ => told?_of_apart apart, accepted⟩

/-- A task is stopping only if it was asked to. -/
theorem Turn.asked (turn : Turn number task job step later next)
    (asked : task.stopping = true → life.any (asksToStop number) = true)
    (stopping : later.stopping = true) : (life ++ [step]).any (asksToStop number) = true := by
  rw [List.any_append, Bool.or_eq_true]
  cases turn with
  | start | skip | tell | complete | fail | cancel | sweep => exact .inl (asked stopping)
  | rest _ asks =>
    rcases asks stopping with before | now
    · exact .inl (asked before)
    · exact .inr (by simp [now])

/-! ## The end of a tale -/

theorem told_plain {steps : List ServiceStep} {event : Event} (member : event ∈ told number steps) :
    event.isTerminal = false := by
  obtain ⟨step, _, tells⟩ := List.mem_filterMap.mp member
  cases step with
  | emit now other phase message data =>
    simp only [told?] at tells
    split at tells
    · next holds =>
      obtain rfl := Option.some.inj tells
      simp only [Bool.and_eq_true, Bool.not_eq_true'] at holds
      exact holds.2
    · contradiction
  | _ => contradiction

/-- The events before the last of those that an end tells are plain, and the last one is not. -/
theorem Ends.closing {closing : List Event} (ends : Ends number step state closing) :
    state.isTerminal = true ∧ ∃ plain last, closing = plain ++ [last] ∧ last.isTerminal = true ∧
      ∀ event ∈ plain, event.isTerminal = false := by
  cases ends with
  | complete => exact ⟨rfl, [], _, rfl, rfl, by simp⟩
  | @fail now fault =>
    refine ⟨rfl, [now.event .error s!"Failed: {fault.message}" fault.data], _, rfl, rfl, ?_⟩
    intro event member
    obtain rfl := List.mem_singleton.mp member
    rfl
  | cancel => exact ⟨rfl, [], _, rfl, rfl, by simp⟩

/-- A tale has one terminal event, its last, if the job has ended, and none if it goes on. -/
theorem Tale.closing (tale : Tale number life stage state begun tail) :
    ∃ plain, (∀ event ∈ plain, event.isTerminal = false) ∧
      (state.isTerminal = false ∧ tail = plain ∨
        state.isTerminal = true ∧ ∃ last, tail = plain ++ [last] ∧ last.isTerminal = true) := by
  cases tale with
  | waits => exact ⟨[], by simp, .inl ⟨rfl, rfl⟩⟩
  | stopped => exact ⟨[], by simp, .inl ⟨rfl, rfl⟩⟩
  | left => exact ⟨[], by simp, .inr ⟨rfl, _, rfl, rfl⟩⟩
  | @runs before during now =>
    refine ⟨_, ?_, .inl ⟨rfl, rfl⟩⟩
    rintro event (_ | ⟨_, member⟩)
    · rfl
    · exact told_plain member
  | @ended before during after now step state closing ends =>
    obtain ⟨terminal, plain, last, rfl, closes, quiet⟩ := ends.closing
    refine ⟨now.event .processing "Job started" none :: told number during ++ plain, ?_,
      .inr ⟨terminal, last, (List.append_assoc ..).symm, closes⟩⟩
    intro event member
    rcases List.mem_append.mp member with (_ | ⟨_, member⟩) | member
    · rfl
    · exact told_plain member
    · exact quiet event member

/-! ## Runs -/

/-- What a run has to do with a job: the job was submitted in its place, and its stream took the tale of
what came after. -/
def IsTold (number : Nat) (past : List ServiceStep) (task : Task) (job : Job) : Prop :=
  ∃ before now kind life tail, past = before ++ .submit now kind :: life ∧
    before.countP isSubmission = number ∧
    job.stream.accepted = now.event .queue "Job queued" none :: tail ∧
    Tale number life task.stage job.state job.startedAt.isSome tail ∧
    (task.stopping = true → life.any (asksToStop number) = true)

theorem Run.count {first : JobService} {past : List ServiceStep}
    (run : Run AllowsCalmly first past service) :
    service.registry.records.length = first.registry.records.length + past.countP isSubmission := by
  induction run with
  | nil => rfl
  | snoc run step allows ih =>
    rw [(lengths_after _ _).2, ih, List.countP_append, List.countP_singleton, Nat.add_assoc]

theorem Run.isTold {capacity : Int} {retention : Binary64} {past : List ServiceStep}
    (run : Run AllowsCalmly (fresh capacity retention) past service)
    (holds : service.Holds number task job) : IsTold number past task job := by
  induction run generalizing number task job with
  | nil => simpa [fresh] using holds.job
  | snoc run step allows ih =>
    have orderly := run.isOrderly (isOrderly_fresh capacity retention)
    rcases holds.origin orderly.paired allows.allowed with
      ⟨task, job, old, turn⟩ | ⟨now, kind, rfl, rfl, rfl, rfl⟩
    · obtain ⟨before, now, kind, life, tail, rfl, count, accepted, tale, asked⟩ := ih old
      have settles := orderly.settles allows.allowed old
      obtain ⟨tail, tale, accepted⟩ := turn.tale (orderly.sound old) settles tale accepted asked
      exact ⟨before, now, kind, life ++ [step], tail, by simp, count, accepted, tale,
        turn.asked asked⟩
    · refine ⟨_, now, kind, [], [], rfl, ?_, rfl, .waits, by simp⟩
      rw [run.count]
      simp [fresh]

/-- At the end of a shutdown every job has ended. -/
theorem Run.ended_of_shutdown {capacity : Int} {retention : Binary64} {past : List ServiceStep}
    {now : Moment}
    (run : Run AllowsCalmly (fresh capacity retention) (past ++ [.endShutdown now]) service)
    (here : service.registry.records[number]? = some job) : job.isTerminal = true := by
  generalize all : past ++ [.endShutdown now] = steps at run
  cases run with
  | nil => simp at all
  | snoc run step allows =>
    obtain ⟨_, last⟩ := List.append_inj' all rfl
    obtain rfl := List.singleton_inj.mp last
    have fresh := isOrderly_fresh capacity retention
    have filed := run.isFiled fresh ⟨by simp [JobService.fresh], by simp [JobService.fresh]⟩
    exact (run.isOrderly fresh).ended_after filed allows.allowed here

/-- In every run in which nobody submits a job during a shutdown, the stream of a job took the event of
its submission and then the tale of the steps since: that it started, what it told by itself in order,
and what its end told, or the end alone if it was asked to stop before its start. The terminal event is
the last one that the stream took, there is one when the job has ended, and every job has ended when a
shutdown ends. -/
theorem Run.history {capacity : Int} {retention : Binary64} {past : List ServiceStep}
    (run : Run AllowsCalmly (fresh capacity retention) past service)
    (here : service.registry.records[number]? = some job) :
    (∃ before now kind life tail, past = before ++ .submit now kind :: life ∧
      before.countP isSubmission = number ∧
      job.stream.accepted = now.event .queue "Job queued" none :: tail ∧
      Tale number life (service.stage number) job.state job.startedAt.isSome tail) ∧
    (∃ plain, (∀ event ∈ plain, event.isTerminal = false) ∧
      (job.isTerminal = false ∧ job.stream.accepted = plain ∨
        job.isTerminal = true ∧
          ∃ last, job.stream.accepted = plain ++ [last] ∧ last.isTerminal = true)) ∧
    ∀ earlier now, past = earlier ++ [.endShutdown now] → job.isTerminal = true := by
  obtain ⟨task, holds⟩ := (run.isOrderly (isOrderly_fresh capacity retention)).paired.holds here
  obtain ⟨before, now, kind, life, tail, split, count, accepted, tale, _⟩ := run.isTold holds
  refine ⟨⟨before, now, kind, life, tail, split, count, accepted, holds.stage ▸ tale⟩, ?_, ?_⟩
  · obtain ⟨plain, quiet, closes⟩ := tale.closing
    refine ⟨now.event .queue "Job queued" none :: plain, ?_, ?_⟩
    · rintro event (_ | ⟨_, member⟩)
      · rfl
      · exact quiet event member
    · rw [accepted]
      rcases closes with ⟨going, rfl⟩ | ⟨ended, last, rfl, terminal⟩
      · exact .inl ⟨going, rfl⟩
      · exact .inr ⟨ended, last, rfl, terminal⟩
  · rintro earlier now rfl
    exact run.ended_of_shutdown here

/-- The first of the two jobs tells that its download failed, and ends. -/
theorem twoJobs_history :
    ∃ service job, Run AllowsCalmly (fresh 256 3600) twoJobs service ∧
      service.registry.records[0]? = some job ∧
      job.stream.accepted.map Event.phase = [.queue, .processing, .download, .error, .failed] ∧
      (∃ before now kind life tail, twoJobs = before ++ .submit now kind :: life ∧
        before.countP isSubmission = 0 ∧
        job.stream.accepted = now.event .queue "Job queued" none :: tail ∧
        Tale 0 life (service.stage 0) job.state job.startedAt.isSome tail) ∧
      job.isTerminal = true := by
  have here : (twoJobs.foldl after (fresh 256 3600)).registry.records[0]? = some _ := rfl
  obtain ⟨tale, _, shutdown⟩ := Run.history twoJobs_run here
  exact ⟨_, _, twoJobs_run, rfl, rfl, tale, shutdown twoJobs.dropLast {} rfl⟩

end Montage.JobService
