import Montage.Proofs.Job.Frame

/-! # The life of a job

A job is queued until its task starts, and runs until its task ends; a task that was asked to stop before
its start leaves its job queued until the end of the shutdown. When nobody submits jobs during a
shutdown, all tasks have ended before it does, and so a job ends once and stays as it ended.
-/

namespace Montage

/-- The states a job can have while its task is at a stage. -/
def TaskStage.Fits : TaskStage → JobState → Prop
  | .created, state => state = .queued
  | .started, state => state = .running
  | .ended, state => state ≠ .running

/-- What became of a job is what its stream told. -/
structure Job.IsSettled (job : Job) : Prop where
  closed : job.isTerminal = true ↔ job.stream.isClosed = true
  completed : job.state = .completed ↔
    ∃ event, job.stream.terminal = some event ∧ event.phase = .completed
  failed : job.state = .failed ↔ ∃ event, job.stream.terminal = some event ∧ event.phase = .failed
  result : ∀ event, job.stream.terminal = some event → event.phase = .completed →
    job.result = event.data ∧ job.result.isSome
  error : ∀ event, job.stream.terminal = some event → event.phase = .failed →
    job.error = some event.message

theorem Job.Agrees.isSettled {job : Job} (agrees : job.Agrees) : job.IsSettled := by
  unfold Job.Agrees at agrees
  cases state : job.state with
  | queued | running =>
    simp only [state] at agrees
    obtain ⟨opened, _, _⟩ := agrees
    constructor <;> simp [Job.isTerminal, JobState.isTerminal, Stream.isClosed, state, opened]
  | completed =>
    simp only [state] at agrees
    obtain ⟨event, closed, phase, some_, result, _⟩ := agrees
    constructor <;>
      simp [Job.isTerminal, JobState.isTerminal, Stream.isClosed, state, closed, phase, result, some_]
  | failed =>
    simp only [state] at agrees
    obtain ⟨event, closed, phase, _, error⟩ := agrees
    constructor <;>
      simp [Job.isTerminal, JobState.isTerminal, Stream.isClosed, state, closed, phase, error]

namespace JobService

variable {service : JobService} {step : ServiceStep} {number : Nat} {task later : Task}
  {job next : Job}

/-- How a step may change the state of a job. -/
inductive Moves (number : Nat) : ServiceStep → JobState → JobState → Prop
  | stays {step : ServiceStep} {state : JobState} : Moves number step state state
  | starts {now : Moment} : Moves number (.start now number) .queued .running
  | completes {now : Moment} {result : Json} :
      Moves number (.complete now number result) .running .completed
  | fails {now : Moment} {fault : JobFault} : Moves number (.fail now number fault) .running .failed
  | isCancelled {now : Moment} : Moves number (.cancel now number) .running .failed
  | isSwept {now : Moment} : Moves number (.endShutdown now) .queued .failed

/-- A job whose record agrees with its stream and whose state fits the stage of its task. -/
structure IsSound (task : Task) (job : Job) : Prop where
  fits : task.stage.Fits job.state
  agrees : job.Agrees

/-- A service whose jobs are sound and whose shutdown waits for all tasks that have not ended. -/
structure IsOrderly (service : JobService) : Prop where
  paired : service.IsPaired
  sound : ∀ {number task job}, service.Holds number task job → IsSound task job
  covered : ∀ {numbers}, service.awaited = some numbers →
    ∀ number, service.stage number ≠ .ended → number ∈ numbers

theorem IsSound.queued (sound : IsSound task job) (created : task.stage = .created) :
    job.state = .queued := by
  have fits := sound.fits
  rwa [created] at fits

theorem IsSound.running (sound : IsSound task job) (started : task.stage = .started) :
    job.state = .running := by
  have fits := sound.fits
  rwa [started] at fits

theorem IsSound.going (sound : IsSound task job) (live : task.stage ≠ .ended) :
    job.isTerminal = false := by
  cases stage : task.stage with
  | created => rw [Job.isTerminal, sound.queued stage]; rfl
  | started => rw [Job.isTerminal, sound.running stage]; rfl
  | ended => contradiction

theorem IsSound.ended (sound : IsSound task job) (ended : job.isTerminal = true) :
    task.stage = .ended :=
  Decidable.byContradiction fun live => by simp [sound.going live] at ended

/-- A job that goes on after the end of its task never started. -/
theorem IsSound.left (sound : IsSound task job) (ended : task.stage = .ended)
    (left : job.isTerminal = false) : job.state = .queued := by
  have fits := sound.fits
  rw [ended] at fits
  rw [Job.isTerminal] at left
  cases state : job.state with
  | queued => rfl
  | running => exact absurd state fits
  | completed | failed => simp [state, JobState.isTerminal] at left

/-- A turn keeps a sound job sound, if its task has ended when a shutdown ends. -/
theorem Turn.sound (turn : Turn number task job step later next) (sound : IsSound task job)
    (settles : ∀ now, step = .endShutdown now → task.stage = .ended) : IsSound later next := by
  cases turn with
  | start created going =>
    exact ⟨rfl, sound.agrees.start (sound.going (by simp [created]))⟩
  | skip created stopping =>
    exact ⟨by simp [TaskStage.Fits, sound.queued created], sound.agrees⟩
  | tell started plain => exact ⟨sound.fits, sound.agrees.tell plain _ _⟩
  | complete started =>
    exact ⟨JobState.noConfusion, sound.agrees.complete (sound.going (by simp [started])) _⟩
  | fail started =>
    exact ⟨JobState.noConfusion, sound.agrees.failWith (sound.going (by simp [started])) _⟩
  | cancel started =>
    exact ⟨JobState.noConfusion, sound.agrees.fail (sound.going (by simp [started])) _ _⟩
  | @sweep now left =>
    refine ⟨?_, sound.agrees.fail left _ _⟩
    rw [settles now rfl]
    exact JobState.noConfusion
  | rest apart asked => exact ⟨sound.fits, sound.agrees.withObservers _⟩

/-- A turn moves a sound job one state on, or leaves its state alone. -/
theorem Turn.moves (turn : Turn number task job step later next) (sound : IsSound task job)
    (settles : ∀ now, step = .endShutdown now → task.stage = .ended) :
    Moves number step job.state next.state := by
  cases turn with
  | start created =>
    rw [sound.queued created]
    exact .starts
  | skip | tell | rest => exact .stays
  | complete started =>
    rw [sound.running started]
    exact .completes
  | fail started =>
    rw [sound.running started]
    exact .fails
  | cancel started =>
    rw [sound.running started]
    exact .isCancelled
  | @sweep now left =>
    rw [sound.left (settles now rfl) left]
    exact .isSwept

/-- A job that has ended is only observed. -/
theorem Turn.final (turn : Turn number task job step later next) (sound : IsSound task job)
    (ended : job.isTerminal = true) : ∃ observers, next = job.withObservers observers := by
  have stage := sound.ended ended
  cases turn with
  | start live | skip live | complete live | fail live | cancel live => simp [stage] at live
  | tell => exact ⟨job.stream.observers, Job.tell_closed (sound.agrees.ended ended) _ _ _⟩
  | sweep left => simp [ended] at left
  | rest => exact ⟨_, rfl⟩

/-! ## Runs -/

theorem lt_of_live (live : service.stage number ≠ .ended) : number < service.tasks.length := by
  apply Decidable.byContradiction
  intro beyond
  simp [stage, List.getElem?_eq_none (Nat.le_of_not_lt beyond)] at live

theorem mem_liveTasks (live : service.stage number ≠ .ended) : number ∈ service.liveTasks := by
  simp [liveTasks, lt_of_live live, live]

/-- No turn brings a task back that has ended. -/
theorem Turn.live (turn : Turn number task job step later next) (live : later.stage ≠ .ended) :
    task.stage ≠ .ended := by
  cases turn with
  | start created => simp [created]
  | skip | complete | fail | cancel => contradiction
  | tell | sweep | rest => exact live

/-- When a shutdown ends that waits for all live tasks, all tasks have ended. -/
theorem stage_of_settled
    (covered : ∀ {numbers}, service.awaited = some numbers →
      ∀ number, service.stage number ≠ .ended → number ∈ numbers)
    (settled : service.isSettled = true) (number : Nat) : service.stage number = .ended := by
  apply Decidable.byContradiction
  intro live
  unfold isSettled at settled
  cases awaited : service.awaited with
  | none => simp [awaited] at settled
  | some numbers =>
    simp only [awaited, List.all_eq_true, beq_iff_eq] at settled
    exact live (settled number (covered awaited number live))

theorem IsOrderly.settles (orderly : service.IsOrderly) (allowed : service.Allows step)
    (holds : service.Holds number task job) :
    ∀ now, step = .endShutdown now → task.stage = .ended := by
  rintro now rfl
  rw [← holds.stage]
  exact stage_of_settled orderly.covered allowed number

theorem isOrderly_fresh (capacity : Int) (retention : Binary64) :
    (fresh capacity retention).IsOrderly where
  paired := rfl
  sound holds := by simpa [fresh] using holds.job
  covered awaits := by simp [fresh] at awaits

/-- A task that has not ended after a step had not ended before, or is new. -/
theorem IsPaired.live (paired : service.IsPaired) (allowed : service.Allows step)
    (live : (service.after step).stage number ≠ .ended) :
    service.stage number ≠ .ended ∨ step.isSubmission = true := by
  have bound := lt_of_live live
  have after := paired.after step
  rw [after] at bound
  obtain ⟨later, holds⟩ := after.holds (List.getElem?_eq_getElem bound)
  rw [holds.stage] at live
  rcases holds.origin paired allowed with ⟨task, job, before, turn⟩ | ⟨now, kind, rfl, _⟩
  · left
    rw [before.stage]
    exact turn.live live
  · exact .inr rfl

/-- What any step keeps. -/
theorem IsOrderly.after (orderly : service.IsOrderly) (allows : service.AllowsCalmly step) :
    (service.after step).IsOrderly where
  paired := orderly.paired.after step
  sound := by
    intro number later after holds
    rcases holds.origin orderly.paired allows.allowed with
      ⟨task, job, before, turn⟩ | ⟨now, kind, rfl, _, rfl, rfl⟩
    · exact turn.sound (orderly.sound before) (orderly.settles allows.allowed before)
    · exact ⟨rfl, Job.agrees_queue _ _ _ _⟩
  covered := by
    intro numbers awaits number live
    have before := orderly.paired.live allows.allowed live
    rcases awaited_after allows.allowed awaits with kept | ⟨rfl, rfl⟩
    · rcases before with before | submits
      · exact orderly.covered kept number before
      · simp [allows.calm submits] at kept
    · exact mem_liveTasks (before.resolve_right Bool.false_ne_true)

/-- What a whole run keeps. -/
theorem Run.isOrderly {first : JobService} {past : List ServiceStep}
    (run : Run AllowsCalmly first past service) (orderly : first.IsOrderly) : service.IsOrderly := by
  induction run with
  | nil => exact orderly
  | snoc run step allows ih => exact ih.after allows

/-- Jobs stay on record, and one that has ended is only observed from then on. -/
theorem Run.keeps_job {first : JobService} {past : List ServiceStep}
    (run : Run AllowsCalmly first past service) (orderly : first.IsOrderly)
    (here : first.registry.records[number]? = some job) :
    ∃ next, service.registry.records[number]? = some next ∧
      (job.isTerminal = true → ∃ observers, next = job.withObservers observers) := by
  induction run with
  | nil => exact ⟨job, here, fun _ => ⟨job.stream.observers, rfl⟩⟩
  | snoc run step allows ih =>
    obtain ⟨middle, there, final⟩ := ih
    have orderly := run.isOrderly orderly
    obtain ⟨task, holds⟩ := orderly.paired.holds there
    obtain ⟨later, next, turned, turn⟩ := holds.turn allows.allowed
    refine ⟨next, turned.job, fun ended => ?_⟩
    obtain ⟨observers, rfl⟩ := final ended
    obtain ⟨others, rfl⟩ := turn.final (orderly.sound holds) ended
    exact ⟨others, rfl⟩

/-- In every run in which nobody submits a job during a shutdown, what became of a job is at any time
what its stream told; a step submits a job or moves it on, from queued over running to its end, or from
queued to its end with a shutdown; and a job that has ended is only observed from then on. -/
theorem Run.lifecycle {capacity : Int} {retention : Binary64} {past : List ServiceStep}
    (run : Run AllowsCalmly (fresh capacity retention) past service) :
    (∀ job ∈ service.registry.records, job.IsSettled) ∧
    (∀ step, service.AllowsCalmly step → ∀ (number : Nat) (next : Job),
      (service.after step).registry.records[number]? = some next →
        service.registry.records[number]? = none ∧ next.state = .queued ∨
        ∃ job, service.registry.records[number]? = some job ∧
          Moves number step job.state next.state) ∧
    ∀ (more : List ServiceStep) (later : JobService), Run AllowsCalmly service more later →
      ∀ (number : Nat) (job : Job), service.registry.records[number]? = some job →
        ∃ next, later.registry.records[number]? = some next ∧
          (job.isTerminal = true → ∃ observers, next = job.withObservers observers) := by
  have orderly := run.isOrderly (isOrderly_fresh capacity retention)
  refine ⟨?_, ?_, fun more later goes number job here => goes.keeps_job orderly here⟩
  · intro job member
    obtain ⟨number, bound, rfl⟩ := List.mem_iff_getElem.mp member
    obtain ⟨task, holds⟩ := orderly.paired.holds (List.getElem?_eq_getElem bound)
    exact (orderly.sound holds).agrees.isSettled
  · intro step allows number next there
    obtain ⟨later, holds⟩ := (orderly.paired.after step).holds there
    rcases holds.origin orderly.paired allows.allowed with
      ⟨task, job, before, turn⟩ | ⟨now, kind, rfl, rfl, _, rfl⟩
    · have moves := turn.moves (orderly.sound before) (orderly.settles allows.allowed before)
      exact .inr ⟨job, before.job, moves⟩
    · exact .inl ⟨List.getElem?_eq_none (Nat.le_refl _), rfl⟩

/-- The two jobs have ended, and their records agree with their streams. -/
theorem twoJobs_lifecycle :
    ∃ service, Run AllowsCalmly (fresh 256 3600) twoJobs service ∧
      service.registry.records.map Job.state = [.failed, .failed] ∧
      ∀ job ∈ service.registry.records, job.IsSettled :=
  ⟨_, twoJobs_run, rfl, (Run.lifecycle twoJobs_run).1⟩

end JobService

end Montage
