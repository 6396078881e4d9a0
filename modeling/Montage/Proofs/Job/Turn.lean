import Montage.Proofs.Job.Record
import Montage.Proofs.Job.Steps

/-! # Turns

A turn is what one step does to one job and its task. There are few kinds of turns, and every step
gives every job one of them; all that is known about runs is derived from that.
-/

namespace Montage.JobService

variable {service : JobService} {step : ServiceStep} {number : Nat} {task : Task} {job : Job}

/-- The record and the task of a number. -/
structure Holds (service : JobService) (number : Nat) (task : Task) (job : Job) : Prop where
  task : service.tasks[number]? = some task
  job : service.registry.records[number]? = some job

/-- What a step does to the task and the record of one number. -/
inductive Turn (number : Nat) (task : Task) (job : Job) : ServiceStep → Task → Job → Prop
  /-- The task starts. -/
  | start {now : Moment} (created : task.stage = .created) (going : task.stopping = false) :
      Turn number task job (.start now number) { task with stage := .started } (job.start now)
  /-- The task ends before its start. -/
  | skip {now : Moment} (created : task.stage = .created) (stopping : task.stopping = true) :
      Turn number task job (.start now number) { task with stage := .ended } job
  /-- The job tells something. -/
  | tell {now : Moment} {phase : Phase} {message : String} {data : Option Json}
      (started : job.startedAt.isSome) (plain : phase.isTerminal = false) :
      Turn number task job (.emit now number phase message data) task
        (job.tell now phase message data)
  /-- The task ends with a result. -/
  | complete {now : Moment} {result : Json} (started : task.stage = .started) :
      Turn number task job (.complete now number result) { task with stage := .ended }
        (job.complete now result)
  /-- The task ends with a fault. -/
  | fail {now : Moment} {fault : JobFault} (started : task.stage = .started) :
      Turn number task job (.fail now number fault) { task with stage := .ended }
        (job.failWith now fault)
  /-- The task ends by a cancellation. -/
  | cancel {now : Moment} (started : task.stage = .started) :
      Turn number task job (.cancel now number) { task with stage := .ended } (job.cancel now)
  /-- The job is left over at the end of a shutdown. -/
  | sweep {now : Moment} (left : job.isTerminal = false) :
      Turn number task job (.endShutdown now) task (job.cancel now)
  /-- Nothing happens to the job but that it is observed, or that its task is asked to stop. A task
  that has not started does not forget that it was asked. -/
  | rest {step : ServiceStep} {stopping : Bool} {observers : List Observer}
      (apart : step.concerns number = false)
      (asked : stopping = true → task.stopping = true ∨ step.asksToStop number = true)
      (remembers : task.stage = .created → task.stopping = true → stopping = true) :
      Turn number task job step { task with stopping := stopping } (job.withObservers observers)

/-! ## What each operation does to one number -/

theorem Holds.of_eq {other : JobService} (holds : service.Holds number task job)
    (tasks : other.tasks = service.tasks)
    (records : other.registry.records = service.registry.records) : other.Holds number task job :=
  ⟨tasks ▸ holds.task, records ▸ holds.job⟩

theorem Holds.stage (holds : service.Holds number task job) :
    service.stage number = task.stage := by
  simp [JobService.stage, holds.task]

theorem Holds.isStopping (holds : service.Holds number task job) :
    service.isStopping number = task.stopping := by
  simp [JobService.isStopping, holds.task]

theorem Holds.setTask (holds : service.Holds number task job) (change : Task → Task) :
    (service.setTask number change).Holds number (change task) job :=
  ⟨by simp [JobService.setTask, holds.task], holds.job⟩

theorem Holds.setTask_ne (holds : service.Holds number task job) {other : Nat}
    (apart : other ≠ number) (change : Task → Task) :
    (service.setTask other change).Holds number task job :=
  ⟨(List.getElem?_modify_ne _ _ apart).trans holds.task, holds.job⟩

theorem Holds.setJob (holds : service.Holds number task job) (change : Job → Job) :
    (service.setJob number change).Holds number task (change job) :=
  ⟨holds.task, by simp [JobService.setJob, Registry.update, holds.job]⟩

theorem Holds.setJob_ne (holds : service.Holds number task job) {other : Nat}
    (apart : other ≠ number) (change : Job → Job) :
    (service.setJob other change).Holds number task job :=
  ⟨holds.task, (List.getElem?_modify_ne _ _ apart).trans holds.job⟩

theorem Holds.endTask (holds : service.Holds number task job) (started : task.stage = .started)
    (change : Job → Job) :
    (service.endTask number change).Holds number { task with stage := .ended } (change job) := by
  rw [JobService.endTask, if_pos (holds.stage.trans started)]
  exact (holds.setJob change).setTask _

theorem Holds.endTask_ne (holds : service.Holds number task job) {other : Nat}
    (apart : other ≠ number) (change : Job → Job) :
    (service.endTask other change).Holds number task job := by
  unfold JobService.endTask
  split
  · exact (holds.setJob_ne apart change).setTask_ne apart _
  · exact holds

theorem Holds.start_ne (holds : service.Holds number task job) {other : Nat}
    (apart : other ≠ number) (now : Moment) : (service.start now other).Holds number task job := by
  unfold JobService.start
  split
  · split
    · exact holds.setTask_ne apart _
    · exact (holds.setJob_ne apart _).setTask_ne apart _
  · exact holds

/-- A change of observers leaves the rest of every record as it is. -/
theorem Holds.observe (holds : service.Holds number task job) {other : Nat} {change : Job → Job}
    (observes : other = number → ∃ observers, change job = job.withObservers observers) :
    ∃ observers, (service.setJob other change).Holds number task (job.withObservers observers) := by
  by_cases same : other = number
  · obtain ⟨observers, changed⟩ := observes same
    exact ⟨observers, changed ▸ same ▸ holds.setJob change⟩
  · exact ⟨job.stream.observers, holds.setJob_ne same change⟩

theorem Holds.submit (holds : service.Holds number task job) (now : Moment) (kind : JobKind) :
    (service.submit now kind).1.Holds number task job := by
  constructor
  · have bound := (List.getElem?_eq_some_iff.mp holds.task).1
    exact (List.getElem?_append_left bound).trans holds.task
  · have bound := (List.getElem?_eq_some_iff.mp holds.job).1
    simp only [JobService.submit, Registry.add, Registry.reap_records]
    exact (List.getElem?_append_left bound).trans holds.job

theorem Holds.query (holds : service.Holds number task job) (now : Moment) (ids : List String) :
    (service.query now ids).1.Holds number task job :=
  holds.of_eq rfl (Registry.reap_records _ _)

theorem Holds.subscribe (holds : service.Holds number task job) (id : String) :
    ∃ observers, (service.after (.subscribe id)).Holds number task (job.withObservers observers) := by
  simp only [after, JobService.subscribe]
  cases service.registry.number? id with
  | none => exact ⟨job.stream.observers, holds⟩
  | some other => exact holds.observe fun _ => ⟨_, rfl⟩

/-- Unsubscribing detaches at most one observer, and then releases at most the job it was one of. -/
theorem unsubscribe_cases (service : JobService) (id : String) (subscription : Subscription) :
    ∃ registry : Registry, (registry = service.registry ∨
        ∃ number, registry = (service.registry.detach number subscription.index).1) ∧
      (service.unsubscribe id subscription = { service with registry := registry } ∨
        ∃ (number : Nat) (job : Job), registry.records[number]? = some job ∧
          service.unsubscribe id subscription =
            { service with registry := registry.releaseIfDone job }) := by
  unfold JobService.unsubscribe
  cases service.registry.number? id with
  | none => exact ⟨service.registry, .inl rfl, .inl rfl⟩
  | some number =>
    refine ⟨if subscription.number = number then
      (service.registry.detach number subscription.index).1 else service.registry, ?_, ?_⟩
    · split
      · exact .inr ⟨number, rfl⟩
      · exact .inl rfl
    · dsimp only
      split
      · exact .inl rfl
      · next job here => exact .inr ⟨number, job, here, rfl⟩

theorem Holds.unsubscribe (holds : service.Holds number task job) (id : String)
    (subscription : Subscription) :
    ∃ observers, (service.unsubscribe id subscription).Holds number task
      (job.withObservers observers) := by
  obtain ⟨registry, detached, released⟩ := service.unsubscribe_cases id subscription
  have left : ∃ observers, ({ service with registry := registry } : JobService).Holds number task
      (job.withObservers observers) := by
    rcases detached with rfl | ⟨other, rfl⟩
    · exact ⟨job.stream.observers, holds⟩
    · exact holds.observe fun _ => ⟨_, rfl⟩
  obtain ⟨observers, left⟩ := left
  refine ⟨observers, ?_⟩
  rcases released with same | ⟨_, released, _, same⟩
  · rwa [same]
  · rw [same]
    exact left.of_eq rfl (Registry.releaseIfDone_records registry released)

theorem Holds.next (holds : service.Holds number task job) (subscription : Subscription) :
    ∃ observers, (service.next subscription).1.Holds number task (job.withObservers observers) := by
  unfold JobService.next
  split
  · exact ⟨job.stream.observers, holds⟩
  · next other here =>
    refine holds.observe fun same => ?_
    obtain rfl : other = job := Option.some.inj (here.symm.trans (same ▸ holds.job))
    obtain ⟨observers, taken⟩ := other.stream.next_fst subscription.index
    exact ⟨observers, congrArg (fun stream => { other with stream := stream }) taken⟩

theorem Holds.drain (holds : service.Holds number task job) (subscription : Subscription) :
    ∃ observers, (service.drain subscription).1.Holds number task (job.withObservers observers) := by
  unfold JobService.drain
  split
  · exact ⟨job.stream.observers, holds⟩
  · next other here =>
    refine holds.observe fun same => ?_
    obtain rfl : other = job := Option.some.inj (here.symm.trans (same ▸ holds.job))
    exact ⟨_, rfl⟩

/-- Taking the same action for many numbers, with the effect on each of them taken once. -/
theorem Holds.foldl {act : JobService → Nat → JobService} (onTask : Task → Task) (onJob : Job → Job)
    (here : ∀ {service task job}, Holds service number task job →
      (act service number).Holds number (onTask task) (onJob job))
    (elsewhere : ∀ {service task job other}, other ≠ number → Holds service number task job →
      (act service other).Holds number task job)
    (taskOnce : ∀ task, onTask (onTask task) = onTask task)
    (jobOnce : ∀ job, onJob (onJob job) = onJob job) (numbers : List Nat)
    (holds : service.Holds number task job) :
    (numbers.foldl act service).Holds number (if number ∈ numbers then onTask task else task)
      (if number ∈ numbers then onJob job else job) := by
  induction numbers generalizing service task job with
  | nil => exact holds
  | cons first rest ih =>
    rw [List.foldl_cons]
    by_cases same : first = number
    · have turned := ih (here holds)
      simp only [taskOnce, jobOnce, ite_self] at turned
      simpa [same] using turned
    · simpa [Ne.symm same] using ih (elsewhere same holds)

/-- A shutdown asks tasks to stop and does nothing to the jobs. -/
theorem Holds.beginShutdown (holds : service.Holds number task job) :
    ∃ stopping, (task.stopping = true → stopping = true) ∧
      service.beginShutdown.Holds number { task with stopping := stopping } job := by
  have asked := Holds.foldl (fun task => { task with stopping := true }) id
    (fun holds => holds.setTask fun task => { task with stopping := true })
    (fun apart holds => holds.setTask_ne apart _) (fun _ => rfl) (fun _ => rfl) service.liveTasks holds
  rw [id_eq, ite_self] at asked
  split at asked
  · exact ⟨true, fun _ => rfl, asked.of_eq rfl rfl⟩
  · exact ⟨task.stopping, id, asked.of_eq rfl rfl⟩

/-- What the end of a shutdown makes of a job that is found. -/
def swept (now : Moment) (job : Job) : Job := if job.isTerminal then job else job.cancel now

theorem swept_swept (now : Moment) (job : Job) : swept now (swept now job) = swept now job := by
  by_cases ended : job.isTerminal
  · simp only [swept, ended, if_true]
  · simp only [swept, ended, if_false, Bool.false_eq_true]
    rfl

/-- The end of a shutdown fails the jobs that are found and have not ended. -/
theorem Holds.endShutdown (holds : service.Holds number task job)
    (settled : service.isSettled = true) (now : Moment) :
    (service.endShutdown now).Holds number task
      (if number ∈ service.registry.entries.map Prod.snd then swept now job else job) := by
  rw [JobService.endShutdown, if_pos settled]
  have left := Holds.foldl id (swept now) (fun holds => holds.setJob _)
    (fun apart holds => holds.setJob_ne apart _) (fun _ => rfl) (swept_swept now)
    (service.registry.entries.map Prod.snd) holds
  rw [id_eq, ite_self] at left
  exact left.of_eq rfl rfl

/-! ## Every step gives every job a turn -/

/-- A step that does not concern a job may leave it and its task as they are. -/
theorem Turn.idle (apart : step.concerns number = false) : Turn number task job step task job :=
  .rest apart .inl fun _ asked => asked

theorem Holds.start_turn (holds : service.Holds number task job) {other : Nat}
    (created : service.stage other = .created) (now : Moment) :
    ∃ later after, (service.start now other).Holds number later after ∧
      Turn number task job (.start now other) later after := by
  by_cases same : other = number
  · subst same
    rw [JobService.start, if_pos created, holds.isStopping]
    cases stopping : task.stopping with
    | true => exact ⟨_, _, holds.setTask _, .skip (holds.stage ▸ created) stopping⟩
    | false => exact ⟨_, _, (holds.setJob _).setTask _, .start (holds.stage ▸ created) stopping⟩
  · exact ⟨task, job, holds.start_ne same now, .idle (by simp [ServiceStep.concerns, same])⟩

theorem Holds.emit_turn (holds : service.Holds number task job) {other : Nat} {teller : Job}
    (there : service.registry.records[other]? = some teller) (started : teller.startedAt.isSome)
    (now : Moment) (phase : Phase) (message : String) (data : Option Json) :
    ∃ later after, (service.emit now other phase message data).Holds number later after ∧
      Turn number task job (.emit now other phase message data) later after := by
  cases plain : phase.isTerminal with
  | true =>
    rw [JobService.emit, if_pos plain]
    exact ⟨task, job, holds, .idle (by simp [ServiceStep.concerns, plain])⟩
  | false =>
    rw [JobService.emit, if_neg (by simp [plain])]
    by_cases same : other = number
    · subst same
      obtain rfl : teller = job := Option.some.inj (there.symm.trans holds.job)
      exact ⟨task, _, holds.setJob _, .tell started plain⟩
    · exact ⟨task, job, holds.setJob_ne same _, .idle (by simp [ServiceStep.concerns, same])⟩

theorem Holds.endTask_turn (holds : service.Holds number task job) {other : Nat}
    (started : service.stage other = .started) {change : Job → Job}
    (concerns : step.concerns number = (other == number))
    (turn : other = number → task.stage = .started →
      Turn number task job step { task with stage := .ended } (change job)) :
    ∃ later after, (service.endTask other change).Holds number later after ∧
      Turn number task job step later after := by
  by_cases same : other = number
  · subst same
    have started : task.stage = .started := holds.stage ▸ started
    exact ⟨_, _, holds.endTask started change, turn rfl started⟩
  · exact ⟨task, job, holds.endTask_ne same change, .idle (by simp [concerns, same])⟩

theorem Holds.sweep_turn (holds : service.Holds number task job) (settled : service.isSettled = true)
    (now : Moment) :
    ∃ later after, (service.endShutdown now).Holds number later after ∧
      Turn number task job (.endShutdown now) later after := by
  have ended := holds.endShutdown settled now
  split at ended
  · cases going : job.isTerminal with
    | true =>
      rw [swept, if_pos going] at ended
      exact ⟨task, job, ended, .idle rfl⟩
    | false =>
      rw [swept, if_neg (by simp [going])] at ended
      exact ⟨task, _, ended, .sweep going⟩
  · exact ⟨task, job, ended, .idle rfl⟩

/-- Every step gives every job and its task a turn. -/
theorem Holds.turn (holds : service.Holds number task job) (allowed : service.Allows step) :
    ∃ later after, (service.after step).Holds number later after ∧
      Turn number task job step later after := by
  cases step with
  | submit now kind => exact ⟨task, job, holds.submit now kind, .idle rfl⟩
  | start now other => exact holds.start_turn allowed now
  | emit now other phase message data =>
    obtain ⟨teller, there, started⟩ := allowed
    exact holds.emit_turn there started now phase message data
  | complete now other result =>
    exact holds.endTask_turn allowed rfl fun same started => same ▸ .complete started
  | fail now other fault =>
    exact holds.endTask_turn allowed rfl fun same started => same ▸ .fail started
  | cancel now other =>
    exact holds.endTask_turn allowed rfl fun same started => same ▸ .cancel started
  | stop other =>
    by_cases same : other = number
    · subst same
      have asks : (ServiceStep.stop other).asksToStop other = true := by simp [ServiceStep.asksToStop]
      exact ⟨_, _, holds.setTask _, .rest rfl (fun _ => .inr asks) fun _ _ => rfl⟩
    · exact ⟨task, job, holds.setTask_ne same _, .idle rfl⟩
  | interrupt other =>
    by_cases same : other = number
    · subst same
      have started : task.stage = .started := holds.stage ▸ allowed
      exact ⟨_, _, holds.setTask _, .rest rfl nofun fun created _ => by simp [started] at created⟩
    · exact ⟨task, job, holds.setTask_ne same _, .idle rfl⟩
  | subscribe id =>
    obtain ⟨observers, holds⟩ := holds.subscribe id
    exact ⟨task, _, holds, .rest rfl .inl fun _ asked => asked⟩
  | unsubscribe id subscription =>
    obtain ⟨observers, holds⟩ := holds.unsubscribe id subscription
    exact ⟨task, _, holds, .rest rfl .inl fun _ asked => asked⟩
  | next subscription =>
    obtain ⟨observers, holds⟩ := holds.next subscription
    exact ⟨task, _, holds, .rest rfl .inl fun _ asked => asked⟩
  | drain subscription =>
    obtain ⟨observers, holds⟩ := holds.drain subscription
    exact ⟨task, _, holds, .rest rfl .inl fun _ asked => asked⟩
  | query now ids => exact ⟨task, job, holds.query now ids, .idle rfl⟩
  | beginShutdown =>
    obtain ⟨stopping, kept, holds⟩ := holds.beginShutdown
    exact ⟨_, job, holds, .rest rfl (fun _ => .inr rfl) fun _ => kept⟩
  | endShutdown now => exact holds.sweep_turn allowed now

end Montage.JobService
