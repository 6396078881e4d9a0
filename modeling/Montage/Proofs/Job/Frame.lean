import Montage.Proofs.Job.Turn

/-! # What steps leave alone

Most steps neither add nor remove a job, neither file nor release an entry, and do not matter to a
shutdown. Only submissions add jobs, and they number them in order, so the origin of every job is either
an older turn or its own submission.
-/

namespace Montage

/-- Whether a step leaves alone which jobs there are and can be found, and what a shutdown waits for. -/
def ServiceStep.isLocal : ServiceStep → Bool
  | .submit .. | .unsubscribe .. | .query .. | .beginShutdown | .endShutdown _ => false
  | _ => true

namespace JobService

variable {service later : JobService} {step : ServiceStep} {number : Nat} {task : Task} {job : Job}

/-- A later service with the same jobs, the same entries and the same shutdown. -/
structure Keeps (service later : JobService) : Prop where
  tasks : later.tasks.length = service.tasks.length
  records : later.registry.records.length = service.registry.records.length
  entries : later.registry.entries = service.registry.entries
  awaited : later.awaited = service.awaited

theorem Keeps.refl (service : JobService) : service.Keeps service := ⟨rfl, rfl, rfl, rfl⟩

theorem Keeps.trans {middle : JobService} (first : service.Keeps middle) (second : middle.Keeps later) :
    service.Keeps later :=
  ⟨second.tasks.trans first.tasks, second.records.trans first.records,
    second.entries.trans first.entries, second.awaited.trans first.awaited⟩

theorem keeps_setTask (service : JobService) (number : Nat) (change : Task → Task) :
    service.Keeps (service.setTask number change) :=
  ⟨List.length_modify _ _ _, rfl, rfl, rfl⟩

theorem keeps_setJob (service : JobService) (number : Nat) (change : Job → Job) :
    service.Keeps (service.setJob number change) :=
  ⟨rfl, List.length_modify _ _ _, rfl, rfl⟩

theorem keeps_foldl {act : JobService → Nat → JobService}
    (keeps : ∀ service number, Keeps service (act service number)) (numbers : List Nat)
    (service : JobService) : service.Keeps (numbers.foldl act service) := by
  induction numbers generalizing service with
  | nil => exact .refl service
  | cons number rest ih => exact (keeps service number).trans (ih _)

theorem keeps_endTask (service : JobService) (number : Nat) (change : Job → Job) :
    service.Keeps (service.endTask number change) := by
  unfold endTask
  split
  · exact (keeps_setJob service number change).trans (keeps_setTask _ _ _)
  · exact .refl service

theorem keeps_start (service : JobService) (now : Moment) (number : Nat) :
    service.Keeps (service.start now number) := by
  unfold start
  split
  · split
    · exact keeps_setTask service number _
    · exact (keeps_setJob service number _).trans (keeps_setTask _ _ _)
  · exact .refl service

theorem keeps_subscribe (service : JobService) (id : String) :
    service.Keeps (service.after (.subscribe id)) := by
  simp only [after, subscribe]
  cases service.registry.number? id with
  | none => exact .refl service
  | some number => exact keeps_setJob service number _

/-- A local step keeps the service but for one job and its task. -/
theorem keeps_after (near : step.isLocal = true) : service.Keeps (service.after step) := by
  cases step with
  | submit | unsubscribe | query | beginShutdown | endShutdown => contradiction
  | start now number => exact keeps_start service now number
  | emit now number phase message data =>
    simp only [after, emit]
    split
    · exact .refl service
    · exact keeps_setJob service number _
  | complete now number => exact keeps_endTask service number _
  | fail now number => exact keeps_endTask service number _
  | cancel now number => exact keeps_endTask service number _
  | stop number => exact keeps_setTask service number _
  | interrupt number => exact keeps_setTask service number _
  | subscribe id => exact keeps_subscribe service id
  | next subscription =>
    simp only [after, JobService.next]
    split
    · exact .refl service
    · exact keeps_setJob service _ _
  | drain subscription =>
    simp only [after, drain]
    split
    · exact .refl service
    · exact keeps_setJob service _ _

/-- The beginning of a shutdown matters only to what it waits for. -/
theorem keeps_beginShutdown (service : JobService) :
    service.Keeps { service.beginShutdown with awaited := service.awaited } := by
  have keeps := keeps_foldl (fun service number => keeps_setTask service number
    fun task => { task with stopping := true }) service.liveTasks service
  exact ⟨keeps.tasks, keeps.records, keeps.entries, rfl⟩

theorem keeps_endShutdown (service : JobService) (now : Moment) :
    service.Keeps { service.endShutdown now with awaited := service.awaited } := by
  unfold endShutdown
  split
  · have keeps := keeps_foldl (fun service number => keeps_setJob service number (swept now))
      (service.registry.entries.map Prod.snd) service
    exact ⟨keeps.tasks, keeps.records, keeps.entries, rfl⟩
  · exact .refl service

/-- The beginning of a shutdown leaves the registry as it is. -/
theorem registry_beginShutdown (service : JobService) :
    service.beginShutdown.registry = service.registry := by
  unfold beginShutdown
  generalize service.liveTasks = numbers
  dsimp only
  induction numbers generalizing service with
  | nil => rfl
  | cons first rest ih => exact ih (service.setTask first _)

/-- The end of a shutdown changes records but no entries. -/
theorem entries_endShutdown (service : JobService) (now : Moment) :
    (service.endShutdown now).registry.entries = service.registry.entries :=
  (keeps_endShutdown service now).entries

theorem unsubscribe_lengths (service : JobService) (id : String) (subscription : Subscription) :
    (service.unsubscribe id subscription).tasks = service.tasks ∧
      (service.unsubscribe id subscription).registry.records.length =
        service.registry.records.length ∧
      (service.unsubscribe id subscription).awaited = service.awaited := by
  obtain ⟨registry, detached, released⟩ := service.unsubscribe_cases id subscription
  have length : registry.records.length = service.registry.records.length := by
    rcases detached with rfl | ⟨number, rfl⟩
    · rfl
    · exact List.length_modify _ _ _
  rcases released with same | ⟨_, released, _, same⟩
  · rw [same]
    exact ⟨rfl, length, rfl⟩
  · rw [same]
    exact ⟨rfl, by rw [Registry.releaseIfDone_records, length], rfl⟩

theorem isSubmission_of_isLocal (near : step.isLocal = true) : step.isSubmission = false := by
  cases step with
  | submit => contradiction
  | _ => rfl

/-- Only a submission adds a task and a record, one of each. -/
theorem lengths_after (service : JobService) (step : ServiceStep) :
    (service.after step).tasks.length =
      service.tasks.length + (if step.isSubmission then 1 else 0) ∧
    (service.after step).registry.records.length =
      service.registry.records.length + (if step.isSubmission then 1 else 0) := by
  by_cases near : step.isLocal = true
  · have keeps : service.Keeps (service.after step) := keeps_after near
    rw [keeps.tasks, keeps.records, isSubmission_of_isLocal near]
    exact ⟨rfl, rfl⟩
  · cases step with
    | submit now kind =>
      simp [after, submit, Registry.add, Registry.reap_records, ServiceStep.isSubmission]
    | unsubscribe id subscription =>
      obtain ⟨tasks, records, _⟩ := service.unsubscribe_lengths id subscription
      exact ⟨congrArg List.length tasks, records⟩
    | query now ids => exact ⟨rfl, congrArg List.length (Registry.reap_records _ _)⟩
    | beginShutdown => exact ⟨(keeps_beginShutdown service).tasks, (keeps_beginShutdown service).records⟩
    | endShutdown now =>
      exact ⟨(keeps_endShutdown service now).tasks, (keeps_endShutdown service now).records⟩
    | _ => exact absurd rfl near

/-- After a step a shutdown waits for what it has waited for, or begins. -/
theorem awaited_after {numbers : List Nat} (allowed : service.Allows step)
    (awaits : (service.after step).awaited = some numbers) :
    service.awaited = some numbers ∨ step = .beginShutdown ∧ numbers = service.liveTasks := by
  by_cases near : step.isLocal = true
  · exact .inl ((keeps_after near).awaited.symm.trans awaits)
  · cases step with
    | submit now kind => exact .inl awaits
    | unsubscribe id subscription =>
      exact .inl ((service.unsubscribe_lengths id subscription).2.2.symm.trans awaits)
    | query now ids => exact .inl awaits
    | beginShutdown => exact .inr ⟨rfl, (Option.some.inj awaits).symm⟩
    | endShutdown now =>
      have settled : service.isSettled = true := allowed
      rw [after, endShutdown, if_pos settled] at awaits
      contradiction
    | _ => exact absurd rfl near

/-! ## Where jobs come from -/

/-- The id of the job with a number. -/
def idOf (number : Nat) : String := s!"job-{number + 1}"

/-- As many tasks as records. -/
def IsPaired (service : JobService) : Prop :=
  service.tasks.length = service.registry.records.length

theorem IsPaired.after (paired : service.IsPaired) (step : ServiceStep) :
    (service.after step).IsPaired := by
  obtain ⟨tasks, records⟩ := lengths_after service step
  rw [IsPaired, tasks, records, paired]

theorem Holds.unique {other : Task} {same : Job} (holds : service.Holds number task job)
    (also : service.Holds number other same) : other = task ∧ same = job :=
  ⟨Option.some.inj (also.task.symm.trans holds.task), Option.some.inj (also.job.symm.trans holds.job)⟩

theorem IsPaired.holds (paired : service.IsPaired) (here : service.registry.records[number]? = some job) :
    ∃ task, service.Holds number task job := by
  have bound := (List.getElem?_eq_some_iff.mp here).1
  have bound : number < service.tasks.length := paired.symm ▸ bound
  exact ⟨_, List.getElem?_eq_getElem bound, here⟩

/-- A submitted job gets the next number, and a task that has not started. -/
theorem IsPaired.submit (paired : service.IsPaired) (now : Moment) (kind : JobKind) :
    (service.submit now kind).1.Holds service.registry.records.length {}
      (Job.queue (idOf service.registry.records.length) kind service.capacity now) := by
  constructor
  · have count : service.registry.records.length = service.tasks.length := paired.symm
    simp [JobService.submit, count]
  · simp [JobService.submit, Registry.add, Registry.reap_records, idOf]

/-- Every job after a step had its turn in it, or was submitted by it. -/
theorem Holds.origin {after : Job} {later : Task} (paired : service.IsPaired)
    (allowed : service.Allows step) (holds : (service.after step).Holds number later after) :
    (∃ task job, service.Holds number task job ∧ Turn number task job step later after) ∨
      ∃ now kind, step = .submit now kind ∧ number = service.registry.records.length ∧ later = {} ∧
        after = Job.queue (idOf number) kind service.capacity now := by
  by_cases old : number < service.registry.records.length
  · left
    obtain ⟨task, before⟩ := paired.holds (List.getElem?_eq_getElem old)
    obtain ⟨_, _, turned, turn⟩ := before.turn allowed
    obtain ⟨rfl, rfl⟩ := turned.unique holds
    exact ⟨task, _, before, turn⟩
  · right
    have bound := (List.getElem?_eq_some_iff.mp holds.job).1
    rw [(lengths_after service step).2] at bound
    cases step with
    | submit now kind =>
      obtain rfl : number = service.registry.records.length := by
        simp only [ServiceStep.isSubmission, if_true] at bound
        omega
      obtain ⟨rfl, rfl⟩ := (paired.submit now kind).unique holds
      exact ⟨now, kind, rfl, rfl, rfl, rfl⟩
    | _ => exact absurd bound old

end JobService

end Montage
