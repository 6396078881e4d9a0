import Montage.Proofs.Job.Index

/-! # How long jobs can be found

A job can be found until it has ended and nobody observes it any more; one that was never observed stays
until its age has reached the retention, and is then removed by the next submission or question for
states. The age is the difference of two readings of the clock and rounded as such, so it may reach the
retention a little before the clock reaches the sum of the end and the retention.
-/

namespace Montage

theorem Registry.foldl_remove_retention (ids : List String) (registry : Registry) :
    (ids.foldl remove registry).retention = registry.retention := by
  induction ids generalizing registry with
  | nil => rfl
  | cons id rest ih => exact ih (registry.remove id)

/-- A job that has ended has the time of its end. -/
def Job.IsDated (job : Job) : Prop :=
  job.isTerminal = true → ∃ finished, job.finishedAt = some finished

namespace JobService

variable {service : JobService} {step : ServiceStep} {number : Nat} {task later : Task}
  {job next : Job}

theorem Turn.isDated (turn : Turn number task job step later next) (dated : job.IsDated) :
    next.IsDated := by
  cases turn with
  | start => exact fun ended => absurd ended Bool.false_ne_true
  | skip | tell | rest => exact dated
  | complete | fail | cancel | sweep => exact fun _ => ⟨_, rfl⟩

theorem Run.isDated {first : JobService} {past : List ServiceStep}
    (run : Run Allows first past service) (paired : first.IsPaired)
    (dated : ∀ job ∈ first.registry.records, job.IsDated) :
    ∀ job ∈ service.registry.records, job.IsDated := by
  induction run with
  | nil => exact dated
  | snoc run step allowed ih =>
    have paired := run.isPaired paired
    intro next member
    obtain ⟨number, bound, rfl⟩ := List.mem_iff_getElem.mp member
    obtain ⟨later, holds⟩ := (paired.after step).holds (List.getElem?_eq_getElem bound)
    rcases holds.origin paired allowed with ⟨task, job, before, turn⟩ | ⟨_, _, _, _, _, same⟩
    · exact turn.isDated (ih job (List.mem_of_getElem? before.job))
    · rw [same]
      exact fun ended => absurd ended Bool.false_ne_true

/-- The retention stays as it was. -/
theorem retention_after (service : JobService) (step : ServiceStep) :
    (service.after step).registry.retention = service.registry.retention := by
  have ends (number : Nat) (change : Job → Job) :
      (service.endTask number change).registry.retention = service.registry.retention := by
    unfold endTask
    split <;> rfl
  have reaps (now : Binary64) :
      (service.registry.reap now).1.retention = service.registry.retention :=
    Registry.foldl_remove_retention _ _
  cases step with
  | submit now kind => exact reaps now.seconds
  | query now ids => exact reaps now.seconds
  | start now number =>
    rw [after, start]
    split
    · split <;> rfl
    · rfl
  | emit now number phase message data =>
    rw [after, emit]
    split <;> rfl
  | complete now number result => exact ends number _
  | fail now number fault => exact ends number _
  | cancel now number => exact ends number _
  | stop number | interrupt number => rfl
  | subscribe id =>
    simp only [after, subscribe]
    cases service.registry.number? id <;> rfl
  | unsubscribe id subscription =>
    obtain ⟨registry, detached, released⟩ := service.unsubscribe_cases id subscription
    have left : registry.retention = service.registry.retention := by
      rcases detached with rfl | ⟨_, rfl⟩ <;> rfl
    rcases released with same | ⟨_, job, _, same⟩
    · rw [after, same, left]
    · rw [after, same, ← left, Registry.releaseIfDone]
      split <;> rfl
  | next subscription =>
    rw [after, JobService.next]
    split <;> rfl
  | drain subscription =>
    rw [after, drain]
    split <;> rfl
  | beginShutdown => rw [after, registry_beginShutdown]
  | endShutdown now =>
    have sweeps (numbers : List Nat) (service : JobService) :
        (numbers.foldl (fun service number => service.setJob number (swept now))
          service).registry.retention = service.registry.retention := by
      induction numbers generalizing service with
      | nil => rfl
      | cons first rest ih => exact ih (service.setJob first _)
    rw [after, endShutdown]
    split
    · exact sweeps _ service
    · rfl

/-- The retention stays as it was in every run. -/
theorem Run.retention {allows : JobService → ServiceStep → Prop} {first : JobService}
    {past : List ServiceStep} (run : Run allows first past service) :
    service.registry.retention = first.registry.retention := by
  induction run with
  | nil => rfl
  | snoc run step _ ih => exact (retention_after _ step).trans ih

/-- A step takes a job out of the registry only if the job has ended and nobody observes it, and one that
was never observed only if its age has reached the retention. A submission and a question for states
remove exactly the jobs that have ended, have nobody who observes them and are that old, and leave all
others as they are. -/
theorem Run.retains {capacity : Int} {retention : Binary64} {past : List ServiceStep}
    (run : Run Allows (fresh capacity retention) past service) :
    (∀ step, service.Allows step → ∀ number, service.registry.Finds number →
      ¬(service.after step).registry.Finds number →
      ∃ job, (service.after step).registry.records[number]? = some job ∧ job.isTerminal = true ∧
        job.stream.observerCount = 0 ∧
        (job.stream.everObserved = false → ∃ now finished, step.reapsAt? = some now ∧
          job.finishedAt = some finished ∧ retention.le (now.seconds - finished) = true)) ∧
    (∀ now ids, (service.after (.query now ids)).registry.found =
      service.registry.found.filter fun entry =>
        !Registry.isExpired retention now.seconds entry.2) ∧
    (∀ now kind, (service.after (.submit now kind)).registry.found =
      (service.registry.found.filter fun entry =>
        !Registry.isExpired retention now.seconds entry.2) ++
      [(idOf service.registry.records.length,
        Job.queue (idOf service.registry.records.length) kind service.capacity now)]) ∧
    ∀ entry ∈ service.registry.found, entry.2.isTerminal = true →
      ∃ finished, entry.2.finishedAt = some finished := by
  have indexed := run.isIndexed (isIndexed_fresh capacity retention)
  have kept : service.registry.retention = retention := run.retention
  refine ⟨?_, ?_, ?_, ?_⟩
  · intro step _ number finds lost
    obtain ⟨job, here, ended, nobody, expired | ⟨observed, -⟩⟩ := lost_after indexed finds lost
    · exact ⟨job, here, ended, nobody, fun _ => kept ▸ expired⟩
    · exact ⟨job, here, ended, nobody, fun never => by simp [never] at observed⟩
  · intro now ids
    exact kept ▸ indexed.reap_found now.seconds
  · intro now kind
    have named : (Job.queue (idOf service.registry.records.length) kind service.capacity now).id =
        idOf (service.registry.reap now.seconds).1.records.length := by
      rw [Registry.reap_records]
      rfl
    have reaped := (indexed.reap now.seconds).add_found named
    rw [indexed.reap_found, kept] at reaped
    refine Eq.trans ?_ reaped
    rw [after, submit, Registry.reap_records]
    rfl
  · intro entry member
    obtain ⟨number, -, here⟩ := Registry.mem_found.mp member
    have dated : ∀ job ∈ (fresh capacity retention).registry.records, job.IsDated := by
      simp [fresh]
    exact run.isDated rfl dated entry.2 (List.mem_of_getElem? here)

/-- A job that ended at a time and that nobody ever observed. -/
def unwatched (finished : Binary64) : List ServiceStep :=
  [.submit { seconds := 1000 } .compose, .start { seconds := 1000 } 0,
    .complete { seconds := finished } 0 .null]

theorem unwatched_run (retention finished : Binary64) :
    Run Allows (fresh 256 retention) (unwatched finished)
      ((unwatched finished).foldl after (fresh 256 retention)) := by
  have start : Run Allows (fresh 256 retention) [] (fresh 256 retention) := .nil
  have queued := start.snoc (.submit { seconds := 1000 } .compose) trivial
  have started := queued.snoc (.start { seconds := 1000 } 0) rfl
  exact started.snoc (.complete { seconds := finished } 0 .null) rfl

/-- After an hour the job is removed, and then nothing can be found. -/
theorem unwatched_retains :
    ∃ service, Run Allows (fresh 256 3600) (unwatched 1000) service ∧
      service.registry.Finds 0 ∧
      (service.after (.query { seconds := 4600 } [])).registry.found.map Prod.fst = [] ∧
      ∀ entry ∈ service.registry.found, entry.2.isTerminal = true →
        ∃ finished, entry.2.finishedAt = some finished := by
  have run := unwatched_run 3600 1000
  obtain ⟨-, asked, -, dated⟩ := run.retains
  refine ⟨_, run, by decide +kernel, ?_, dated⟩
  rw [asked]
  decide +kernel

/-- A job whose age is rounded up to the retention: it is removed before the clock has reached the sum of
the end and the retention, both as a double and exactly. In units of 2 ^ -41 the age lacks one of the
retention, which is half the distance of the doubles there. -/
theorem unwatched_leaves_early :
    ∃ service job now, Run Allows (fresh 256 4100) (unwatched (.ofRat (1000 + 3 / 2199023255552))) service ∧
      service.registry.records[0]? = some job ∧ job.isTerminal = true ∧
      job.stream.everObserved = false ∧ service.registry.Finds 0 ∧
      (∃ finished, job.finishedAt = some finished ∧ now.seconds.lt (finished + 4100) = true ∧
        finished.toRat? = some (1000 + 3 / 2199023255552) ∧ now.seconds.toRat? = some (5100 + 2 / 2199023255552)) ∧
      ¬(service.after (.query now [])).registry.Finds 0 := by
  refine ⟨_, _, { seconds := .ofRat (5100 + 2 / 2199023255552) }, unwatched_run 4100 _, rfl, rfl, rfl,
    by decide +kernel, ?_, ?_⟩
  · exact ⟨_, rfl, by decide +kernel, by decide +kernel, by decide +kernel⟩
  · decide +kernel

end JobService

end Montage
