import Montage.Proofs.Job.Filing

/-! # What a shutdown leaves behind

The end of a shutdown ends every job that can be found. Whether anything happens to a job afterwards
depends on its task alone: a task that has ended, or that was asked to stop before its start, does
nothing more, and any other one can still start its job or end it anew. No such task is left if nobody
submitted a job while the shutdown waited.
-/

namespace Montage

/-- A task that does nothing more: it has ended, or was asked to stop before its start. -/
def Task.IsSpent (task : Task) : Prop :=
  task.stage = .ended ∨ task.stage = .created ∧ task.stopping = true

instance (task : Task) : Decidable task.IsSpent :=
  inferInstanceAs (Decidable (task.stage = .ended ∨ task.stage = .created ∧ task.stopping = true))

namespace Registry

variable {registry : Registry} {number : Nat}

/-- Whether a number can be found by an id. -/
def Finds (registry : Registry) (number : Nat) : Prop := number ∈ registry.entries.map Prod.snd

instance (registry : Registry) (number : Nat) : Decidable (registry.Finds number) :=
  inferInstanceAs (Decidable (number ∈ registry.entries.map Prod.snd))

theorem mem_of_reap {now : Binary64} {entry : String × Nat}
    (member : entry ∈ (registry.reap now).1.entries) : entry ∈ registry.entries :=
  (mem_foldl_remove.mp member).1

theorem mem_of_releaseIfDone {released : Job} {entry : String × Nat}
    (member : entry ∈ (registry.releaseIfDone released).entries) : entry ∈ registry.entries := by
  unfold Registry.releaseIfDone at member
  split at member
  · exact (List.mem_filter.mp member).1
  · exact member

end Registry

namespace JobService

variable {service later : JobService} {step : ServiceStep} {number : Nat} {task other : Task}
  {job next : Job}

/-- An entry after a step was there before, or is that of the job submitted by the step. -/
theorem entry_before {entry : String × Nat} (member : entry ∈ (service.after step).registry.entries) :
    entry ∈ service.registry.entries ∨
      step.isSubmission = true ∧
        entry = (idOf service.registry.records.length, service.registry.records.length) := by
  by_cases near : step.isLocal = true
  · exact .inl (by rwa [(keeps_after near).entries] at member)
  · cases step with
    | submit now kind =>
      have records := Registry.reap_records service.registry now.seconds
      refine (Entries.mem_of_mem_set member).imp Registry.mem_of_reap fun same => ⟨rfl, ?_⟩
      rw [same, records]
      rfl
    | unsubscribe id subscription =>
      left
      obtain ⟨registry, detached, released⟩ := service.unsubscribe_cases id subscription
      have left : entry ∈ registry.entries := by
        rw [JobService.after] at member
        rcases released with same | ⟨_, _, _, same⟩
        · rwa [same] at member
        · rw [same] at member
          exact Registry.mem_of_releaseIfDone member
      rcases detached with rfl | ⟨_, rfl⟩
      · exact left
      · exact left
    | query now ids => exact .inl (Registry.mem_of_reap member)
    | beginShutdown => exact .inl (by rwa [JobService.after, registry_beginShutdown] at member)
    | endShutdown now => exact .inl (by rwa [JobService.after, entries_endShutdown] at member)
    | _ => exact absurd rfl near

/-- What can be found after a step could be found before, or was submitted by it. -/
theorem finds_before (finds : (service.after step).registry.Finds number) :
    service.registry.Finds number ∨ number = service.registry.records.length := by
  obtain ⟨entry, member, rfl⟩ := List.mem_map.mp finds
  rcases entry_before member with old | ⟨-, rfl⟩
  · exact .inl (List.mem_map_of_mem old)
  · exact .inr rfl

/-- A spent task stays spent. -/
theorem Turn.spent (turn : Turn number task job step other next) (spent : task.IsSpent) :
    other.IsSpent := by
  cases turn with
  | start created going =>
    rcases spent with ended | ⟨-, stopping⟩
    · simp [created] at ended
    · simp [going] at stopping
  | skip | complete | fail | cancel => exact .inl rfl
  | tell | sweep => exact spent
  | rest apart asked remembers =>
    exact spent.imp id fun waiting => ⟨waiting.1, remembers waiting.1 waiting.2⟩

/-- What becomes of a job whose task is spent: nothing, or its end with a shutdown. -/
theorem Turn.outcome (turn : Turn number task job step other next) (spent : task.IsSpent) :
    next.state = job.state ∧ next.result = job.result ∨
      ∃ now, step = .endShutdown now ∧ job.isTerminal = false := by
  cases turn with
  | start created going =>
    rcases spent with ended | ⟨-, stopping⟩
    · simp [created] at ended
    · simp [going] at stopping
  | complete started | fail started | cancel started =>
    rcases spent with ended | ⟨created, -⟩
    · simp [started] at ended
    · simp [started] at created
  | skip | tell | rest => exact .inl ⟨rfl, rfl⟩
  | sweep left => exact .inr ⟨_, rfl, left⟩

/-- A job that nothing happens to any more: its task is spent, and no shutdown will end it. -/
structure IsQuiet (service : JobService) (number : Nat) (task : Task) (job : Job) : Prop where
  holds : service.Holds number task job
  spent : task.IsSpent
  ended : service.registry.Finds number → job.isTerminal = true

/-- A step leaves a quiet job quiet, and its state and result as they are. -/
theorem IsQuiet.after (quiet : service.IsQuiet number task job) (allowed : service.Allows step) :
    ∃ other next, (service.after step).IsQuiet number other next ∧ next.state = job.state ∧
      next.result = job.result := by
  obtain ⟨other, next, turned, turn⟩ := quiet.holds.turn allowed
  have same : next.state = job.state ∧ next.result = job.result := by
    rcases turn.outcome quiet.spent with same | ⟨now, rfl, left⟩
    · exact same
    · have lost : ¬service.registry.Finds number := fun finds => by simp [quiet.ended finds] at left
      have swept := quiet.holds.endShutdown allowed now
      rw [if_neg (by exact lost)] at swept
      obtain ⟨-, rfl⟩ := swept.unique turned
      exact ⟨rfl, rfl⟩
  refine ⟨other, next, ⟨turned, turn.spent quiet.spent, fun finds => ?_⟩, same⟩
  have bound := (List.getElem?_eq_some_iff.mp quiet.holds.job).1
  have found := (finds_before finds).resolve_right (Nat.ne_of_lt bound)
  rw [Job.isTerminal, same.1]
  exact quiet.ended found

/-- Nothing happens to a quiet job in any run. -/
theorem Run.isQuiet {more : List ServiceStep} (run : Run Allows service more later)
    (quiet : service.IsQuiet number task job) :
    ∃ other next, later.IsQuiet number other next ∧ next.state = job.state ∧
      next.result = job.result := by
  induction run with
  | nil => exact ⟨task, job, quiet, rfl, rfl⟩
  | snoc run step allowed ih =>
    obtain ⟨other, middle, quiet, state, result⟩ := ih
    obtain ⟨last, next, quiet, same, also⟩ := quiet.after allowed
    exact ⟨last, next, quiet, same.trans state, also.trans result⟩

/-! ## The barrier -/

/-- Between two points of a run, a job does not start and keeps its state and its result. -/
structure KeepsOutcome (service later : JobService) (number : Nat) : Prop where
  idle : later.stage number = .started → service.stage number = .started
  same : ∀ job, service.registry.records[number]? = some job →
    ∃ next, later.registry.records[number]? = some next ∧ next.state = job.state ∧
      next.result = job.result

theorem Run.keepsOutcome {more : List ServiceStep} (run : Run Allows service more later)
    (quiet : service.IsQuiet number task job) : service.KeepsOutcome later number := by
  obtain ⟨other, next, still, same⟩ := run.isQuiet quiet
  constructor
  · intro started
    rw [still.holds.stage] at started
    rcases still.spent with ended | ⟨created, -⟩
    · simp [started] at ended
    · simp [started] at created
  · intro found here
    obtain rfl := Option.some.inj (quiet.holds.job.symm.trans here)
    exact ⟨next, still.holds.job, same⟩

/-- A task that is not spent can still start its job, or end it with a result of its own. -/
theorem Holds.acts (holds : service.Holds number task job) (unspent : ¬task.IsSpent) :
    ∃ more later, Run Allows service more later ∧ ¬service.KeepsOutcome later number := by
  cases stage : task.stage with
  | ended => exact absurd (.inl stage) unspent
  | created =>
    have going : task.stopping = false := Bool.eq_false_iff.mpr fun asked => unspent (.inr ⟨stage, asked⟩)
    have created := holds.stage.trans stage
    refine ⟨[.start {} number], _, Run.nil.snoc (.start {} number) created, fun keeps => ?_⟩
    have started : (service.after (.start {} number)).stage number = .started := by
      rw [JobService.after, JobService.start, if_pos created, holds.isStopping, going,
        if_neg Bool.false_ne_true]
      exact ((holds.setJob _).setTask _).stage
    simp [keeps.idle started] at created
  | started =>
    obtain ⟨result, different⟩ : ∃ result, job.result ≠ some result := by
      by_cases empty : job.result = some .null
      · exact ⟨.bool true, by simp [empty]⟩
      · exact ⟨.null, empty⟩
    have started := holds.stage.trans stage
    refine ⟨[.complete {} number result], _, Run.nil.snoc (.complete {} number result) started,
      fun keeps => ?_⟩
    obtain ⟨next, there, -, same⟩ := keeps.same job holds.job
    have ended := (holds.endTask stage fun job => job.complete {} result).job
    obtain rfl := Option.some.inj (ended.symm.trans there)
    exact different same.symm

/-- A job that can be found after the end of a shutdown has ended. -/
theorem IsPaired.ended_of_finds (paired : service.IsPaired) {now : Moment}
    (settled : service.Allows (.endShutdown now))
    (holds : (service.after (.endShutdown now)).Holds number task job)
    (finds : (service.after (.endShutdown now)).registry.Finds number) : job.isTerminal = true := by
  rcases holds.origin paired settled with ⟨_, before, held, -⟩ | ⟨_, _, submitted, -⟩
  · have swept := held.endShutdown settled now
    rw [if_pos (entries_endShutdown service now ▸ finds)] at swept
    obtain ⟨-, rfl⟩ := swept.unique holds
    rw [JobService.swept]
    split
    · assumption
    · rfl
  · contradiction

/-- Whether a shutdown waits for all tasks that have not ended. -/
def Covers (service : JobService) : Prop :=
  ∀ numbers, service.awaited = some numbers →
    ∀ number, service.stage number ≠ .ended → number ∈ numbers

/-- Only a submission adds a task that a shutdown does not wait for. -/
theorem Covers.after (covers : service.Covers) (paired : service.IsPaired)
    (allowed : service.Allows step) (calm : step.isSubmission = false) :
    (service.after step).Covers := by
  intro numbers awaits number live
  have before := (paired.live allowed live).resolve_right (by simp [calm])
  rcases awaited_after allowed awaits with kept | ⟨-, rfl⟩
  · exact covers numbers kept number before
  · exact mem_liveTasks before

theorem IsPaired.covers_beginShutdown (paired : service.IsPaired) :
    (service.after .beginShutdown).Covers := by
  intro numbers awaits number live
  obtain rfl := Option.some.inj awaits
  have allowed : service.Allows .beginShutdown := trivial
  exact mem_liveTasks ((paired.live allowed live).resolve_right Bool.false_ne_true)

theorem Run.isPaired {first : JobService} {past : List ServiceStep}
    (run : Run Allows first past service) (paired : first.IsPaired) : service.IsPaired := by
  induction run with
  | nil => exact paired
  | snoc run step _ ih => exact ih.after step

/-- A shutdown during which nobody submits a job waits for all tasks. -/
theorem Run.covers {first : JobService} {past before during : List ServiceStep}
    (run : Run Allows first past service) (paired : first.IsPaired)
    (shape : past = before ++ .beginShutdown :: during)
    (calm : ∀ step ∈ during, step.isSubmission = false) : service.Covers := by
  induction run generalizing during with
  | nil => simp at shape
  | @snoc past middle run step allowed ih =>
    have paired := run.isPaired paired
    rcases List.eq_nil_or_concat during with rfl | ⟨rest, last, rfl⟩
    · obtain rfl := List.singleton_inj.mp (List.append_inj' shape rfl).2
      exact paired.covers_beginShutdown
    · rw [List.concat_eq_append, ← List.cons_append, ← List.append_assoc] at shape
      obtain ⟨earlier, same⟩ := List.append_inj' shape rfl
      obtain rfl := List.singleton_inj.mp same
      have covers := ih earlier fun other member => calm other (by simp [member])
      exact covers.after paired allowed (calm step (by simp))

/-- The end of a shutdown ends every job that can be found. Afterwards no step of any run starts a job
that is there or changes its state or its result exactly if all tasks are spent, and they are if nobody
submitted a job since the shutdown began. -/
theorem Run.barrier {capacity : Int} {retention : Binary64} {past : List ServiceStep}
    (run : Run Allows (fresh capacity retention) past service) {now : Moment}
    (settled : service.Allows (.endShutdown now)) :
    (∀ entry ∈ (service.after (.endShutdown now)).registry.found, entry.2.isTerminal = true) ∧
    ((∀ task ∈ (service.after (.endShutdown now)).tasks, task.IsSpent) ↔
      ∀ more later, Run Allows (service.after (.endShutdown now)) more later →
        ∀ number < (service.after (.endShutdown now)).tasks.length,
          (service.after (.endShutdown now)).KeepsOutcome later number) ∧
    ∀ before during, past = before ++ .beginShutdown :: during →
      (∀ step ∈ during, step.isSubmission = false) →
      ∀ task ∈ (service.after (.endShutdown now)).tasks, task.IsSpent := by
  have paired : service.IsPaired := run.isPaired rfl
  have after := paired.after (.endShutdown now)
  refine ⟨?_, ⟨?_, ?_⟩, ?_⟩
  · intro entry member
    obtain ⟨⟨id, number⟩, filed, found⟩ := List.mem_filterMap.mp member
    obtain ⟨job, here, rfl⟩ := Option.map_eq_some_iff.mp found
    obtain ⟨task, holds⟩ := after.holds here
    exact paired.ended_of_finds settled holds (List.mem_map_of_mem filed)
  · intro spent more later run number bound
    obtain ⟨task, holds⟩ := after.holds (List.getElem?_eq_getElem (after ▸ bound))
    have quiet : (service.after (.endShutdown now)).IsQuiet number task _ :=
      ⟨holds, spent task (List.mem_of_getElem? holds.task), paired.ended_of_finds settled holds⟩
    exact run.keepsOutcome quiet
  · intro kept task member
    obtain ⟨number, bound, here⟩ := List.mem_iff_getElem.mp member
    obtain ⟨found, holds⟩ := after.holds (List.getElem?_eq_getElem (after ▸ bound))
    obtain rfl : task = found :=
      Option.some.inj ((here ▸ List.getElem?_eq_getElem bound).symm.trans holds.task)
    apply Decidable.byContradiction
    intro unspent
    obtain ⟨more, later, run, changed⟩ := holds.acts unspent
    exact changed (kept more later run number bound)
  · intro before during shape calm task member
    obtain ⟨number, bound, rfl⟩ := List.mem_iff_getElem.mp member
    obtain ⟨found, holds⟩ := after.holds (List.getElem?_eq_getElem (after ▸ bound))
    obtain rfl := Option.some.inj (holds.task.symm.trans (List.getElem?_eq_getElem bound))
    rcases holds.origin paired settled with ⟨earlier, _, held, turn⟩ | ⟨_, _, submitted, -⟩
    · have covers : service.Covers := run.covers rfl shape calm
      have ended : earlier.stage = .ended :=
        held.stage ▸ stage_of_settled (covers _) settled number
      exact turn.spent (.inl ended)
    · contradiction

/-- A run in which a job is submitted while a shutdown waits for another one. -/
def lateJob : List ServiceStep :=
  [.submit {} .compose, .start {} 0, .beginShutdown, .submit {} .compressImage, .cancel {} 0]

theorem lateJob_run : Run Allows (fresh 256 3600) lateJob (lateJob.foldl after (fresh 256 3600)) := by
  have start : Run Allows (fresh 256 3600) [] (fresh 256 3600) := .nil
  have one := start.snoc (.submit {} .compose) trivial
  have started := one.snoc (.start {} 0) rfl
  have stopping := started.snoc .beginShutdown trivial
  have late := stopping.snoc (.submit {} .compressImage) trivial
  exact late.snoc (.cancel {} 0) rfl

/-- The shutdown ends both jobs, but something can still happen to them. -/
theorem lateJob_barrier :
    ∃ service, Run Allows (fresh 256 3600) lateJob service ∧ service.Allows (.endShutdown {}) ∧
      (∀ entry ∈ (service.after (.endShutdown {})).registry.found, entry.2.isTerminal = true) ∧
      ¬∀ more later, Run Allows (service.after (.endShutdown {})) more later →
        ∀ number < (service.after (.endShutdown {})).tasks.length,
          (service.after (.endShutdown {})).KeepsOutcome later number := by
  have settled : (lateJob.foldl after (fresh 256 3600)).Allows (.endShutdown {}) := rfl
  obtain ⟨ended, quiet, -⟩ := lateJob_run.barrier settled
  refine ⟨_, lateJob_run, settled, ended, fun kept => ?_⟩
  have unspent : ¬∀ task ∈ ((lateJob.foldl after (fresh 256 3600)).after (.endShutdown {})).tasks,
      task.IsSpent := by decide +kernel
  exact unspent (quiet.mpr kept)

/-- The job that came late has failed when the shutdown ends, then starts all the same, and is
completed. -/
theorem lateJob_revives :
    ∃ service later, Run Allows (fresh 256 3600) (lateJob ++ [.endShutdown {}]) service ∧
      service.registry.records.map Job.state = [.failed, .failed] ∧
      Run Allows service [.start {} 1, .complete {} 1 (.str "out.jpg")] later ∧
      later.registry.records.map Job.state = [.failed, .completed] ∧
      later.registry.records.map Job.result = [none, some (.str "out.jpg")] := by
  have ended := lateJob_run.snoc (.endShutdown {}) rfl
  have swept : Run Allows ((lateJob.foldl after (fresh 256 3600)).after (.endShutdown {})) [] _ := .nil
  have started := swept.snoc (.start {} 1) rfl
  have completed := started.snoc (.complete {} 1 (.str "out.jpg")) rfl
  exact ⟨_, _, ended, rfl, completed, rfl, rfl⟩

end JobService

end Montage
