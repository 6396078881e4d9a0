import Mathlib.Data.List.Basic
import Montage.Proofs.Job.Attendance
import Montage.Proofs.Job.Barrier

/-! # The index of the jobs

Every entry of the registry is the id of the job that it leads to, and a job that somebody observes has
one. An entry goes in two ways only: with those of the expired jobs, whenever a job is submitted or states
are asked for, and with the last observer of a job that has ended. Nothing else happens to the entries but
that a submitted job gets one at the end.
-/

namespace Montage

namespace Registry

variable {registry : Registry} {number : Nat} {id : String} {job : Job}

/-- A registry whose entries lead to the jobs of their ids, and that has one for each job that somebody
observes. -/
structure IsIndexed (registry : Registry) : Prop where
  named : ∀ {number job}, registry.records[number]? = some job → job.id = JobService.idOf number
  keyed : ∀ {entry}, entry ∈ registry.entries →
    entry.1 = JobService.idOf entry.2 ∧ entry.2 < registry.records.length
  watched : ∀ {number job}, registry.records[number]? = some job → true ∈ job.stream.attendance →
    registry.Finds number

theorem IsIndexed.finds_iff (indexed : registry.IsIndexed) :
    registry.Finds number ↔ (JobService.idOf number, number) ∈ registry.entries := by
  constructor
  · intro finds
    obtain ⟨⟨id, number⟩, member, rfl⟩ := List.mem_map.mp finds
    exact (indexed.keyed member).1 ▸ member
  · exact fun member => List.mem_map_of_mem member

/-- An id leads to a number exactly if it is the id of that job and the job can be found. -/
theorem IsIndexed.number?_iff (indexed : registry.IsIndexed) :
    registry.number? id = some number ↔ id = JobService.idOf number ∧ registry.Finds number := by
  rw [indexed.finds_iff, number?]
  constructor
  · intro found
    obtain ⟨before, after, shape, -⟩ := List.lookup_eq_some_iff.mp found
    have member : (id, number) ∈ registry.entries := by simp [shape]
    obtain rfl : id = JobService.idOf number := (indexed.keyed member).1
    exact ⟨rfl, member⟩
  · rintro ⟨rfl, member⟩
    have some_ : (registry.entries.lookup (JobService.idOf number)).isSome :=
      List.lookup_isSome_iff.mpr ⟨_, member, beq_self_eq_true _⟩
    obtain ⟨other, found⟩ := Option.isSome_iff_exists.mp some_
    obtain ⟨before, after, shape, -⟩ := List.lookup_eq_some_iff.mp found
    have member : (JobService.idOf number, other) ∈ registry.entries := by simp [shape]
    rw [found, idOf_injective (indexed.keyed member).1]

theorem IsIndexed.record (indexed : registry.IsIndexed) (finds : registry.Finds number) :
    ∃ job, registry.records[number]? = some job := by
  have bound := (indexed.keyed (indexed.finds_iff.mp finds)).2
  exact ⟨_, List.getElem?_eq_getElem bound⟩

theorem mem_found : (id, job) ∈ registry.found ↔
    ∃ number, (id, number) ∈ registry.entries ∧ registry.records[number]? = some job := by
  simp [found]

/-! ## Expired jobs -/

theorem foldl_remove_entries (ids : List String) (registry : Registry) :
    (ids.foldl remove registry).entries =
      registry.entries.filter fun entry => !ids.contains entry.1 := by
  induction ids generalizing registry with
  | nil => exact (List.filter_true _).symm
  | cons id rest ih =>
    rw [List.foldl_cons, ih, remove, List.filter_filter]
    refine List.filter_congr fun entry _ => ?_
    rw [List.contains_cons, Bool.not_or, Bool.and_comm]
    rfl

/-- Whether the job of a number has expired. -/
def hasExpired (registry : Registry) (now : Binary64) (number : Nat) : Bool :=
  (registry.records[number]?).any (isExpired registry.retention now)

/-- Exactly the entries of expired jobs are removed. -/
theorem IsIndexed.reap_entries (indexed : registry.IsIndexed) (now : Binary64) :
    (registry.reap now).1.entries =
      registry.entries.filter fun entry => !registry.hasExpired now entry.2 := by
  rw [reap, foldl_remove_entries]
  refine List.filter_congr fun entry member => congrArg (! ·) ?_
  obtain ⟨id, number⟩ := entry
  obtain rfl : id = JobService.idOf number := (indexed.keyed member).1
  rw [Bool.eq_iff_iff, List.contains_iff_mem, hasExpired, Option.any_eq_true, List.mem_map]
  constructor
  · rintro ⟨⟨other, job⟩, expired, same⟩
    obtain ⟨found, old⟩ := List.mem_filter.mp expired
    obtain ⟨place, -, there⟩ := mem_found.mp found
    obtain rfl := idOf_injective ((indexed.named there).symm.trans same)
    exact ⟨job, there, old⟩
  · rintro ⟨job, here, old⟩
    have found := mem_found.mpr ⟨number, member, here⟩
    exact ⟨_, List.mem_filter.mpr ⟨found, old⟩, indexed.named here⟩

/-- What can be found when the expired jobs have been removed: all others, as they were. -/
theorem IsIndexed.reap_found (indexed : registry.IsIndexed) (now : Binary64) :
    (registry.reap now).1.found =
      registry.found.filter fun entry => !isExpired registry.retention now entry.2 := by
  rw [found, indexed.reap_entries, reap_records, List.filterMap_filter, found, List.filter_filterMap]
  refine List.filterMap_congr fun entry member => ?_
  have here := List.getElem?_eq_getElem (indexed.keyed member).2
  simp only [hasExpired, here, Option.any_some, Option.map_some, Option.filter_some]

/-! ## New jobs -/

/-- The entry of a new job stands at the end. -/
theorem IsIndexed.add_entries (indexed : registry.IsIndexed)
    (named : job.id = JobService.idOf registry.records.length) :
    (registry.add job).entries = registry.entries ++ [(job.id, registry.records.length)] := by
  refine Entries.set_of_absent fun entry member same => ?_
  obtain ⟨keyed, bound⟩ := indexed.keyed member
  have same : entry.2 = registry.records.length := idOf_injective (keyed ▸ same.trans named)
  omega

theorem IsIndexed.add_found (indexed : registry.IsIndexed)
    (named : job.id = JobService.idOf registry.records.length) :
    (registry.add job).found = registry.found ++ [(job.id, job)] := by
  rw [found, indexed.add_entries named, List.filterMap_append]
  congr 1
  · refine List.filterMap_congr fun entry member => ?_
    have bound := (indexed.keyed member).2
    simp only [add, List.getElem?_append_left bound]
  · simp [add]

theorem IsIndexed.finds_add (indexed : registry.IsIndexed)
    (named : job.id = JobService.idOf registry.records.length) :
    (registry.add job).Finds number ↔ registry.Finds number ∨ number = registry.records.length := by
  simp [Finds, indexed.add_entries named]

/-! ## Removals -/

theorem isExpired_iff {retention now : Binary64} : isExpired retention now job = true ↔
    job.isTerminal = true ∧ job.stream.observerCount = 0 ∧
      ∃ finished, job.finishedAt = some finished ∧ retention.le (now - finished) = true := by
  rw [isExpired, Bool.and_eq_true, Bool.and_eq_true, beq_iff_eq, and_assoc]
  cases job.finishedAt <;> simp

/-- A job that can no longer be found when the expired ones have been removed has expired. -/
theorem IsIndexed.lost_reap (indexed : registry.IsIndexed) {now : Binary64}
    (finds : registry.Finds number) (lost : ¬(registry.reap now).1.Finds number) :
    ∃ job, registry.records[number]? = some job ∧ job.isTerminal = true ∧
      job.stream.observerCount = 0 ∧ ∃ finished, job.finishedAt = some finished ∧
        registry.retention.le (now - finished) = true := by
  have expired : registry.hasExpired now number = true := by
    apply Decidable.byContradiction
    intro fresh
    refine lost (List.mem_map_of_mem (a := (JobService.idOf number, number)) ?_)
    rw [indexed.reap_entries]
    exact List.mem_filter.mpr ⟨indexed.finds_iff.mp finds, by simpa using fresh⟩
  obtain ⟨job, here, old⟩ := (Option.any_eq_true ..).mp expired
  exact ⟨job, here, isExpired_iff.mp old⟩

theorem IsIndexed.reap (indexed : registry.IsIndexed) (now : Binary64) :
    (registry.reap now).1.IsIndexed where
  named here := indexed.named (reap_records registry now ▸ here)
  keyed member := by
    rw [reap_records]
    exact indexed.keyed (mem_of_reap member)
  watched := by
    intro number job here attended
    rw [reap_records] at here
    apply Decidable.byContradiction
    intro lost
    obtain ⟨found, there, -, nobody, -⟩ := indexed.lost_reap (indexed.watched here attended) lost
    obtain rfl := Option.some.inj (here.symm.trans there)
    exact Stream.observerCount_eq_zero_iff.mp nobody attended

end Registry

/-- Whether a job that was observed has ended and its last observer has left. -/
def Job.isDone (job : Job) : Bool :=
  job.isTerminal && job.stream.everObserved && job.stream.observerCount == 0

theorem Job.isDone_iff {job : Job} : job.isDone = true ↔ job.isTerminal = true ∧
    job.stream.everObserved = true ∧ job.stream.observerCount = 0 := by
  rw [isDone, Bool.and_eq_true, Bool.and_eq_true, beq_iff_eq, and_assoc]

/-- Only the entry of a job that is done is released. -/
theorem Registry.lost_releaseIfDone {registry : Registry} {entry : String × Nat} {released : Job}
    (member : entry ∈ registry.entries) (lost : entry ∉ (registry.releaseIfDone released).entries) :
    released.isDone = true ∧ released.id = entry.1 := by
  rw [Registry.releaseIfDone] at lost
  split at lost
  · next done =>
    refine ⟨done, Decidable.byContradiction fun apart => lost ?_⟩
    exact List.mem_filter.mpr ⟨member, by simpa using Ne.symm apart⟩
  · contradiction

/-- The moment at which a step has the expired jobs removed. -/
def ServiceStep.reapsAt? : ServiceStep → Option Moment
  | .submit now _ | .query now _ => some now
  | _ => none

namespace JobService

variable {service : JobService} {step : ServiceStep} {number : Nat} {next : Job}

/-- Every record after a step was there before, or was submitted by it. -/
theorem record_before (there : (service.after step).registry.records[number]? = some next) :
    (∃ job, service.registry.records[number]? = some job ∧ next.id = job.id ∧
      next.stream.attendance = service.rollCall number job.stream.attendance step) ∨
    ∃ now kind, step = .submit now kind ∧ number = service.registry.records.length ∧
      next = Job.queue (idOf number) kind service.capacity now := by
  by_cases old : number < service.registry.records.length
  · left
    obtain ⟨last, same, id, attendance⟩ := service.record_after step (List.getElem?_eq_getElem old)
    obtain rfl := Option.some.inj (there.symm.trans same)
    exact ⟨_, List.getElem?_eq_getElem old, id, attendance⟩
  · right
    have bound := (List.getElem?_eq_some_iff.mp there).1
    rw [(lengths_after service step).2] at bound
    cases step with
    | submit now kind =>
      obtain rfl : number = service.registry.records.length := by
        simp only [ServiceStep.isSubmission, if_true] at bound
        omega
      refine ⟨now, kind, rfl, rfl, ?_⟩
      simpa [after, submit, Registry.add, Registry.reap_records, idOf] using there.symm
    | _ => exact absurd bound old

/-- A job that can no longer be found after a step has ended, and nobody observes it: it has expired when
the step had such jobs removed, or it was observed and the last of its observers left. -/
theorem lost_after (indexed : service.registry.IsIndexed) (finds : service.registry.Finds number)
    (lost : ¬(service.after step).registry.Finds number) :
    ∃ job, (service.after step).registry.records[number]? = some job ∧ job.isTerminal = true ∧
      job.stream.observerCount = 0 ∧
      ((∃ now finished, step.reapsAt? = some now ∧ job.finishedAt = some finished ∧
          service.registry.retention.le (now.seconds - finished) = true) ∨
        job.stream.everObserved = true ∧ ∃ id subscription, step = .unsubscribe id subscription) := by
  by_cases near : step.isLocal = true
  · exact absurd (by rwa [Registry.Finds, (keeps_after near).entries]) lost
  · cases step with
    | submit now kind =>
      have reaped := indexed.reap now.seconds
      obtain ⟨job, here, ended, nobody, finished, at_, old⟩ := indexed.lost_reap finds fun kept =>
        lost ((reaped.finds_add rfl).mpr (.inl kept))
      refine ⟨job, ?_, ended, nobody, .inl ⟨now, finished, rfl, at_, old⟩⟩
      have bound := (List.getElem?_eq_some_iff.mp here).1
      rw [after, submit, Registry.add, Registry.reap_records]
      exact (List.getElem?_append_left bound).trans here
    | query now ids =>
      obtain ⟨job, here, ended, nobody, finished, at_, old⟩ := indexed.lost_reap finds lost
      refine ⟨job, ?_, ended, nobody, .inl ⟨now, finished, rfl, at_, old⟩⟩
      rwa [after, query, Registry.reap_records]
    | unsubscribe id subscription =>
      cases found : service.registry.number? id with
      | none =>
        refine absurd ?_ lost
        rwa [after, unsubscribe_of_lost found]
      | some other =>
        obtain ⟨job, here⟩ := indexed.record (indexed.number?_iff.mp found).2
        obtain ⟨observers, left, -⟩ := leave_record here subscription
        rw [after, unsubscribe_of_found found subscription left] at lost
        have member := indexed.finds_iff.mp finds
        rw [← leave_entries service.registry other subscription] at member
        obtain ⟨done, same⟩ := Registry.lost_releaseIfDone member
          fun kept => lost (List.mem_map_of_mem kept)
        -- only the job that was left can have gone, since no other one has its id
        obtain rfl := Registry.idOf_injective ((indexed.named here).symm.trans same)
        obtain ⟨ended, observed, nobody⟩ := Job.isDone_iff.mp done
        refine ⟨job.withObservers observers, ?_, ended, nobody, .inr ⟨observed, id, subscription, rfl⟩⟩
        rwa [after, unsubscribe_records found]
    | beginShutdown =>
      refine absurd ?_ lost
      rwa [Registry.Finds, after, registry_beginShutdown]
    | endShutdown now =>
      refine absurd ?_ lost
      rwa [Registry.Finds, after, entries_endShutdown]
    | _ => exact absurd rfl near

/-- Only those who subscribe come to a job. -/
theorem mem_rollCall {attendance : List Bool}
    (attended : true ∈ service.rollCall number attendance step) : true ∈ attendance ∨
      ∃ id, step = .subscribe id ∧ service.registry.number? id = some number := by
  cases step with
  | subscribe id =>
    rw [rollCall] at attended
    split at attended
    · next found => exact .inr ⟨id, rfl, found⟩
    · exact .inl attended
  | unsubscribe id subscription =>
    left
    rw [rollCall, absent] at attended
    split at attended
    · split at attended
      · obtain ⟨place, bound, here⟩ := List.mem_iff_getElem.mp attended
        rw [List.getElem_modify] at here
        split at here
        · contradiction
        · exact here ▸ List.getElem_mem _
      · exact attended
    · exact attended
  | _ => exact .inl attended

/-- What any step keeps. -/
theorem isIndexed_after (indexed : service.registry.IsIndexed) (step : ServiceStep) :
    (service.after step).registry.IsIndexed where
  named there := by
    rcases record_before there with ⟨job, here, id, -⟩ | ⟨_, _, _, _, rfl⟩
    · exact id.trans (indexed.named here)
    · rfl
  keyed member := by
    rw [(lengths_after service step).2]
    rcases entry_before member with old | ⟨submits, rfl⟩
    · obtain ⟨keyed, bound⟩ := indexed.keyed old
      exact ⟨keyed, Nat.lt_add_right _ bound⟩
    · rw [submits]
      exact ⟨rfl, Nat.lt_succ_self _⟩
  watched := by
    intro number next there attended
    rcases record_before there with ⟨job, here, -, attendance⟩ | ⟨_, _, _, _, rfl⟩
    · rw [attendance] at attended
      have finds : service.registry.Finds number := by
        rcases mem_rollCall attended with before | ⟨id, _, found⟩
        · exact indexed.watched here before
        · exact (indexed.number?_iff.mp found).2
      -- nothing takes a job away that somebody observes
      apply Decidable.byContradiction
      intro lost
      obtain ⟨last, same, -, nobody, -⟩ := lost_after indexed finds lost
      obtain rfl := Option.some.inj (there.symm.trans same)
      rw [Stream.observerCount_eq_zero_iff, attendance] at nobody
      exact nobody attended
    · contradiction

theorem isIndexed_fresh (capacity : Int) (retention : Binary64) :
    (fresh capacity retention).registry.IsIndexed where
  named here := by simp [fresh] at here
  keyed member := by simp [fresh] at member
  watched here := by simp [fresh] at here

/-- What a whole run keeps. -/
theorem Run.isIndexed {allows : JobService → ServiceStep → Prop} {first : JobService}
    {past : List ServiceStep} (run : Run allows first past service)
    (indexed : first.registry.IsIndexed) : service.registry.IsIndexed := by
  induction run with
  | nil => exact indexed
  | snoc run step _ ih => exact isIndexed_after ih step

end JobService

end Montage
