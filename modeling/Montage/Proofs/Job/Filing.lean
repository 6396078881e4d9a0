import Montage.Proofs.Entries
import Montage.Proofs.Job.Lifecycle
import Montage.Proofs.Numeral

/-! # Jobs that can be found

Ids are never given twice, and only jobs that have ended are released. So every job that has not ended
can be found, and the end of a shutdown leaves none of them over.
-/

namespace Montage

namespace Registry

variable {registry : Registry} {number : Nat} {job : Job}

theorem mem_foldl_remove {ids : List String} {entry : String × Nat} :
    entry ∈ (ids.foldl remove registry).entries ↔ entry ∈ registry.entries ∧ entry.1 ∉ ids := by
  induction ids generalizing registry with
  | nil => simp
  | cons id rest ih =>
    rw [List.foldl_cons, ih]
    simp [remove, and_assoc]

/-- A registry whose jobs have the ids of their numbers, and that has an entry for each that goes on. -/
structure IsFiled (registry : Registry) : Prop where
  named : ∀ {number job}, registry.records[number]? = some job → job.id = JobService.idOf number
  found : ∀ {number job}, registry.records[number]? = some job → job.isTerminal = false →
    (JobService.idOf number, number) ∈ registry.entries

theorem idOf_injective : Function.Injective JobService.idOf := by
  intro a b same
  have digits : Nat.toDigits 10 (a + 1) = Nat.toDigits 10 (b + 1) := by
    simpa [JobService.idOf, String.ext_iff] using same
  exact Nat.succ.inj (toDigits_injective digits)

/-- The id of a job that has ended is not the id of one that goes on. -/
theorem IsFiled.id_ne (filed : registry.IsFiled) {other : Nat} {ended : Job}
    (there : registry.records[other]? = some ended) (terminal : ended.isTerminal = true)
    (here : registry.records[number]? = some job) (going : job.isTerminal = false) :
    JobService.idOf number ≠ ended.id := by
  rw [filed.named there]
  intro same
  obtain rfl := idOf_injective same
  obtain rfl := Option.some.inj (here.symm.trans there)
  simp [going] at terminal

/-- Expired records are removed, and they have ended. -/
theorem IsFiled.reap (filed : registry.IsFiled) (now : Binary64) : (registry.reap now).1.IsFiled where
  named here := filed.named (reap_records registry now ▸ here)
  found := by
    intro number job here going
    rw [reap_records] at here
    refine mem_foldl_remove.mpr ⟨filed.found here going, ?_⟩
    intro expired
    obtain ⟨⟨id, ended⟩, member, same⟩ := List.mem_map.mp expired
    obtain ⟨found, old⟩ := List.mem_filter.mp member
    obtain ⟨⟨_, other⟩, _, there⟩ := List.mem_filterMap.mp found
    simp only [Option.map_eq_some_iff, Prod.mk.injEq] at there
    obtain ⟨_, there, _, rfl⟩ := there
    simp only [isExpired, Bool.and_eq_true] at old
    exact filed.id_ne there old.1.1 here going same.symm

theorem IsFiled.releaseIfDone (filed : registry.IsFiled) {other : Nat} {released : Job}
    (there : registry.records[other]? = some released) : (registry.releaseIfDone released).IsFiled := by
  unfold Registry.releaseIfDone
  split
  · next done =>
    simp only [Bool.and_eq_true] at done
    refine ⟨filed.named, fun here going => ?_⟩
    have apart := filed.id_ne there done.1.1 here going
    exact List.mem_filter.mpr ⟨filed.found here going, by simpa using apart⟩
  · exact filed

theorem IsFiled.add (filed : registry.IsFiled)
    (named : job.id = JobService.idOf registry.records.length) : (registry.add job).IsFiled := by
  have cases {number : Nat} {other : Job} (here : (registry.add job).records[number]? = some other) :
      registry.records[number]? = some other ∨ number = registry.records.length ∧ other = job := by
    rw [Registry.add, List.getElem?_append] at here
    split at here
    · exact .inl here
    · rw [List.getElem?_singleton] at here
      split at here
      · exact .inr ⟨by omega, (Option.some.inj here).symm⟩
      · contradiction
  constructor
  · intro number other here
    rcases cases here with old | ⟨rfl, rfl⟩
    · exact filed.named old
    · exact named
  · intro number other here going
    rcases cases here with old | ⟨rfl, rfl⟩
    · have bound := (List.getElem?_eq_some_iff.mp old).1
      refine Entries.mem_set_of_ne (filed.found old going) ?_
      rw [named]
      exact fun same => absurd (idOf_injective same) (by omega)
    · rw [Registry.add, named]
      exact Entries.mem_set_self _ _ _

/-- Changes that keep ids and bring no job back keep the registry in order. -/
theorem IsFiled.of_records {later : Registry} (filed : registry.IsFiled)
    (entries : later.entries = registry.entries)
    (records : ∀ {number : Nat} {next : Job}, later.records[number]? = some next →
      ∃ job, registry.records[number]? = some job ∧ next.id = job.id ∧
        (next.isTerminal = false → job.isTerminal = false)) : later.IsFiled where
  named there := by
    obtain ⟨job, here, id, _⟩ := records there
    rw [id, filed.named here]
  found there going := by
    obtain ⟨job, here, _, goes⟩ := records there
    rw [entries]
    exact filed.found here (goes going)

theorem IsFiled.detach (filed : registry.IsFiled) (number index : Nat) :
    (registry.detach number index).1.IsFiled := by
  refine filed.of_records rfl fun {other next} there => ?_
  rw [Registry.detach, update, List.getElem?_modify] at there
  obtain ⟨job, here, same⟩ := Option.map_eq_some_iff.mp there
  refine ⟨job, here, ?_⟩
  split at same
  all_goals
    subst same
    exact ⟨rfl, id⟩

end Registry

namespace JobService

variable {service : JobService} {step : ServiceStep} {number : Nat} {task later : Task}
  {job next : Job}

theorem Turn.id_eq (turn : Turn number task job step later next) : next.id = job.id := by
  cases turn <;> rfl

theorem Turn.going (turn : Turn number task job step later next) (sound : IsSound task job)
    (going : next.isTerminal = false) : job.isTerminal = false := by
  apply Bool.eq_false_iff.mpr
  intro ended
  obtain ⟨observers, rfl⟩ := turn.final sound ended
  exact absurd (going.symm.trans ended) Bool.false_ne_true

/-- Every job that goes on after a step that is no submission went on before. -/
theorem IsOrderly.records_before (orderly : service.IsOrderly) (allowed : service.Allows step)
    (old : step.isSubmission = false)
    (there : (service.after step).registry.records[number]? = some next) :
    ∃ job, service.registry.records[number]? = some job ∧ next.id = job.id ∧
      (next.isTerminal = false → job.isTerminal = false) := by
  obtain ⟨later, holds⟩ := (orderly.paired.after step).holds there
  rcases holds.origin orderly.paired allowed with ⟨task, job, before, turn⟩ | ⟨now, kind, rfl, _⟩
  · exact ⟨job, before.job, turn.id_eq, turn.going (orderly.sound before)⟩
  · contradiction

theorem IsOrderly.isFiled_after (orderly : service.IsOrderly) (filed : service.registry.IsFiled)
    (allowed : service.Allows step) : (service.after step).registry.IsFiled := by
  by_cases near : step.isLocal = true
  · exact filed.of_records (keeps_after near).entries
      (orderly.records_before allowed (isSubmission_of_isLocal near))
  · cases step with
    | submit now kind => exact (filed.reap _).add rfl
    | unsubscribe id subscription =>
      obtain ⟨registry, detached, released⟩ := service.unsubscribe_cases id subscription
      have left : registry.IsFiled := by
        rcases detached with rfl | ⟨number, rfl⟩
        · exact filed
        · exact filed.detach _ _
      rw [JobService.after]
      rcases released with same | ⟨_, _, here, same⟩
      · rwa [same]
      · rw [same]
        exact left.releaseIfDone here
    | query now ids => exact filed.reap _
    | beginShutdown =>
      exact filed.of_records (keeps_beginShutdown service).entries
        (orderly.records_before allowed rfl)
    | endShutdown now =>
      exact filed.of_records (keeps_endShutdown service now).entries
        (orderly.records_before allowed rfl)
    | _ => exact absurd rfl near

/-- Every job that goes on can be found. -/
theorem Run.isFiled {first : JobService} {past : List ServiceStep}
    (run : Run AllowsCalmly first past service) (orderly : first.IsOrderly)
    (filed : first.registry.IsFiled) : service.registry.IsFiled := by
  induction run with
  | nil => exact filed
  | snoc run step allows ih => exact (run.isOrderly orderly).isFiled_after ih allows.allowed

/-- The end of a shutdown leaves no job over. -/
theorem IsOrderly.ended_after (orderly : service.IsOrderly) (filed : service.registry.IsFiled)
    {now : Moment} (allowed : service.Allows (.endShutdown now))
    (there : (service.after (.endShutdown now)).registry.records[number]? = some next) :
    next.isTerminal = true := by
  obtain ⟨job, here, _⟩ := orderly.records_before allowed rfl there
  obtain ⟨task, holds⟩ := orderly.paired.holds here
  have after := holds.endShutdown allowed now
  obtain rfl := Option.some.inj (after.job.symm.trans there)
  cases ended : job.isTerminal with
  | true => split <;> simp [swept, ended]
  | false =>
    have found := List.mem_map_of_mem (f := Prod.snd) (filed.found here ended)
    rw [if_pos found, swept, if_neg (by simp [ended])]
    rfl

end JobService

end Montage
