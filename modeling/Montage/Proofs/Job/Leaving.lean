import Montage.Proofs.Job.Index

/-! # Coming to a job and leaving it

An observer is attached from its coming to its leaving, and a job that has ended is released when the last
of them leaves. An observer that has left leaves nobody when it leaves again. Still, the job is released
then if it has ended without observers in the meantime, since only those who leave release a job. So
leaving again changes nothing exactly as long as the job has not ended after its last observer left.
-/

namespace Montage.JobService

variable {service later : JobService} {number : Nat} {job : Job} {id : String}
  {subscription : Subscription}

/-- An observer that comes to a job of an id is attached to it. -/
theorem subscribe_cases (indexed : service.registry.IsIndexed)
    (subscribed : service.subscribe id = .ok (later, subscription)) :
    later = service.after (.subscribe id) ∧ id = idOf subscription.number ∧
      later.seat? subscription = some true := by
  have step : later = service.after (.subscribe id) := by rw [after, subscribed]
  rw [subscribe] at subscribed
  cases found : service.registry.number? id with
  | none => simp [found] at subscribed
  | some number =>
    obtain ⟨named, finds⟩ := indexed.number?_iff.mp found
    obtain ⟨job, here⟩ := indexed.record finds
    simp only [found, Except.ok.injEq, Prod.mk.injEq] at subscribed
    obtain ⟨rfl, rfl⟩ := subscribed
    refine ⟨step, named, ?_⟩
    simp [seat?, Registry.attach, Registry.update, here, Stream.attach, Stream.attendance]

/-- An observer that is attached after a step was attached before, unless it came with the step. -/
theorem seat_before {step : ServiceStep}
    (seated : (service.after step).seat? subscription = some true) :
    service.seat? subscription = some true ∨
      ∃ id, step = .subscribe id ∧ service.subscribe id = .ok (service.after step, subscription) := by
  obtain ⟨next, there, attends⟩ := Option.bind_eq_some_iff.mp seated
  rcases record_before there with ⟨job, here, -, attendance⟩ | ⟨now, kind, _, _, rfl⟩
  · rw [attendance] at attends
    have stays (before : job.stream.attendance[subscription.index]? = some true) :
        service.seat? subscription = some true := Option.bind_eq_some_iff.mpr ⟨job, here, before⟩
    cases step with
    | subscribe id =>
      rw [rollCall] at attends
      split at attends
      · next found =>
        rw [List.getElem?_append] at attends
        split at attends
        · exact .inl (stays attends)
        · next new =>
          -- only the place after all others is taken by somebody new
          obtain ⟨bound, -⟩ := List.getElem?_eq_some_iff.mp attends
          have last : subscription.index = job.stream.observers.length := by
            simp only [Stream.attendance, List.length_map, List.length_singleton] at new bound
            omega
          refine .inr ⟨id, rfl, ?_⟩
          simp [after, subscribe, found, Registry.attach, here, Stream.attach, ← last]
      · exact .inl (stays attends)
    | unsubscribe id other =>
      refine .inl (stays ?_)
      rw [rollCall, absent] at attends
      split at attends
      · split at attends
        · rw [List.getElem?_modify] at attends
          split at attends
          · simp at attends
          · simpa using attends
        · exact attends
      · exact attends
    | _ => exact .inl (stays attends)
  · have nobody : (Job.queue (idOf subscription.number) kind service.capacity now).stream.attendance =
        [] := Stream.attendance_publish _ _
    simp [nobody] at attends

/-- Whoever comes to a job has not been there before. -/
theorem seat_of_subscribe (subscribed : service.subscribe id = .ok (later, subscription)) :
    service.seat? subscription = none := by
  rw [subscribe] at subscribed
  cases found : service.registry.number? id with
  | none => simp [found] at subscribed
  | some number =>
    simp only [found, Except.ok.injEq, Prod.mk.injEq] at subscribed
    obtain ⟨-, rfl⟩ := subscribed
    cases here : service.registry.records[number]? with
    | none => simp [seat?, here]
    | some job => simp [seat?, here, Registry.attach, Stream.attach, Stream.attendance]

/-- An observer that leaves by the id of its job has left. -/
theorem seat_of_unsubscribe (indexed : service.registry.IsIndexed) {attached : Bool}
    (seated : service.seat? subscription = some attached) :
    (service.unsubscribe (idOf subscription.number) subscription).seat? subscription = some false := by
  cases attached with
  | false => exact seat_after seated (.unsubscribe _ subscription)
  | true =>
    obtain ⟨job, here, attends⟩ := Option.bind_eq_some_iff.mp seated
    have finds := indexed.watched here (List.mem_of_getElem? attends)
    exact seat_unsubscribe seated (indexed.number?_iff.mpr ⟨rfl, finds⟩)

/-- A job that has ended cannot be found any more when the last of its observers has left. -/
theorem lost_of_unsubscribe (indexed : service.registry.IsIndexed)
    (here : (service.unsubscribe (idOf number) subscription).registry.records[number]? = some job)
    (done : job.isDone = true) :
    ¬(service.unsubscribe (idOf number) subscription).registry.Finds number := by
  intro finds
  have named := (isIndexed_after indexed (.unsubscribe (idOf number) subscription)).named here
  have member :=
    (isIndexed_after indexed (.unsubscribe (idOf number) subscription)).finds_iff.mp finds
  cases found : service.registry.number? (idOf number) with
  | none =>
    rw [unsubscribe_of_lost found] at finds
    simp [indexed.number?_iff.mpr ⟨rfl, finds⟩] at found
  | some other =>
    obtain rfl := Registry.idOf_injective (indexed.number?_iff.mp found).1
    rw [unsubscribe_records found] at here
    rw [after, unsubscribe_of_found found subscription here, Registry.releaseIfDone,
      if_pos (by exact done)] at member
    simpa [named] using (List.mem_filter.mp member).2

/-- An observer that has left a job is not there to leave it or any other one. -/
theorem leave_of_left (left : service.seat? subscription = some false) (number : Nat) :
    leave service.registry number subscription = service.registry := by
  rw [leave]
  split
  · next same =>
    obtain ⟨job, here, gone⟩ := Option.bind_eq_some_iff.mp left
    rw [same] at here
    have stays : service.registry.records.modify number (fun job =>
        { job with stream := (job.stream.detach subscription.index).1 }) = service.registry.records :=
      modify_of_fixed fun other there => by
        obtain rfl := Option.some.inj (here.symm.trans there)
        rw [Stream.detach_of_left gone]
    rw [Registry.detach, Registry.update, stays]
  · rfl

/-- When an observer leaves again, the job is released if it is done, and nothing else happens. -/
theorem unsubscribe_of_left (left : service.seat? subscription = some false)
    (found : service.job? id = some job) : service.unsubscribe id subscription =
      { service with registry := service.registry.releaseIfDone job } := by
  obtain ⟨number, at_, here⟩ := Option.bind_eq_some_iff.mp found
  have stays := leave_of_left left number
  rw [unsubscribe_of_found at_ subscription (stays.symm ▸ here), stays]

theorem unsubscribe_of_none (indexed : service.registry.IsIndexed) (lost : service.job? id = none)
    (subscription : Subscription) : service.unsubscribe id subscription = service := by
  refine unsubscribe_of_lost (Option.eq_none_iff_forall_ne_some.mpr fun number found => ?_) subscription
  obtain ⟨job, here⟩ := indexed.record (indexed.number?_iff.mp found).2
  simp [job?, Registry.get?, found, here] at lost

/-- A job that is done is not found any more when it is released. -/
theorem releaseIfDone_eq_self_iff (indexed : service.registry.IsIndexed)
    (found : service.job? id = some job) :
    service.registry.releaseIfDone job = service.registry ↔ job.isDone = false := by
  obtain ⟨number, at_, here⟩ := Option.bind_eq_some_iff.mp found
  have finds := (indexed.number?_iff.mp at_).2
  constructor
  · intro same
    apply Bool.eq_false_iff.mpr
    intro done
    have member := indexed.finds_iff.mp finds
    rw [← same, Registry.releaseIfDone, if_pos (by exact done)] at member
    simpa [indexed.named here] using (List.mem_filter.mp member).2
  · intro going
    rw [Registry.releaseIfDone, if_neg (by exact Bool.eq_false_iff.mp going)]

/-- When an observer leaves a job that it has already left, whatever has happened since, and by whatever
id, nothing changes, exactly if the job of that id has not ended without observers after it was observed.
If it has, its record is removed, and nothing else changes. -/
theorem Run.unsubscribe_again {capacity : Int} {retention : Binary64} {past since : List ServiceStep}
    (run : Run Allows (fresh capacity retention) past service)
    (seated : service.seat? subscription = some true)
    (found : service.registry.number? id = some subscription.number)
    (goes : Run Allows (service.after (.unsubscribe id subscription)) since later) (again : String) :
    (later.unsubscribe again subscription = later ↔
      ∀ job, later.job? again = some job → ¬(job.isTerminal = true ∧
        job.stream.everObserved = true ∧ job.stream.observerCount = 0)) ∧
    ∀ job, later.job? again = some job → job.isTerminal = true →
      job.stream.everObserved = true → job.stream.observerCount = 0 →
        later.unsubscribe again subscription =
          { later with registry := later.registry.remove job.id } := by
  have indexed := goes.isIndexed (isIndexed_after (run.isIndexed (isIndexed_fresh capacity retention)) _)
  have left := goes.seat_of_left (seat_unsubscribe seated found)
  constructor
  · cases there : later.job? again with
    | none => simp [unsubscribe_of_none indexed there]
    | some job =>
      have same : later.unsubscribe again subscription = later ↔
          later.registry.releaseIfDone job = later.registry := by
        rw [unsubscribe_of_left left there]
        exact ⟨fun same => congrArg JobService.registry same, fun same => by rw [same]⟩
      rw [same, releaseIfDone_eq_self_iff indexed there, Bool.eq_false_iff, ne_eq, Job.isDone_iff]
      exact ⟨fun going other found => Option.some.inj found ▸ going, fun going => going job rfl⟩
  · intro job there ended observed nobody
    have done : job.isDone = true := Job.isDone_iff.mpr ⟨ended, observed, nobody⟩
    rw [unsubscribe_of_left left there, Registry.releaseIfDone, if_pos (by exact done)]

/-- A job is observed while it runs, and the observer leaves. -/
def visited : List ServiceStep := [.submit {} .compose, .start {} 0, .subscribe "job-1"]

theorem visited_run (capacity : Int) (retention : Binary64) :
    Run Allows (fresh capacity retention) visited (visited.foldl after (fresh capacity retention)) := by
  have start : Run Allows (fresh capacity retention) [] (fresh capacity retention) := .nil
  have queued := start.snoc (.submit {} .compose) trivial
  have started := queued.snoc (.start {} 0) rfl
  exact started.snoc (.subscribe "job-1") trivial

/-- As long as the job runs, its observer may leave it as often as it likes. -/
theorem visited_unsubscribe_again :
    ∃ service, Run Allows (fresh 256 3600) visited service ∧
      service.seat? ⟨0, 0⟩ = some true ∧
      (service.after (.unsubscribe "job-1" ⟨0, 0⟩)).unsubscribe "job-1" ⟨0, 0⟩ =
        service.after (.unsubscribe "job-1" ⟨0, 0⟩) := by
  have run := visited_run 256 3600
  refine ⟨_, run, rfl, (run.unsubscribe_again rfl rfl .nil "job-1").1.mpr fun job there done => ?_⟩
  have going : (((visited.foldl after (fresh 256 3600)).after (.unsubscribe "job-1" ⟨0, 0⟩)).job?
      "job-1").map Job.isTerminal = some false := by decide +kernel
  simp [there, done.1] at going

/-- The observer of a running job leaves, the job ends, and the observer leaves again: its record was there
and is gone. -/
theorem visited_leaves_twice :
    ∃ service later, Run Allows (fresh 256 3600) visited service ∧
      service.seat? ⟨0, 0⟩ = some true ∧
      Run Allows (service.after (.unsubscribe "job-1" ⟨0, 0⟩)) [.complete {} 0 (.str "out.mp4")] later ∧
      later.registry.Finds 0 ∧ ¬(later.unsubscribe "job-1" ⟨0, 0⟩).registry.Finds 0 := by
  have left := (visited_run 256 3600).snoc (.unsubscribe "job-1" ⟨0, 0⟩) trivial
  have since : Run Allows ((visited.foldl after (fresh 256 3600)).after (.unsubscribe "job-1" ⟨0, 0⟩))
      [] _ := .nil
  exact ⟨_, _, visited_run 256 3600, rfl, since.snoc (.complete {} 0 (.str "out.mp4")) rfl,
    by decide +kernel, by decide +kernel⟩

end Montage.JobService
