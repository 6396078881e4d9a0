import Montage.Proofs.Job.Frame
import Montage.Proofs.Progress.Attendance

/-! # Who attends the jobs

Observers come to a job and leave it only by subscribing and unsubscribing; whatever else happens to a
job, its record keeps its id and its observers keep their places. So an observer that has left stays away
for good.
-/

namespace Montage

namespace Job

variable {job next last : Job}

/-- The same job with the same observers in their places. -/
structure Continues (job next : Job) : Prop where
  id : next.id = job.id
  attendance : next.stream.attendance = job.stream.attendance

theorem Continues.refl (job : Job) : job.Continues job := ⟨rfl, rfl⟩

theorem Continues.trans (first : job.Continues next) (second : next.Continues last) :
    job.Continues last :=
  ⟨second.id.trans first.id, second.attendance.trans first.attendance⟩

theorem continues_tell (job : Job) (now : Moment) (phase : Phase) (message : String)
    (data : Option Json) : job.Continues (job.tell now phase message data) :=
  ⟨rfl, Stream.attendance_publish _ _⟩

theorem continues_start (job : Job) (now : Moment) : job.Continues (job.start now) :=
  ⟨rfl, Stream.attendance_publish _ _⟩

theorem continues_complete (job : Job) (now : Moment) (result : Json) :
    job.Continues (job.complete now result) :=
  ⟨rfl, Stream.attendance_publish _ _⟩

theorem continues_fail (job : Job) (now : Moment) (message : String) (data : Option Json) :
    job.Continues (job.fail now message data) :=
  ⟨rfl, Stream.attendance_publish _ _⟩

theorem continues_failWith (job : Job) (now : Moment) (fault : JobFault) :
    job.Continues (job.failWith now fault) :=
  (continues_tell job now _ _ _).trans (continues_fail _ now _ _)

end Job

namespace JobService

variable {service later : JobService} {step : ServiceStep} {number : Nat} {job : Job}
  {subscription : Subscription}

theorem continues_swept (now : Moment) (job : Job) : job.Continues (swept now job) := by
  unfold swept
  split
  · exact .refl job
  · exact job.continues_fail now _ _

/-- Whether the record of a number continues one. -/
def Carries (service : JobService) (number : Nat) (job : Job) : Prop :=
  ∃ next, service.registry.records[number]? = some next ∧ job.Continues next

theorem carries_of_eq (here : service.registry.records[number]? = some job) :
    service.Carries number job := ⟨job, here, .refl job⟩

theorem Carries.setJob (carries : service.Carries number job) {change : Job → Job}
    (continues : ∀ job : Job, job.Continues (change job)) (other : Nat) :
    (service.setJob other change).Carries number job := by
  obtain ⟨next, here, same⟩ := carries
  by_cases at_ : other = number
  · exact ⟨change next, by simp [JobService.setJob, Registry.update, at_, here],
      same.trans (continues next)⟩
  · exact ⟨next, (List.getElem?_modify_ne _ _ at_).trans here, same⟩

theorem Carries.endTask (carries : service.Carries number job) {change : Job → Job}
    (continues : ∀ job : Job, job.Continues (change job)) (other : Nat) :
    (service.endTask other change).Carries number job := by
  unfold JobService.endTask
  split
  · exact carries.setJob continues other
  · exact carries

theorem Carries.start (carries : service.Carries number job) (now : Moment) (other : Nat) :
    (service.start now other).Carries number job := by
  unfold JobService.start
  split
  · split
    · exact carries
    · exact carries.setJob (fun job => job.continues_start now) other
  · exact carries

theorem Carries.emit (carries : service.Carries number job) (now : Moment) (other : Nat)
    (phase : Phase) (message : String) (data : Option Json) :
    (service.emit now other phase message data).Carries number job := by
  unfold JobService.emit
  split
  · exact carries
  · exact carries.setJob (fun job => job.continues_tell now phase message data) other

/-- Another stream with the same attendance in the record that it is the stream of. -/
theorem carries_setStream (here : service.registry.records[number]? = some job) {other : Nat}
    {reader : Job} (there : service.registry.records[other]? = some reader) {stream : Stream}
    (same : stream.attendance = reader.stream.attendance) :
    (service.setJob other fun job => { job with stream := stream }).Carries number job := by
  by_cases at_ : other = number
  · subst at_
    obtain rfl := Option.some.inj (here.symm.trans there)
    exact ⟨{ job with stream := stream }, by simp [JobService.setJob, Registry.update, here], rfl, same⟩
  · exact carries_of_eq ((List.getElem?_modify_ne _ _ at_).trans here)

theorem carries_next (here : service.registry.records[number]? = some job)
    (subscription : Subscription) : (service.next subscription).1.Carries number job := by
  unfold JobService.next
  split
  · exact carries_of_eq here
  · next reader there => exact carries_setStream here there (reader.stream.attendance_next _)

theorem carries_drain (here : service.registry.records[number]? = some job)
    (subscription : Subscription) : (service.drain subscription).1.Carries number job := by
  unfold JobService.drain
  split
  · exact carries_of_eq here
  · next reader there => exact carries_setStream here there (reader.stream.attendance_drain _)

theorem Carries.endShutdown (carries : service.Carries number job) (now : Moment) :
    (service.endShutdown now).Carries number job := by
  have sweeps (numbers : List Nat) : (numbers.foldl (fun service number =>
      service.setJob number (swept now)) service).Carries number job := by
    induction numbers generalizing service with
    | nil => exact carries
    | cons first rest ih => exact ih (carries.setJob (continues_swept now) first)
  unfold JobService.endShutdown
  split
  · exact sweeps _
  · exact carries

/-- The registry after an observer has left the job of a number, if it was one of its own. -/
def leave (registry : Registry) (number : Nat) (subscription : Subscription) : Registry :=
  if subscription.number = number then (registry.detach number subscription.index).1 else registry

/-- What is left of an attendance when an observer has left a job, if it was one of its own. -/
def absent (number : Nat) (subscription : Subscription) (attendance : List Bool) : List Bool :=
  if subscription.number = number then attendance.modify subscription.index fun _ => false
  else attendance

theorem leave_entries (registry : Registry) (number : Nat) (subscription : Subscription) :
    (leave registry number subscription).entries = registry.entries := by
  unfold leave
  split <;> rfl

theorem leave_record {registry : Registry} (here : registry.records[number]? = some job)
    (subscription : Subscription) :
    ∃ observers, (leave registry number subscription).records[number]? =
        some (job.withObservers observers) ∧
      (job.withObservers observers).stream.attendance =
        absent number subscription job.stream.attendance := by
  unfold leave absent
  split
  · refine ⟨(job.stream.detach subscription.index).1.observers, ?_, ?_⟩
    · simp only [Registry.detach, Registry.update, List.getElem?_modify_eq, here]
      rfl
    · exact job.stream.attendance_detach _
  · exact ⟨job.stream.observers, here, rfl⟩

theorem leave_record_ne {registry : Registry} {other : Nat} (apart : other ≠ number)
    (subscription : Subscription) :
    (leave registry other subscription).records[number]? = registry.records[number]? := by
  unfold leave
  split
  · exact List.getElem?_modify_ne _ _ apart
  · rfl

/-- Nothing happens when an observer leaves a job that cannot be found. -/
theorem unsubscribe_of_lost {id : String} (lost : service.registry.number? id = none)
    (subscription : Subscription) : service.unsubscribe id subscription = service := by
  rw [unsubscribe, lost]

/-- An observer leaves the job of an id, and then the job is released if it is done. -/
theorem unsubscribe_of_found {id : String} (found : service.registry.number? id = some number)
    (subscription : Subscription)
    (left : (leave service.registry number subscription).records[number]? = some job) :
    service.unsubscribe id subscription =
      { service with registry := (leave service.registry number subscription).releaseIfDone job } := by
  unfold leave at left ⊢
  simp only [unsubscribe, found, left]

theorem unsubscribe_records {id : String} (found : service.registry.number? id = some number)
    (subscription : Subscription) : (service.unsubscribe id subscription).registry.records =
      (leave service.registry number subscription).records := by
  simp only [unsubscribe, found]
  split
  · rfl
  · exact Registry.releaseIfDone_records _ _

/-- What a step makes of the attendance of a job. -/
def rollCall (service : JobService) (number : Nat) (attendance : List Bool) : ServiceStep → List Bool
  | .subscribe id =>
    if service.registry.number? id = some number then attendance ++ [true] else attendance
  | .unsubscribe id subscription =>
    if service.registry.number? id = some number then absent number subscription attendance
    else attendance
  | _ => attendance

/-- A step keeps the id of a job, and its attendance but for those who come and leave. -/
theorem record_after (service : JobService) (step : ServiceStep)
    (here : service.registry.records[number]? = some job) :
    ∃ next, (service.after step).registry.records[number]? = some next ∧ next.id = job.id ∧
      next.stream.attendance = service.rollCall number job.stream.attendance step := by
  have carried (quiet : service.rollCall number job.stream.attendance step = job.stream.attendance)
      (carries : (service.after step).Carries number job) :
      ∃ next, (service.after step).registry.records[number]? = some next ∧ next.id = job.id ∧
        next.stream.attendance = service.rollCall number job.stream.attendance step := by
    obtain ⟨next, there, continues⟩ := carries
    exact ⟨next, there, continues.id, continues.attendance.trans quiet.symm⟩
  have self := carries_of_eq here
  cases step with
  | submit now kind =>
    refine carried rfl (carries_of_eq ?_)
    have bound := (List.getElem?_eq_some_iff.mp here).1
    simp only [after, submit, Registry.add, Registry.reap_records]
    exact (List.getElem?_append_left bound).trans here
  | start now other => exact carried rfl (self.start now other)
  | emit now other phase message data => exact carried rfl (self.emit now other phase message data)
  | complete now other result =>
    exact carried rfl (self.endTask (fun job => job.continues_complete now result) other)
  | fail now other fault =>
    exact carried rfl (self.endTask (fun job => job.continues_failWith now fault) other)
  | cancel now other =>
    exact carried rfl (self.endTask (fun job => job.continues_fail now _ _) other)
  | stop other | interrupt other => exact carried rfl self
  | subscribe id =>
    simp only [after, subscribe, rollCall]
    cases found : service.registry.number? id with
    | none => exact ⟨job, here, rfl, by simp⟩
    | some other =>
      by_cases at_ : other = number
      · subst at_
        refine ⟨{ job with stream := job.stream.attach.1 }, ?_, rfl, ?_⟩
        · simp [Registry.attach, Registry.update, here]
        · rw [if_pos rfl]
          exact job.stream.attendance_attach
      · refine ⟨job, (List.getElem?_modify_ne _ _ at_).trans here, rfl, ?_⟩
        rw [if_neg (by simpa using at_)]
  | unsubscribe id subscription =>
    simp only [after, rollCall]
    cases found : service.registry.number? id with
    | none => exact ⟨job, by rwa [unsubscribe_of_lost found], rfl, by simp⟩
    | some other =>
      rw [unsubscribe_records found]
      by_cases at_ : other = number
      · subst at_
        obtain ⟨observers, left, gone⟩ := leave_record here subscription
        exact ⟨_, left, rfl, by rw [gone, if_pos rfl]⟩
      · refine ⟨job, (leave_record_ne at_ subscription).trans here, rfl, ?_⟩
        rw [if_neg (by simpa using at_)]
  | next subscription => exact carried rfl (carries_next here subscription)
  | drain subscription => exact carried rfl (carries_drain here subscription)
  | query now ids =>
    exact carried rfl (carries_of_eq (by rwa [after, query, Registry.reap_records]))
  | beginShutdown => exact carried rfl (carries_of_eq (by rwa [after, registry_beginShutdown]))
  | endShutdown now => exact carried rfl (self.endShutdown now)

/-! ## Single observers -/

/-- Whether an observer is still attached, if its job has ever had it. -/
def seat? (service : JobService) (subscription : Subscription) : Option Bool :=
  (service.registry.records[subscription.number]?).bind fun job =>
    job.stream.attendance[subscription.index]?

/-- Whether a step makes an observer leave. -/
def dismisses (service : JobService) (subscription : Subscription) : ServiceStep → Bool
  | .unsubscribe id other =>
    other == subscription && service.registry.number? id == some subscription.number
  | _ => false

/-- What is left of an attendance still says of an observer whether it is attached. -/
theorem absent_getElem? {attendance : List Bool} {attached : Bool} (other : Subscription)
    (seated : attendance[subscription.index]? = some attached) :
    (absent subscription.number other attendance)[subscription.index]? =
      some (attached && !(other == subscription)) := by
  by_cases left : other = subscription
  · simp [left, absent, seated]
  · have stays : (other == subscription) = false := beq_eq_false_iff_ne.mpr left
    rw [stays, Bool.not_false, Bool.and_true, absent]
    split
    · next same =>
      have elsewhere : other.index ≠ subscription.index := fun index =>
        left (by cases other; cases subscription; simp_all)
      rwa [List.getElem?_modify_ne _ _ elsewhere]
    · exact seated

/-- An observer stays attached until a step makes it leave, and those who have left stay away. -/
theorem seat_after {attached : Bool} (seated : service.seat? subscription = some attached)
    (step : ServiceStep) : (service.after step).seat? subscription =
      some (attached && !service.dismisses subscription step) := by
  obtain ⟨job, here, seated⟩ := Option.bind_eq_some_iff.mp seated
  obtain ⟨next, there, -, attendance⟩ := service.record_after step here
  rw [seat?, there, Option.bind_some, attendance]
  cases step with
  | subscribe id =>
    simp only [rollCall, dismisses, Bool.not_false, Bool.and_true]
    split
    · rwa [List.getElem?_append_left (List.getElem?_eq_some_iff.mp seated).1]
    · exact seated
  | unsubscribe id other =>
    simp only [rollCall, dismisses]
    split
    · next found => simp [absent_getElem? other seated, found]
    · next lost => simp [seated, lost]
  | _ => simpa [rollCall, dismisses] using seated

/-- Those who have left stay away in every run. -/
theorem Run.seat_of_left {allows : JobService → ServiceStep → Prop} {since : List ServiceStep}
    (run : Run allows service since later) (left : service.seat? subscription = some false) :
    later.seat? subscription = some false := by
  induction run with
  | nil => exact left
  | snoc run step _ ih => exact seat_after ih step

/-- An observer that leaves the job of an id has left it, if it is one of its own. -/
theorem seat_unsubscribe {id : String} {attached : Bool}
    (seated : service.seat? subscription = some attached)
    (found : service.registry.number? id = some subscription.number) :
    (service.unsubscribe id subscription).seat? subscription = some false := by
  have dismissed : service.dismisses subscription (.unsubscribe id subscription) = true := by
    simp [dismisses, found]
  have left := seat_after seated (.unsubscribe id subscription)
  rwa [dismissed, Bool.not_true, Bool.and_false] at left

end JobService

end Montage
