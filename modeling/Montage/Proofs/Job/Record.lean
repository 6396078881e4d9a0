import Montage.Job.Registry
import Montage.Proofs.Progress.Stream

/-! # Records of jobs

The record of a job and its stream say the same: a job that goes on has an open stream and no outcome
yet, and a job that ended has the outcome that its terminal event tells. What a job tells before its end
leaves its record alone, and once it has ended its stream takes nothing more.
-/

namespace Montage

/-- An event of a moment. -/
def Moment.event (now : Moment) (phase : Phase) (message : String) (data : Option Json) : Event :=
  { phase := phase, message := message, data := data, timestamp := now.stamp }

namespace Job

variable {job : Job} {now : Moment}

/-- The same record with other observers. -/
def withObservers (job : Job) (observers : List Observer) : Job :=
  { job with stream := job.stream.withObservers observers }

theorem tell_open (opened : job.stream.terminal = none) {phase : Phase}
    (plain : phase.isTerminal = false) (message : String) (data : Option Json) :
    (job.tell now phase message data).stream.terminal = none := by
  have terminal := Stream.publish_terminal opened (now.event phase message data)
  rwa [Event.isTerminal, Moment.event, plain, if_neg Bool.false_ne_true] at terminal

theorem tell_closed (closed : job.stream.terminal ≠ none) (phase : Phase) (message : String)
    (data : Option Json) : job.tell now phase message data = job := by
  simp only [tell, publish, Stream.publish_closed closed]

/-- Whether the record of a job and its stream agree on what became of it. -/
def Agrees (job : Job) : Prop :=
  match job.state with
  | .queued | .running => job.stream.terminal = none ∧ job.result = none ∧ job.error = none
  | .completed => ∃ event, job.stream.terminal = some event ∧ event.phase = .completed ∧
      event.data.isSome ∧ job.result = event.data ∧ job.error = none
  | .failed => ∃ event, job.stream.terminal = some event ∧ event.phase = .failed ∧
      job.result = none ∧ job.error = some event.message

/-- A job that goes on has an open stream and no outcome. -/
theorem Agrees.going (agrees : job.Agrees) (going : job.isTerminal = false) :
    job.stream.terminal = none ∧ job.result = none ∧ job.error = none := by
  unfold Agrees at agrees
  rw [isTerminal] at going
  cases state : job.state <;> simp only [state] at agrees going
  case queued | running => exact agrees
  case completed | failed => contradiction

/-- A job that ended has a closed stream. -/
theorem Agrees.ended (agrees : job.Agrees) (ended : job.isTerminal = true) :
    job.stream.terminal ≠ none := by
  unfold Agrees at agrees
  rw [isTerminal] at ended
  cases state : job.state <;> simp only [state] at agrees ended
  case queued | running => contradiction
  case completed | failed =>
    obtain ⟨event, closed, _⟩ := agrees
    simp [closed]

theorem Agrees.withObservers (agrees : job.Agrees) (observers : List Observer) :
    (job.withObservers observers).Agrees := agrees

theorem agrees_queue (id : String) (kind : JobKind) (capacity : Int) (now : Moment) :
    (queue id kind capacity now).Agrees := ⟨rfl, rfl, rfl⟩

theorem Agrees.start (agrees : job.Agrees) (going : job.isTerminal = false) :
    (job.start now).Agrees := by
  obtain ⟨opened, result, error⟩ := agrees.going going
  exact ⟨Stream.publish_terminal opened _, result, error⟩

/-- What a job tells before its end leaves its record alone. -/
theorem Agrees.tell (agrees : job.Agrees) {phase : Phase} (plain : phase.isTerminal = false)
    (message : String) (data : Option Json) : (job.tell now phase message data).Agrees := by
  cases going : job.isTerminal with
  | true => rwa [tell_closed (agrees.ended going)]
  | false =>
    obtain ⟨opened, _⟩ := agrees.going going
    have terminal : (job.tell now phase message data).stream.terminal = job.stream.terminal :=
      (tell_open opened plain message data).trans opened.symm
    unfold Agrees at agrees ⊢
    rw [terminal]
    exact agrees

theorem Agrees.complete (agrees : job.Agrees) (going : job.isTerminal = false) (result : Json) :
    (job.complete now result).Agrees := by
  obtain ⟨opened, _, error⟩ := agrees.going going
  exact ⟨_, Stream.publish_terminal opened _, rfl, rfl, rfl, error⟩

theorem Agrees.fail (agrees : job.Agrees) (going : job.isTerminal = false) (message : String)
    (data : Option Json) : (job.fail now message data).Agrees := by
  obtain ⟨opened, result, _⟩ := agrees.going going
  exact ⟨_, Stream.publish_terminal opened _, rfl, result, rfl⟩

theorem Agrees.failWith (agrees : job.Agrees) (going : job.isTerminal = false) (fault : JobFault) :
    (job.failWith now fault).Agrees := by
  have told : (job.tell now .error s!"Failed: {fault.message}" fault.data).Agrees :=
    agrees.tell rfl _ _
  exact told.fail going _ _

/-- What an open stream takes from a job that starts, tells something, or ends. -/
theorem start_accepted (opened : job.stream.terminal = none) :
    (job.start now).stream.accepted =
      job.stream.accepted ++ [now.event .processing "Job started" none] :=
  Stream.publish_accepted opened _

theorem tell_accepted (opened : job.stream.terminal = none) (phase : Phase) (message : String)
    (data : Option Json) :
    (job.tell now phase message data).stream.accepted =
      job.stream.accepted ++ [now.event phase message data] :=
  Stream.publish_accepted opened _

theorem complete_accepted (opened : job.stream.terminal = none) (result : Json) :
    (job.complete now result).stream.accepted =
      job.stream.accepted ++ [now.event .completed "Job completed" (some result)] :=
  Stream.publish_accepted opened _

theorem fail_accepted (opened : job.stream.terminal = none) (message : String)
    (data : Option Json) :
    (job.fail now message data).stream.accepted =
      job.stream.accepted ++ [now.event .failed message data] :=
  Stream.publish_accepted opened _

/-- A fault is told twice: as an error, and as the end. -/
theorem failWith_accepted (opened : job.stream.terminal = none) (fault : JobFault) :
    (job.failWith now fault).stream.accepted = job.stream.accepted ++
      [now.event .error s!"Failed: {fault.message}" fault.data,
        now.event .failed fault.label fault.data] := by
  rw [failWith, fail_accepted (tell_open opened rfl _ _), tell_accepted opened, List.append_assoc]
  rfl

end Job

/-! ## The registry

Records are kept by number: entries come and go, and no removal of an entry changes a record.
-/

namespace Registry

theorem foldl_remove_records (ids : List String) (registry : Registry) :
    (ids.foldl remove registry).records = registry.records := by
  induction ids generalizing registry with
  | nil => rfl
  | cons id rest ih => exact ih (registry.remove id)

theorem reap_records (registry : Registry) (now : Binary64) :
    (registry.reap now).1.records = registry.records :=
  foldl_remove_records _ registry

theorem releaseIfDone_records (registry : Registry) (job : Job) :
    (registry.releaseIfDone job).records = registry.records := by
  unfold releaseIfDone
  split <;> rfl

end Registry

end Montage
