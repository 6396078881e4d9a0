import Montage.Job.Service

/-! # Steps of the job service

Whatever happens to a service is a step: clients submit jobs, ask for them and observe them, tasks take
their first step, tell something and end, somebody asks a task to stop, and a shutdown begins and ends.
A run is a list of steps in any order in which each of them can be taken at its point. Its works are not
fixed: a task that has started may tell anything at any time, even after its end, and may end in any way.
A shutdown that begins during another one waits for the rest of the same tasks, and one end serves both.
-/

namespace Montage

/-- One thing that happens to a service. -/
inductive ServiceStep where
  | submit (now : Moment) (kind : JobKind)
  | start (now : Moment) (number : Nat)
  | emit (now : Moment) (number : Nat) (phase : Phase) (message : String) (data : Option Json)
  | complete (now : Moment) (number : Nat) (result : Json)
  | fail (now : Moment) (number : Nat) (fault : JobFault)
  | cancel (now : Moment) (number : Nat)
  | stop (number : Nat)
  | interrupt (number : Nat)
  | subscribe (id : String)
  | unsubscribe (id : String) (subscription : Subscription)
  | next (subscription : Subscription)
  | drain (subscription : Subscription)
  | query (now : Moment) (ids : List String)
  | beginShutdown
  | endShutdown (now : Moment)

namespace ServiceStep

/-- Whether a job is submitted. -/
def isSubmission : ServiceStep → Bool
  | .submit .. => true
  | _ => false

/-- Whether a step is one in the life of a job: its start, its end, or something that it tells. The end
is not a job's own to tell. -/
def concerns (number : Nat) : ServiceStep → Bool
  | .start _ other | .complete _ other _ | .fail _ other _ | .cancel _ other => other == number
  | .emit _ other phase _ _ => other == number && !phase.isTerminal
  | _ => false

/-- Whether the task of a job is asked to stop. -/
def asksToStop (number : Nat) : ServiceStep → Bool
  | .stop other => other == number
  | .beginShutdown => true
  | _ => false

end ServiceStep

namespace JobService

/-- The service after a step. A task that has started notes with `interrupt` that it was asked to
stop. -/
def after (service : JobService) : ServiceStep → JobService
  | .submit now kind => (service.submit now kind).1
  | .start now number => service.start now number
  | .emit now number phase message data => service.emit now number phase message data
  | .complete now number result => service.complete now number result
  | .fail now number fault => service.fail now number fault
  | .cancel now number => service.cancel now number
  | .stop number => service.setTask number fun task => { task with stopping := true }
  | .interrupt number => service.setTask number fun task => { task with stopping := false }
  | .subscribe id =>
    match service.subscribe id with
    | .ok (service, _) => service
    | .error _ => service
  | .unsubscribe id subscription => service.unsubscribe id subscription
  | .next subscription => (service.next subscription).1
  | .drain subscription => (service.drain subscription).1
  | .query now ids => (service.query now ids).1
  | .beginShutdown => service.beginShutdown
  | .endShutdown now => service.endShutdown now

/-- Whether a step can be taken. A task starts once and ends once, only a job that has started can tell
something, and a shutdown ends when its tasks have ended. -/
def Allows (service : JobService) : ServiceStep → Prop
  | .start _ number => service.stage number = .created
  | .emit _ number .. => ∃ job, service.registry.records[number]? = some job ∧ job.startedAt.isSome
  | .complete _ number _ | .fail _ number _ | .cancel _ number | .interrupt number =>
    service.stage number = .started
  | .endShutdown _ => service.isSettled = true
  | _ => True

/-- Whether a step can be taken when nobody submits a job during a shutdown. -/
structure AllowsCalmly (service : JobService) (step : ServiceStep) : Prop where
  allowed : service.Allows step
  calm : step.isSubmission = true → service.awaited = none

/-- Services that steps lead to, each step allowed at its point. -/
inductive Run (allows : JobService → ServiceStep → Prop) (first : JobService) :
    List ServiceStep → JobService → Prop
  | nil : Run allows first [] first
  | snoc {past : List ServiceStep} {service : JobService} (run : Run allows first past service)
      (step : ServiceStep) (allowed : allows service step) :
      Run allows first (past ++ [step]) (service.after step)

/-- A service without jobs. -/
def fresh (capacity : Int) (retention : Binary64) : JobService where
  capacity := capacity
  registry := { retention := retention }

/-- A run of two jobs: one fails, and a shutdown leaves the other one over. -/
def twoJobs : List ServiceStep := [.submit {} .compose, .submit {} .compressImage, .start {} 0,
  .emit {} 0 .download "Downloading" none, .beginShutdown, .start {} 1,
  .fail {} 0 (.plain .value "no size"), .endShutdown {}]

theorem twoJobs_run :
    Run AllowsCalmly (fresh 256 3600) twoJobs (twoJobs.foldl after (fresh 256 3600)) := by
  have start : Run AllowsCalmly (fresh 256 3600) [] (fresh 256 3600) := .nil
  have one := start.snoc (.submit {} .compose) ⟨trivial, fun _ => rfl⟩
  have both := one.snoc (.submit {} .compressImage) ⟨trivial, fun _ => rfl⟩
  have started := both.snoc (.start {} 0) ⟨rfl, nofun⟩
  have told := started.snoc (.emit {} 0 .download "Downloading" none) ⟨⟨_, rfl, rfl⟩, nofun⟩
  have stopping := told.snoc .beginShutdown ⟨trivial, nofun⟩
  have skipped := stopping.snoc (.start {} 1) ⟨rfl, nofun⟩
  have failed := skipped.snoc (.fail {} 0 (.plain .value "no size")) ⟨rfl, nofun⟩
  exact failed.snoc (.endShutdown {}) ⟨rfl, nofun⟩

end JobService

end Montage
