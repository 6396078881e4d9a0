import Montage.Job.Registry
import Montage.Settings

/-! # Job service

Every job has a record in the registry and a task of the same number that does its work. The steps of
the service are atomic; whoever drives it may take them in any order. A task that is asked to stop
before it has started never starts, and a task that has ended changes its job no more.

A shutdown asks all tasks that have not ended to stop, waits for them, and then fails what is left in
the registry.
-/

namespace Montage

/-- How far a task has come. -/
inductive TaskStage where
  | created
  | started
  | ended
  deriving DecidableEq, Repr

/-- The task of a job, and whether it has been asked to stop. -/
structure Task where
  stage : TaskStage := .created
  stopping : Bool := false
  deriving DecidableEq, Repr

/-- An observer of a job, by the number of the job's record and the index in its stream. -/
structure Subscription where
  number : Nat
  index : Nat
  deriving DecidableEq, Repr

/-- The kinds of jobs among `kinds` that nobody handles. -/
structure MissingHandlers where
  kinds : List JobKind
  deriving DecidableEq, Repr

/-- The wording of missing handlers. -/
def MissingHandlers.message (missing : MissingHandlers) : String :=
  "No handler registered for job kinds: " ++ ", ".intercalate (missing.kinds.map JobKind.label)

/-- A service: its registry, its tasks by number, and those that a shutdown waits for. -/
structure JobService where
  capacity : Int := 256
  registry : Registry := {}
  tasks : List Task := []
  awaited : Option (List Nat) := none

namespace JobService

/-- The service that the settings ask for. -/
def ofSettings (settings : Settings) : JobService where
  capacity := settings.queueCapacity
  registry := { retention := settings.jobRetention }

/-- Refuses handlers that leave out a kind of jobs. -/
def checkHandlers (kinds : List JobKind) : Except MissingHandlers Unit :=
  match JobKind.all.filter fun kind => !kinds.contains kind with
  | [] => .ok ()
  | missing => .error ⟨missing⟩

/-- The stage of a task. -/
def stage (service : JobService) (number : Nat) : TaskStage :=
  ((service.tasks[number]?).map Task.stage).getD .ended

/-- Whether a task has been asked to stop. -/
def isStopping (service : JobService) (number : Nat) : Bool :=
  ((service.tasks[number]?).map Task.stopping).getD false

/-- Changes a task. -/
def setTask (service : JobService) (number : Nat) (change : Task → Task) : JobService :=
  { service with tasks := service.tasks.modify number change }

/-- Changes the record of a job. -/
def setJob (service : JobService) (number : Nat) (change : Job → Job) : JobService :=
  { service with registry := service.registry.update number change }

/-- Ends a task that has started, with a last change of the record of its job. -/
def endTask (service : JobService) (number : Nat) (change : Job → Job) : JobService :=
  if service.stage number = .started then
    (service.setJob number change).setTask number fun task => { task with stage := .ended }
  else service

/-- Files a new job and answers its id. Expired records are removed first. -/
def submit (service : JobService) (now : Moment) (kind : JobKind) : JobService × String :=
  let registry := (service.registry.reap now.seconds).1
  let id := s!"job-{registry.records.length + 1}"
  let job := Job.queue id kind service.capacity now
  ({ service with registry := registry.add job, tasks := service.tasks ++ [{}] }, id)

/-- The first step of a task: its job starts, unless the task has been asked to stop. -/
def start (service : JobService) (now : Moment) (number : Nat) : JobService :=
  if service.stage number = .created then
    if service.isStopping number then
      service.setTask number fun task => { task with stage := .ended }
    else
      (service.setJob number fun job => job.start now).setTask number fun task =>
        { task with stage := .started }
  else service

/-- A job tells its observers something, which is never its end. -/
def emit (service : JobService) (now : Moment) (number : Nat) (phase : Phase) (message : String)
    (data : Option Json) : JobService :=
  if phase.isTerminal then service
  else service.setJob number fun job => job.tell now phase message data

/-- A task ends with the result of its job. -/
def complete (service : JobService) (now : Moment) (number : Nat) (result : Json) : JobService :=
  service.endTask number fun job => job.complete now result

/-- A task ends with a fault of its job. -/
def fail (service : JobService) (now : Moment) (number : Nat) (fault : JobFault) : JobService :=
  service.endTask number fun job => job.failWith now fault

/-- A task ends by a cancellation. -/
def cancel (service : JobService) (now : Moment) (number : Nat) : JobService :=
  service.endTask number fun job => job.cancel now

/-- The record of an id. -/
def job? (service : JobService) (id : String) : Option Job := service.registry.get? id

/-- The states of those ids that can be found. Expired records are removed first. -/
def query (service : JobService) (now : Moment) (ids : List String) :
    JobService × List (String × JobState) :=
  let registry := (service.registry.reap now.seconds).1
  ({ service with registry := registry }, registry.snapshot ids)

/-- Adds an observer to a job. -/
def subscribe (service : JobService) (id : String) :
    Except ServiceFault (JobService × Subscription) :=
  match service.registry.number? id with
  | some number =>
    let (registry, index) := service.registry.attach number
    .ok ({ service with registry := registry }, ⟨number, index⟩)
  | none => .error (.unknownJob (some id))

/-- Detaches an observer from the job of an id, and releases the job if it has ended and this leaves it
without observers. An observer of another job stays. -/
def unsubscribe (service : JobService) (id : String) (subscription : Subscription) : JobService :=
  match service.registry.number? id with
  | none => service
  | some number =>
    let registry :=
      if subscription.number = number then (service.registry.detach number subscription.index).1
      else service.registry
    match registry.records[number]? with
    | none => { service with registry := registry }
    | some job => { service with registry := registry.releaseIfDone job }

/-- Takes the oldest event that waits for an observer. -/
def next (service : JobService) (subscription : Subscription) : JobService × Option Event :=
  match service.registry.records[subscription.number]? with
  | none => (service, none)
  | some job =>
    let (stream, event) := job.stream.next subscription.index
    (service.setJob subscription.number fun job => { job with stream := stream }, event)

/-- Takes the events that wait for an observer, up to and with the terminal one. -/
def drain (service : JobService) (subscription : Subscription) : JobService × List Event :=
  match service.registry.records[subscription.number]? with
  | none => (service, [])
  | some job =>
    let (stream, events) := job.stream.drain subscription.index
    (service.setJob subscription.number fun job => { job with stream := stream }, events)

/-- The numbers of the tasks that have not ended. -/
def liveTasks (service : JobService) : List Nat :=
  (List.range service.tasks.length).filter fun number => service.stage number != .ended

/-- Begins a shutdown: every task that has not ended is asked to stop. -/
def beginShutdown (service : JobService) : JobService :=
  let live := service.liveTasks
  let service := live.foldl (fun service number =>
    service.setTask number fun task => { task with stopping := true }) service
  { service with awaited := some live }

/-- Whether all tasks that a shutdown waits for have ended. -/
def isSettled (service : JobService) : Bool :=
  match service.awaited with
  | some numbers => numbers.all fun number => service.stage number == .ended
  | none => false

/-- Ends a shutdown once its tasks have ended: the jobs that are left fail as cancelled. -/
def endShutdown (service : JobService) (now : Moment) : JobService :=
  if service.isSettled then
    let left := service.registry.entries.map Prod.snd
    let service := left.foldl (fun service number =>
      service.setJob number fun job => if job.isTerminal then job else job.cancel now) service
    { service with awaited := none }
  else service

end JobService

end Montage
