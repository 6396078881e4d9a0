import Montage.Job.Service
import Montage.Work.World

/-! # Workshop

A workshop drives a job service: it keeps what is left of the work of every task, and lets works go on
until they wait or end. What a work tells goes to the observers of its job; everything else is
answered by the surroundings.
-/

namespace Montage

/-- A service with the works of its tasks, by number, and their surroundings. -/
structure Workshop where
  service : JobService := {}
  works : List (Work Json) := []
  world : World

namespace Workshop

/-- Answers a step of the work of a task. -/
def answer? (number : Nat) (step : Step) :
    JobService × World → Option (step.Answer × (JobService × World))
  | (service, world) =>
    match step with
    | .emit phase message data =>
      some ((), (service.emit world.now number phase message data, world))
    | step => (world.answer? step).map fun (answer, world) => (answer, (service, world))

/-- The service after a work has gone on: a work that has ended ends its task. -/
def settle (service : JobService) (now : Moment) (number : Nat) : Work Json → JobService
  | .done result => service.complete now number result
  | .failed fault => service.fail now number fault
  | .cancelled => service.cancel now number
  | .ask .. => service

/-- Lets the work of a task go on from a given point. -/
def proceed (workshop : Workshop) (number : Nat) (work : Work Json) : Workshop :=
  let (work, service, world) := work.advance (answer? number) (workshop.service, workshop.world)
  { service := settle service world.now number work
    works := workshop.works.set number work
    world := world }

/-- Lets a task go on. A task that was asked to stop is cancelled where it waits. -/
def visit (workshop : Workshop) (number : Nat) : Workshop :=
  let workshop := { workshop with service := workshop.service.start workshop.world.now number }
  match workshop.service.stage number, workshop.works[number]? with
  | .started, some work =>
    if workshop.service.isStopping number then
      let service := workshop.service.setTask number fun task => { task with stopping := false }
      { workshop with service := service }.proceed number work.interrupt
    else workshop.proceed number work
  | _, _ => workshop

/-- Lets all tasks go on in the order of their submission. -/
def run (workshop : Workshop) : Workshop :=
  (List.range workshop.works.length).foldl visit workshop

/-- Lets the service take a step that answers something. -/
def onService {α : Type} (workshop : Workshop) (step : JobService → JobService × α) : Workshop × α :=
  let (service, answer) := step workshop.service
  ({ workshop with service := service }, answer)

/-- Adds an observer to a job. -/
def subscribe (workshop : Workshop) (id : String) : Except ServiceFault (Workshop × Subscription) :=
  (workshop.service.subscribe id).map fun (service, subscription) =>
    ({ workshop with service := service }, subscription)

/-- Detaches an observer from the job of an id. -/
def unsubscribe (workshop : Workshop) (id : String) (subscription : Subscription) : Workshop :=
  { workshop with service := workshop.service.unsubscribe id subscription }

/-- Takes the oldest event that waits for an observer. -/
def next (workshop : Workshop) (subscription : Subscription) : Workshop × Option Event :=
  workshop.onService fun service => service.next subscription

/-- Takes the events that wait for an observer, up to and with the terminal one. -/
def drain (workshop : Workshop) (subscription : Subscription) : Workshop × List Event :=
  workshop.onService fun service => service.drain subscription

/-- The states of those ids that can be found. -/
def query (workshop : Workshop) (ids : List String) : Workshop × List (String × JobState) :=
  workshop.onService fun service => service.query workshop.world.now ids

/-- The record of an id. -/
def job? (workshop : Workshop) (id : String) : Option Job := workshop.service.job? id

/-- Submits a job whose work is chosen by its id, and answers the id. -/
def submit (workshop : Workshop) (kind : JobKind) (work : String → Work Json) : Workshop × String :=
  let (service, id) := workshop.service.submit workshop.world.now kind
  ({ workshop with service := service, works := workshop.works ++ [work id] }, id)

/-- Opens a gate for good. -/
def openGate (workshop : Workshop) (gate : String) : Workshop :=
  { workshop with world := workshop.world.openGate gate }

/-- Lets time go by. -/
def elapse (workshop : Workshop) (seconds : Binary64) : Workshop :=
  let now := workshop.world.now
  { workshop with world := { workshop.world with now := { now with seconds := now.seconds + seconds } } }

/-- Shuts the service down. -/
def shutdown (workshop : Workshop) : Workshop :=
  let workshop := { workshop with service := workshop.service.beginShutdown }.run
  { workshop with service := workshop.service.endShutdown workshop.world.now }

end Workshop

end Montage
