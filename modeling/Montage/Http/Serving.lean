import Montage.Job.Service
import Montage.Progress.Message

/-! # Serving the progress of a job

An observer who asked for the progress of a job is served frame by frame: a greeting, then the events
of the job as they are taken from its queue, and a sign of life whenever an interval has gone by, on a
clock of its own. The serving ends when it goes on after the terminal event, or when the observer is found
gone, or when the response is discarded. It then gives up its subscription, except that a response
discarded before its first frame never does.
-/

namespace Montage.Http

/-- What an observer is sent. -/
inductive Frame where
  | connected (timestamp : Int)
  | heartbeat (timestamp : Int)
  | progress (event : Event)

/-- The message of a frame. -/
def Frame.message (jobId : String) : Frame → Json
  | .connected timestamp => Message.connected jobId timestamp
  | .heartbeat timestamp => Message.heartbeat jobId timestamp
  | .progress event => Message.progress jobId event

/-- How far a serving has come. From the greeting on it knows when the next sign of life is due, except
while it is about to look at the clock for that, and when the terminal event has been sent. -/
inductive ServingStage where
  | created
  | greeted
  | polling (due : Binary64)
  | present (due : Binary64)
  | waiting (due : Binary64)
  | beaten
  | finished
  | closed
  deriving DecidableEq

/-- The serving of one observer. -/
structure Serving where
  jobId : String
  subscription : Subscription
  interval : Binary64
  stage : ServingStage := .created
  sent : List Frame := []

/-- What can happen to a serving. -/
inductive ServingEvent where
  /-- The first frame is asked for. -/
  | begun
  /-- The clock is looked at. -/
  | clock (seconds : Binary64)
  /-- The observer is looked for. -/
  | asked (gone : Bool)
  /-- The wait for an event is over without one. -/
  | elapsed
  /-- The oldest event is taken from the queue. -/
  | dequeued
  /-- The serving goes on after the terminal event. -/
  | resumed
  /-- The response is discarded. -/
  | discarded

namespace Serving

/-- Whether the serving is over. -/
def isClosed (serving : Serving) : Bool := serving.stage matches .closed

/-- A serving at a stage. -/
def toStage (serving : Serving) (stage : ServingStage) : Serving := { serving with stage := stage }

/-- A serving after one more frame. -/
def send (serving : Serving) (frame : Frame) : Serving :=
  { serving with sent := serving.sent ++ [frame] }

/-- Ends a serving and gives up its subscription. -/
def close (service : JobService) (serving : Serving) : JobService × Serving :=
  (service.unsubscribe serving.jobId serving.subscription, serving.toStage .closed)

/-- Takes the oldest event from the queue and sends it. -/
def takeEvent (service : JobService) (serving : Serving) (due : Binary64) : JobService × Serving :=
  match service.next serving.subscription with
  | (_, none) => (service, serving)
  | (service, some event) =>
    (service, (serving.send (.progress event)).toStage
      (if event.isTerminal then .finished else .polling due))

/-- Looks at the clock. -/
def readClock (timestamp : Int) (serving : Serving) (seconds : Binary64) : Serving :=
  match serving.stage with
  | .greeted | .beaten => serving.toStage (.polling (seconds + serving.interval))
  | .present due =>
    if (due - seconds).le .zero then (serving.send (.heartbeat timestamp)).toStage .beaten
    else serving.toStage (.waiting due)
  | _ => serving

/-- One thing happens to a serving at some time of the calendar. What does not fit its stage changes
nothing. -/
def step (timestamp : Int) (service : JobService) (serving : Serving) (event : ServingEvent) :
    JobService × Serving :=
  match event, serving.stage with
  | .begun, .created => (service, (serving.send (.connected timestamp)).toStage .greeted)
  | .clock seconds, _ => (service, readClock timestamp serving seconds)
  | .asked gone, .polling due =>
    if gone then close service serving else (service, serving.toStage (.present due))
  | .elapsed, .waiting due => (service, serving.toStage (.polling due))
  | .dequeued, .waiting due => takeEvent service serving due
  | .resumed, .finished => close service serving
  | .discarded, .created => (service, serving.toStage .closed)
  | .discarded, .closed => (service, serving)
  | .discarded, _ => close service serving
  | _, _ => (service, serving)

/-- The messages that were sent. -/
def messages (serving : Serving) : List Json :=
  serving.sent.map fun frame => frame.message serving.jobId

end Serving

/-- A serving with its service, the readings of the clock to come, of which the last one stays, and the
number of times that the observer was looked for. -/
structure Session where
  service : JobService
  serving : Serving
  readings : List Binary64
  polls : Nat := 0
  timestamp : Int := 0

namespace Session

/-- One thing happens to the serving. -/
def step (session : Session) (event : ServingEvent) : Session :=
  let (service, serving) :=
    Serving.step session.timestamp session.service session.serving event
  { session with service := service, serving := serving }

/-- The serving looks at the clock. -/
def tick (session : Session) : Session :=
  let session := session.step (.clock (session.readings.headD .zero))
  match session.readings with
  | _ :: next :: rest => { session with readings := next :: rest }
  | _ => session

/-- The serving looks for the observer. -/
def ask (session : Session) (gone : Bool) : Session :=
  { session.step (.asked gone) with polls := session.polls + 1 }

/-- The serving waits for an event: it takes one if there is any, and goes on if that is the terminal one;
else the wait is over in time. -/
def await (session : Session) : Session := ((session.step .dequeued).step .elapsed).step .resumed

/-- The serving from one look for the observer, who is there, to the next. -/
def round (session : Session) : Session :=
  let session := (session.ask false).tick
  if session.serving.stage matches .beaten then session.tick else session.await

/-- The serving until its end; the observer is gone after being found a number of times. -/
def follow : Nat → Session → Session
  | 0, session => session.ask true
  | patience + 1, session =>
    let session := session.round
    if session.serving.isClosed then session else follow patience session

/-- The whole serving of an observer. -/
def serve (session : Session) (patience : Nat) : Session :=
  follow patience (session.step .begun).tick

end Session

end Montage.Http
