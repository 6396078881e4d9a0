import Montage.Fault
import Montage.Progress.Stream

/-! # Jobs

A job is queued, then running, and ends completed or failed. It has a stream of its own for what it
has to tell.
-/

namespace Montage

/-- The kinds of jobs. -/
inductive JobKind where
  | compose
  | compressVideo
  | compressImage
  deriving DecidableEq, Repr

namespace JobKind

/-- All kinds. -/
def all : List JobKind := [.compose, .compressVideo, .compressImage]

/-- The name of a kind. -/
def name : JobKind → String
  | .compose => "compose"
  | .compressVideo => "compress_video"
  | .compressImage => "compress_image"

/-- The name of a kind in capitals. -/
def label : JobKind → String
  | .compose => "COMPOSE"
  | .compressVideo => "COMPRESS_VIDEO"
  | .compressImage => "COMPRESS_IMAGE"

/-- The kind of a name. -/
def ofName? (text : String) : Option JobKind := all.find? fun kind => kind.name == text

end JobKind

/-- The states of jobs. -/
inductive JobState where
  | queued
  | running
  | completed
  | failed
  deriving DecidableEq, Repr

namespace JobState

/-- The name of a state. -/
def name : JobState → String
  | .queued => "QUEUED"
  | .running => "RUNNING"
  | .completed => "COMPLETED"
  | .failed => "FAILED"

/-- All states. -/
def all : List JobState := [.queued, .running, .completed, .failed]

/-- The state of a name. -/
def ofName? (text : String) : Option JobState := all.find? fun state => state.name == text

/-- Whether a job in the state has ended. -/
def isTerminal : JobState → Bool
  | .completed | .failed => true
  | _ => false

end JobState

/-- The record of a job. -/
structure Job where
  id : String
  kind : JobKind
  stream : Stream
  state : JobState := .queued
  startedAt : Option Binary64 := none
  finishedAt : Option Binary64 := none
  result : Option Json := none
  error : Option String := none

namespace Job

/-- Whether the job has ended. -/
def isTerminal (job : Job) : Bool := job.state.isTerminal

/-- Hands an event to the observers of the job. -/
def publish (job : Job) (event : Event) : Job :=
  { job with stream := (job.stream.publish event).1 }

/-- Hands an event of a moment to the observers of the job. -/
def tell (job : Job) (now : Moment) (phase : Phase) (message : String) (data : Option Json) : Job :=
  job.publish { phase := phase, message := message, data := data, timestamp := now.stamp }

/-- The record of a job that has just been queued. -/
def queue (id : String) (kind : JobKind) (capacity : Int) (now : Moment) : Job :=
  let job : Job := { id := id, kind := kind, stream := { capacity := capacity } }
  job.tell now .queue "Job queued" none

/-- The record of a job after its start. -/
def start (job : Job) (now : Moment) : Job :=
  let job := { job with state := .running, startedAt := some now.seconds }
  job.tell now .processing "Job started" none

/-- The record of a job after its end with a result. -/
def complete (job : Job) (now : Moment) (result : Json) : Job :=
  let job := { job with
    state := .completed
    result := some result
    finishedAt := some now.seconds }
  job.tell now .completed "Job completed" (some result)

/-- The record of a job after its end without a result. -/
def fail (job : Job) (now : Moment) (message : String) (data : Option Json) : Job :=
  let job := { job with
    state := .failed
    error := some message
    finishedAt := some now.seconds }
  job.tell now .failed message data

/-- The record of a job after its end by a fault, which is told before the end. -/
def failWith (job : Job) (now : Moment) (fault : JobFault) : Job :=
  let job := job.tell now .error s!"Failed: {fault.message}" fault.data
  job.fail now fault.label fault.data

/-- The record of a job after its end by a cancellation. -/
def cancel (job : Job) (now : Moment) : Job := job.fail now "Job cancelled" none

end Job

end Montage
