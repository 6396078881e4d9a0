import Montage.Json.Basic

/-! # Progress events

A job tells what it does in events. Each belongs to a phase, and the events of two phases, one for
success and one for failure, end what a job has to tell.
-/

namespace Montage

/-- The phases of a job's events. -/
inductive Phase where
  | queue
  | download
  | processing
  | completed
  | failed
  | error
  deriving DecidableEq, Repr

namespace Phase

/-- The name of a phase. -/
def name : Phase → String
  | .queue => "QUEUE"
  | .download => "DOWNLOAD"
  | .processing => "PROCESSING"
  | .completed => "COMPLETED"
  | .failed => "FAILED"
  | .error => "ERROR"

/-- All phases. -/
def all : List Phase := [.queue, .download, .processing, .completed, .failed, .error]

/-- The phase of a name. -/
def ofName? (text : String) : Option Phase := all.find? fun phase => phase.name == text

/-- Whether events of the phase are the last of their job. -/
def isTerminal : Phase → Bool
  | .completed | .failed => true
  | _ => false

end Phase

/-- A moment: the seconds of a steady clock, and the milliseconds of the calendar. -/
structure Moment where
  seconds : Binary64 := .zero
  stamp : Int := 0

/-- One thing that a job has to tell. -/
structure Event where
  phase : Phase
  message : String := ""
  data : Option Json := none
  timestamp : Int := 0

namespace Event

/-- Whether the event is the last of its job. -/
def isTerminal (event : Event) : Bool := event.phase.isTerminal

/-- The fields of an event on the wire; data that is missing is left out. -/
def fields (event : Event) : List (String × Json) :=
  [("timestamp", .int event.timestamp), ("phase", .str event.phase.name),
    ("message", .str event.message)] ++
    match event.data with
    | some data => [("data", data)]
    | none => []

end Event

end Montage
