import Montage.Fault
import Montage.Number.Decimal

/-! # Engine outcomes

What one run of the engine can come to, and the lines it prints on the way.
-/

namespace Montage.Engine

/-- The engine's two output streams. -/
inductive Channel where
  | stdout
  | stderr
  deriving DecidableEq, Repr

/-- The name of a stream. -/
def Channel.name : Channel → String
  | .stdout => "stdout"
  | .stderr => "stderr"

/-- The stream of a name; anything but the one for results counts as the one for messages. -/
def Channel.ofName (name : String) : Channel := if name = "stdout" then .stdout else .stderr

/-- A line that the engine printed. -/
structure Line where
  channel : Channel
  text : String
  deriving DecidableEq, Repr

/-- Why a run of the engine failed. The last lines of its messages are kept. -/
inductive Fault where
  | notStarted (program reason : String)
  | exited (code : Int) (tail : List String)
  | timedOut (seconds : Binary64) (tail : List String)
  | noOutput
  | reported (message : String)
  deriving DecidableEq

namespace Fault

/-- The wording of a failure. -/
def message : Fault → String
  | .notStarted program reason => s!"Failed to spawn {program}: {reason}"
  | .exited code _ => s!"FFmpeg exited with code: {code}"
  | .timedOut seconds _ => s!"FFmpeg timed out after {seconds.measureText}s"
  | .noOutput => "Compression completed but output file not found"
  | .reported message => (given? (some message)).getD (FaultKind.message .engine)

/-- The exit code behind a failure. -/
def exitCode? : Fault → Option Int
  | .exited code _ => some code
  | _ => none

/-- Whether the run was ended by its time limit. -/
def isTimeout : Fault → Bool
  | .timedOut .. => true
  | _ => false

/-- The last lines of messages before a failure. -/
def tail : Fault → List String
  | .exited _ tail | .timedOut _ tail => tail
  | _ => []

/-- The last lines of messages as one text. -/
def tailText (fault : Fault) : String := "\n".intercalate fault.tail

/-- The coded fault of a failure. -/
def toService (fault : Fault) : ServiceFault := ServiceFault.ofMessage .engine fault.message

end Fault

/-- How a run of the engine ends for the one who waits for it. -/
inductive Outcome where
  | finished (milliseconds : Nat)
  | failed (fault : Fault)
  | crashed (fault : JobFault)
  deriving DecidableEq

end Montage.Engine
