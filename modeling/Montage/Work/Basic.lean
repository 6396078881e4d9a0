import Montage.Download.Exchange
import Montage.Engine.Outcome
import Montage.Files.Tree
import Montage.Number.Numeral
import Montage.Progress.Event

/-! # Work

What a job does is a tree of steps. Each step asks the surroundings for one thing, and the answer
chooses how the work goes on. Some steps wait; only there may other jobs go on in between, and only
there does a cancellation arrive, as one of the answers. A work ends with a result, with a fault, or
cancelled.
-/

namespace Montage

/-- What becomes of something that is waited for. -/
inductive Awaited (α : Type) where
  | arrived (value : α)
  | cancelled

/-- One thing that a job asks of its surroundings. -/
inductive Step where
  /-- Tells the observers of the job. -/
  | emit (phase : Phase) (message : String) (data : Option Json)
  /-- Looks at the clock. -/
  | clock
  /-- Looks at the files. -/
  | files
  /-- Makes a directory and those above it. -/
  | makeDirectories (path : Path)
  /-- Opens a file that is written anew. -/
  | create (path : Path)
  /-- Writes a piece to an open file. -/
  | extend (number : Nat) (piece : ByteArray)
  /-- Gives a file another name. -/
  | rename (path target : Path)
  /-- Removes a file if it is there. -/
  | remove (path : Path)
  /-- Sends a request to an address, or to where it was sent on by the answers so far. -/
  | request (url : String) (redirects : List String)
  /-- Waits for the next piece of a response. -/
  | receive
  /-- Starts the engine, with a time limit if it is not the usual one, and sees what it prints. -/
  | launch (args : List String) (timeout : Option Binary64)
  /-- Waits for the end of the engine. -/
  | collect
  /-- Waits until a gate is open. -/
  | wait (gate : String)

/-- What a step is answered with. -/
def Step.Answer : Step → Type
  | .emit .. => Unit
  | .clock => Binary64
  | .files => Files
  | .makeDirectories _ | .rename .. => Except FileFault Unit
  | .create _ => Except FileFault Nat
  | .extend .. | .remove _ => Unit
  | .request .. => Awaited Exchange
  | .receive => Awaited Unit
  | .launch .. => Awaited (List Engine.Line)
  | .collect => Awaited Engine.Outcome
  | .wait _ => Awaited Unit

/-- The answer that a waiting step gets when its job is cancelled; other steps do not wait. -/
def Step.cancellation? : (step : Step) → Option step.Answer
  | .request .. | .receive | .launch .. | .collect | .wait _ => some .cancelled
  | .emit .. | .clock | .files | .makeDirectories _ | .create _ | .extend .. | .rename ..
  | .remove _ => none

/-- The work of a job. -/
inductive Work (α : Type) where
  | done (value : α)
  | failed (fault : JobFault)
  | cancelled
  | ask (step : Step) (next : step.Answer → Work α)

namespace Work

/-- One work after another; the second is chosen by the result of the first. -/
def bind {α β : Type} : Work α → (α → Work β) → Work β
  | .done value, f => f value
  | .failed fault, _ => .failed fault
  | .cancelled, _ => .cancelled
  | .ask step next, f => .ask step fun answer => (next answer).bind f

instance : Monad Work where
  pure := .done
  bind := Work.bind

/-- A work with another one after it, however it ends. -/
def ensuring {α : Type} (cleanup : Work Unit) : Work α → Work α
  | .done value => cleanup.bind fun _ => .done value
  | .failed fault => cleanup.bind fun _ => .failed fault
  | .cancelled => cleanup.bind fun _ => .cancelled
  | .ask step next => .ask step fun answer => ensuring cleanup (next answer)

/-- The work of a single step that cannot be cancelled. -/
def perform (step : Step) : Work step.Answer := .ask step .done

/-- The work that goes on with what arrived. -/
def ofAwaited {α : Type} : Awaited α → Work α
  | .arrived value => .done value
  | .cancelled => .cancelled

/-- The work that goes on with a value, or fails with the fault instead of it. -/
def ofExcept {ε α : Type} (toFault : ε → JobFault) : Except ε α → Work α
  | .ok value => .done value
  | .error fault => .failed (toFault fault)

end Work

/-- The class of a fault that comes from files. -/
def FileFault.kind : FileFault → PlainKind
  | .missing _ | .lost .. => .missingFile
  | .exists _ => .existingFile
  | .notDirectory _ => .notDirectory
  | .isDirectory _ | .replacesDirectory .. => .isDirectory
  | .busy .. | .tooLong _ => .system
  | .holdsNull => .value

/-- The fault of a job that comes from its files. -/
def FileFault.toJob (fault : FileFault) : JobFault := .plain fault.kind fault.message

/-- The fault of a job that comes from a number. -/
def RangeFault.toJob (fault : RangeFault) : JobFault :=
  match fault with
  | .integerOfNan => .plain .value fault.message
  | _ => .plain .range fault.message

/-- The fault of a job that comes from a run of digits. -/
def IntegerFault.toJob (fault : IntegerFault) : JobFault := .plain .value fault.message

namespace Work

/-- Tells the observers of the job. A job does not announce its own end. -/
def emit (phase : Phase) (message : String) (data : Option Json) : Work Unit :=
  if phase.isTerminal then
    .failed (.plain .value "Terminal events are published by the job service")
  else perform (.emit phase message data)

/-- Looks at the clock. -/
def clock : Work Binary64 := perform .clock

/-- Looks at the files. -/
def files : Work Files := perform .files

/-- Looks whether a path leads to a regular file. -/
def isFile (path : Path) : Work Bool := do
  ofExcept FileFault.toJob ((← files).isFile path)

/-- Makes a directory and those above it. -/
def makeDirectories (path : Path) : Work Unit := do
  ofExcept FileFault.toJob (← perform (.makeDirectories path))

/-- Opens a file that is written anew, and answers its number. -/
def create (path : Path) : Work Nat := do
  ofExcept FileFault.toJob (← perform (.create path))

/-- Writes a piece to an open file. -/
def extend (number : Nat) (piece : ByteArray) : Work Unit := perform (.extend number piece)

/-- Gives a file another name. -/
def rename (path target : Path) : Work Unit := do
  ofExcept FileFault.toJob (← perform (.rename path target))

/-- Removes a file if it is there. -/
def remove (path : Path) : Work Unit := perform (.remove path)

/-- Sends a request to an address, or to where it was sent on by the answers so far. -/
def request (url : String) (redirects : List String) : Work Exchange := do
  ofAwaited (← perform (.request url redirects))

/-- Waits for the next piece of a response. -/
def receive : Work Unit := do
  ofAwaited (← perform .receive)

/-- Waits until a gate is open. -/
def wait (gate : String) : Work Unit := do
  ofAwaited (← perform (.wait gate))

/-- Runs the engine. Each line it prints is handled in turn before its end is waited for, and what the
handling keeps in mind is handed on. -/
def runEngine {σ : Type} (args : List String) (timeout : Option Binary64)
    (onLine : σ → Engine.Line → Work σ) (mind : σ) : Work (Engine.Outcome × σ) := do
  let lines ← ofAwaited (← perform (.launch args timeout))
  let mind ← lines.foldlM onLine mind
  let outcome ← ofAwaited (← perform .collect)
  return (outcome, mind)

/-- Lets a work go on for as long as its steps are answered. A step without an answer waits. -/
def advance {σ α : Type} (answer? : (step : Step) → σ → Option (step.Answer × σ)) :
    Work α → σ → Work α × σ
  | .ask step next, state =>
    match answer? step state with
    | some (answer, state) => advance answer? (next answer) state
    | none => (.ask step next, state)
  | ended, state => (ended, state)

/-- Whether a work has ended. -/
def isEnded {α : Type} : Work α → Bool
  | .ask .. => false
  | _ => true

/-- A work whose job is cancelled while it waits. -/
def interrupt {α : Type} : Work α → Work α
  | .ask step next =>
    match step.cancellation? with
    | some answer => next answer
    | none => .ask step next
  | ended => ended

end Work

end Montage
