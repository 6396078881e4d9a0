import Montage.Work.Basic

/-! # Surroundings

Surroundings hold the files, the clock and the gates, and a script of what comes in from outside: the
answers to requests and the turns of the engine, by number. They answer every step of a work, except
that a closed gate makes a step wait.
-/

namespace Montage

/-- What the engine does in one call: the lines it prints, the output it leaves, and its end. -/
structure EngineTurn where
  lines : List Engine.Line := []
  output : Option ByteArray := none
  outcome : Engine.Outcome

/-- The surroundings of works. -/
structure World where
  files : Files := {}
  now : Moment := { seconds := 1000 }
  openGates : List String := []
  /-- The gate that holds back the first call of the engine. -/
  engineGate : Option String := none
  exchange : Nat → Exchange
  turn : Nat → EngineTurn
  requests : Nat := 0
  calls : List (List String × Option Binary64) := []

namespace World

/-- Whether a gate is open. -/
def isOpen (world : World) (gate : String) : Bool := world.openGates.contains gate

/-- Opens a gate for good. -/
def openGate (world : World) (gate : String) : World :=
  { world with openGates := gate :: world.openGates }

/-- Whether the next call of the engine is held back. -/
def holdsEngine (world : World) : Bool :=
  match world.engineGate with
  | some gate => world.calls.isEmpty && !world.isOpen gate
  | none => false

/-- Changes the files if that is not refused. -/
def changeFiles (world : World) (result : Except FileFault Files) : Except FileFault Unit × World :=
  match result with
  | .ok files => (.ok (), { world with files := files })
  | .error fault => (.error fault, world)

/-- Opens a file if that is not refused. -/
def openFile (world : World) (result : Except FileFault (Nat × Files)) :
    Except FileFault Nat × World :=
  match result with
  | .ok (number, files) => (.ok number, { world with files := files })
  | .error fault => (.error fault, world)

/-- The end of the engine's last call. Its output is written to the last argument. -/
def collect (world : World) : Engine.Outcome × World :=
  let turn := world.turn world.calls.length
  match turn.output with
  | none => (turn.outcome, world)
  | some content =>
    let args := (world.calls.getLast?.map Prod.fst).getD []
    match world.files.write (Path.ofText (args.getLast?.getD "")) content with
    | .ok files => (turn.outcome, { world with files := files })
    | .error fault => (.crashed fault.toJob, world)

/-- Answers a step, or lets it wait. What a job tells goes elsewhere. -/
def answer? : (step : Step) → World → Option (step.Answer × World)
  | .emit .., world => some ((), world)
  | .clock, world => some (world.now.seconds, world)
  | .files, world => some (world.files, world)
  | .makeDirectories path, world => some (world.changeFiles (world.files.makeDirectories path))
  | .create path, world => some (world.openFile (world.files.create path))
  | .extend number piece, world => some ((), { world with files := world.files.extend number piece })
  | .rename path target, world => some (world.changeFiles (world.files.rename path target))
  | .remove path, world => some ((), { world with files := world.files.remove path })
  | .request .., world =>
    some (.arrived (world.exchange (world.requests + 1)),
      { world with requests := world.requests + 1 })
  | .receive, world => some (.arrived (), world)
  | .launch args timeout, world =>
    if world.holdsEngine then none
    else
      let world := { world with calls := world.calls ++ [(args, timeout)] }
      some (.arrived (world.turn world.calls.length).lines, world)
  | .collect, world =>
    let (outcome, world) := world.collect
    some (.arrived outcome, world)
  | .wait gate, world => if world.isOpen gate then some (.arrived (), world) else none

/-- Answers a step and keeps what the job tells, in order. -/
def witness? (step : Step) : World × List Event → Option (step.Answer × (World × List Event))
  | (world, events) =>
    match step with
    | .emit phase message data =>
      some ((), (world, events ++ [{ phase := phase, message := message, data := data }]))
    | step => (world.answer? step).map fun (answer, world) => (answer, (world, events))

/-- Lets one work go on by itself and keeps what it tells. -/
def perform {α : Type} (world : World) (work : Work α) : Work α × World × List Event :=
  work.advance witness? (world, [])

end World

end Montage
