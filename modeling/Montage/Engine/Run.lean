import Montage.Engine.LineReader
import Montage.Engine.Outcome
import Montage.Settings

/-! # Running the engine

A run follows one process from its start to its end. What can happen to it is a list of events: pieces
of output arrive, the exit code becomes known, the runner resumes once all that it waits for is over,
or the time limit or a cancellation strikes first. Every line is handed to a handler, which may fail; no
more is read of that stream then, and the run ends with the first failure when the runner resumes.

The process is killed when the time limit or a cancellation strikes, unless its exit code is known. A
handler that itself reports a timeout or a cancellation is taken for these. Nothing kills the process
when the handler fails with anything else.
-/

namespace Montage.Engine

/-- What can happen while a process runs. A piece without octets is the end of its stream. -/
inductive RunEvent where
  | arrived (channel : Channel) (octets : List UInt8)
  | exited (code : Int)
  | resumed
  | expired
  | cancelled
  deriving DecidableEq

/-- How a handler of lines fails: with a fault of its own, or as if the time limit or a cancellation had
struck. -/
inductive LineFault (ε : Type) where
  | own (fault : ε)
  | timeout
  | cancellation

/-- How a run ends: well, with a failure of the engine or of the handler of lines, or cancelled. -/
inductive RunEnd (ε : Type) where
  | finished
  | failed (fault : Fault)
  | crashed (fault : ε)
  | cancelled
  deriving DecidableEq

/-- A run, with what its handler of lines keeps in mind, and its first failure. A stream without a reader
has ended, or its handler has failed. -/
structure Run (σ ε : Type) where
  mind : σ
  stdout : Option LineReader := some {}
  stderr : Option LineReader := some {}
  exitCode : Option Int := none
  tail : List String := []
  kills : Nat := 0
  fault : Option (LineFault ε) := none
  ended : Option (RunEnd ε) := none

/-- The number of lines of messages that are kept for a failure. -/
def tailLength : Nat := 20

/-- The last lines of messages after one more. -/
def keepTail (tail : List String) (line : String) : List String :=
  let all := tail ++ [line]
  all.drop (all.length - tailLength)

namespace Run

variable {σ ε : Type}

/-- The reader of a stream. -/
def reader (run : Run σ ε) : Channel → Option LineReader
  | .stdout => run.stdout
  | .stderr => run.stderr

/-- Replaces the reader of a stream. -/
def setReader (run : Run σ ε) (channel : Channel) (reader : Option LineReader) : Run σ ε :=
  match channel with
  | .stdout => { run with stdout := reader }
  | .stderr => { run with stderr := reader }

/-- Keeps a line if it is one of messages. -/
def note (run : Run σ ε) (channel : Channel) (text : String) : Run σ ε :=
  match channel with
  | .stdout => run
  | .stderr => { run with tail := keepTail run.tail text }

/-- The handler fails on a line of a stream, of which nothing more is read. -/
def fail (run : Run σ ε) (channel : Channel) (fault : LineFault ε) : Run σ ε :=
  { run.setReader channel none with fault := some (run.fault.getD fault) }

/-- Hands lines of a stream to the handler, up to one that it fails on. -/
def handle (onLine : σ → Line → Except (LineFault ε) σ) (channel : Channel) (run : Run σ ε) :
    List String → Run σ ε
  | [] => run
  | text :: rest =>
    let run := run.note channel text
    match onLine run.mind ⟨channel, text⟩ with
    | .ok mind => handle onLine channel { run with mind := mind } rest
    | .error fault => run.fail channel fault

/-- A piece of a stream arrives. -/
def arrive (onLine : σ → Line → Except (LineFault ε) σ) (run : Run σ ε) (channel : Channel)
    (octets : List UInt8) : Run σ ε :=
  match run.reader channel with
  | none => run
  | some reader =>
    if octets = [] then handle onLine channel (run.setReader channel none) reader.finish
    else
      let (reader, lines) := reader.read octets
      handle onLine channel (run.setReader channel (some reader)) lines

/-- Kills the process unless its exit code is known, and ends the run. -/
def abort (run : Run σ ε) (last : RunEnd ε) : Run σ ε :=
  { run with
    kills := if run.exitCode.isNone then run.kills + 1 else run.kills
    ended := some last }

/-- Kills the process, unless its exit code is known, since its time is over. -/
def expire (limit : Binary64) (run : Run σ ε) : Run σ ε :=
  run.abort (.failed (.timedOut limit run.tail))

/-- The runner resumes: the run ends if the handler has failed, or if both streams have ended and the exit
code is known. -/
def resume (limit : Binary64) (run : Run σ ε) : Run σ ε :=
  match run.fault with
  | some (.own fault) => { run with ended := some (.crashed fault) }
  | some .timeout => run.expire limit
  | some .cancellation => run.abort .cancelled
  | none =>
    match run.stdout, run.stderr, run.exitCode with
    | none, none, some code =>
      { run with
        ended := some (if code = 0 then .finished else .failed (.exited code run.tail)) }
    | _, _, _ => run

/-- One event happens; after the end nothing does. -/
def step (limit : Binary64) (onLine : σ → Line → Except (LineFault ε) σ) (run : Run σ ε)
    (event : RunEvent) : Run σ ε :=
  match run.ended with
  | some _ => run
  | none =>
    match event with
    | .arrived channel octets => run.arrive onLine channel octets
    | .exited code => { run with exitCode := some (run.exitCode.getD code) }
    | .resumed => run.resume limit
    | .expired => run.expire limit
    | .cancelled => run.abort .cancelled

/-- A list of events happens. -/
def follow (limit : Binary64) (onLine : σ → Line → Except (LineFault ε) σ) (run : Run σ ε)
    (events : List RunEvent) : Run σ ε :=
  events.foldl (step limit onLine) run

/-- A run with all its events. A time limit that leaves no time strikes before any of them. -/
def execute (limit : Binary64) (onLine : σ → Line → Except (LineFault ε) σ) (run : Run σ ε)
    (events : List RunEvent) : Run σ ε :=
  run.follow limit onLine (if limit.le .zero then .expired :: events else events)

end Run

/-- The time limit of a run: the one that is asked for, or that of the settings. -/
def timeLimit (settings : Settings) (timeout : Option Binary64) : Binary64 :=
  timeout.getD settings.engineTimeout

/-- The call that finds out whether the engine can be run. -/
def probeArgs (settings : Settings) : List String := [settings.enginePath, "-version"]

/-- The time limit of that call. -/
def probeLimit : Binary64 := 5

end Montage.Engine
