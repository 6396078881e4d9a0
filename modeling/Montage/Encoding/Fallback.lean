import Montage.Encoding.Profile
import Montage.Work.Basic

/-! # Falling back on other profiles

A scene is encoded with the first of its profiles that the engine succeeds with. Every profile is
tried at most once, in order; only a failure of the engine itself leads on to the next one.
-/

namespace Montage.Encoding

/-- What is known of a successful encoding: its profile, the profiles tried, and how long it took. -/
structure Encoded where
  profile : Profile
  attempts : List String
  milliseconds : Nat
  deriving DecidableEq

/-- What is known when no profile is left: those tried, and the last failure if there was any. -/
structure Exhausted where
  attempts : List String
  last : Option Engine.Fault
  deriving DecidableEq

/-- The coded fault of running out of profiles. -/
def Exhausted.toService (exhausted : Exhausted) : ServiceFault :=
  .encodingExhausted (exhausted.last.map Engine.Fault.message)

/-- An encoding: the common part of its engine calls, its output and its time limit, and what is done
before each attempt and with each line. -/
structure Attempt (σ : Type) where
  base : List String
  output : String
  timeout : Option Binary64 := none
  onAttempt : Profile → Work Unit
  onLine : σ → Engine.Line → Work σ

namespace Attempt

variable {σ : Type}

/-- Tries the profiles that are left, after those in `tried`, the last of which failed with `last`.
What the handling of lines keeps in mind goes on from one attempt to the next. -/
def tryFrom (attempt : Attempt σ) (tried : List String) (last : Option Engine.Fault) (mind : σ) :
    List Profile → Work (Except Exhausted Encoded)
  | [] => return .error ⟨tried, last⟩
  | profile :: rest => do
    attempt.onAttempt profile
    let tried := tried ++ [profile.name]
    let call := command attempt.base profile attempt.output true
    let (outcome, mind) ← Work.runEngine call attempt.timeout attempt.onLine mind
    match outcome with
    | .finished milliseconds => return .ok ⟨profile, tried, milliseconds⟩
    | .failed fault => tryFrom attempt tried (some fault) mind rest
    | .crashed fault => .failed fault

/-- Tries profiles in order. -/
def run (attempt : Attempt σ) (mind : σ) (profiles : List Profile) :
    Work (Except Exhausted Encoded) :=
  attempt.tryFrom [] none mind profiles

end Attempt

end Montage.Encoding
