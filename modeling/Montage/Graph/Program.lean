import Montage.Number.Numeral

/-! # Filter programs

A program is a list of statements over named pads. A statement reads pads that earlier statements
produced, or streams of the engine's inputs, applies a chain of filters and produces one pad. A sound
program is a tree: every pad is produced once, read once after that, and the last one is the output.
-/

namespace Montage.Graph

/-- One chain of filters between the pads it reads and the pad it produces. -/
structure Statement where
  inputs : List String
  chain : String
  output : String
  deriving DecidableEq, Repr

/-- The statements in order and the pad that is the program's output. -/
structure Program where
  statements : List Statement := []
  outputPad : Option String := none
  deriving DecidableEq, Repr

/-- A pad's label. -/
def label (pad : String) : String := "[" ++ pad ++ "]"

/-- A statement as the engine reads it. -/
def Statement.render (s : Statement) : String :=
  String.join (s.inputs.map label) ++ s.chain ++ label s.output

namespace Program

/-- Appends a statement, whose pad becomes the output. -/
def add (p : Program) (s : Statement) : Program :=
  { statements := p.statements ++ [s], outputPad := some s.output }

/-- Appends statements in order. -/
def addAll (p : Program) (statements : List Statement) : Program := statements.foldl add p

/-- The pads that the statements produce, in order. -/
def producedPads (p : Program) : List String := p.statements.map Statement.output

/-- The program as the engine reads it. -/
def render (p : Program) : String := ";".intercalate (p.statements.map Statement.render)

end Program

/-- The number of an input stream, before the first colon of its selector, and what comes after. -/
def splitSelector (pad : String) : List Char × List Char :=
  let head := pad.toList.takeWhile (· != ':')
  (head, (pad.toList.drop head.length).drop 1)

/-- Whether a pad names a video or audio stream of an input. -/
def isSelector (pad : String) : Bool :=
  let (head, tail) := splitSelector pad
  Text.isDigitRun head && (tail == ['v'] || tail == ['a'])

/-- What makes a program unsound. -/
inductive Fault where
  | missingInput (statement : Nat) (pad : String) (inputs : Int)
  | unknownPad (statement : Nat) (pad : String)
  | readTwice (pad : String)
  | producedTwice (pad : String)
  | outputNotLast
  | unread (pads : List String)
  | selector (fault : IntegerFault)
  deriving DecidableEq, Repr

/-- The wording of a fault. -/
def Fault.message : Fault → String
  | .missingInput statement pad inputs =>
    s!"Statement {statement} reads input stream {pad} but only {inputs} inputs exist"
  | .unknownPad statement pad =>
    s!"Statement {statement} references pad '" ++ pad ++ "' before it is produced"
  | .readTwice pad => "Pad '" ++ pad ++ "' is consumed more than once"
  | .producedTwice pad => "Pad '" ++ pad ++ "' is produced twice"
  | .outputNotLast => "Program output must be the last produced pad"
  | .unread pads => "Pads produced but never consumed: " ++ ", ".intercalate pads
  | .selector fault => fault.message

/-- The pads produced and the pads read by the statements checked so far. -/
structure Usage where
  produced : List String := []
  consumed : List String := []

/-- Checks one pad that a statement reads. -/
def Usage.readPad (inputs : Int) (statement : Nat) (usage : Usage) (pad : String) :
    Except Fault Usage :=
  if isSelector pad then
    match readInteger (splitSelector pad).1 with
    | .error fault => .error (.selector fault)
    | .ok stream =>
      if inputs ≤ stream then .error (.missingInput statement pad inputs) else .ok usage
  else if !usage.produced.contains pad then .error (.unknownPad statement pad)
  else if usage.consumed.contains pad then .error (.readTwice pad)
  else .ok { usage with consumed := pad :: usage.consumed }

/-- Checks a statement: the pads that it reads, then the one that it produces. -/
def Usage.check (inputs : Int) (usage : Usage) (statement : Statement × Nat) :
    Except Fault Usage := do
  let usage ← statement.1.inputs.foldlM (readPad inputs statement.2) usage
  if usage.produced.contains statement.1.output then .error (.producedTwice statement.1.output)
  else .ok { usage with produced := statement.1.output :: usage.produced }

/-- The order of names by code point. -/
def nameLe (a b : String) : Bool := decide (a ≤ b)

/-- Refuses a program that is no tree over the given number of engine inputs. -/
def Program.validate (p : Program) (inputs : Int) : Except Fault Unit := do
  let usage ← p.statements.zipIdx.foldlM (Usage.check inputs) {}
  match p.statements.getLast? with
  | none => .error .outputNotLast
  | some last =>
    if p.outputPad ≠ some last.output then .error .outputNotLast
    else
      match usage.produced.filter fun pad => !usage.consumed.contains pad && pad != last.output with
      | [] => .ok ()
      | unread => .error (.unread (unread.mergeSort nameLe))

end Montage.Graph
