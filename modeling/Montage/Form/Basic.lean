import Montage.Json.Basic

/-! # Forms

A form is an object whose fields are read one by one, each with a reader of its own. Reading stops at
the first fault, which carries the place where it was found: the names of fields and the positions of
items on the way to it. A field may go by two names, of which the first is looked for first and is the
one that faults mention. Fields that no reader asks for are passed over.
-/

namespace Montage

/-- Why a value is refused. -/
inductive FormProblem where
  | missing
  | notText
  | brokenText
  | emptyText
  | notNumber
  | unreadableNumber
  | notInteger
  | unreadableInteger
  | fractionalInteger
  | infiniteInteger
  | oversizedInteger
  | notBoolean
  | unreadableBoolean
  | notAbove (bound : Int)
  | belowBound (bound : Int)
  | aboveBound (bound : Int)
  | notList
  | notAmong (choices : List String)
  | notForm (form : String)
  deriving DecidableEq, Repr

/-- A value that is refused, and its place. -/
structure FormFault where
  place : List String := []
  problem : FormProblem
  deriving DecidableEq, Repr

/-- What a form may be read from, as a fault puts it. -/
inductive FormSource where
  | instances
  | attributes
  deriving DecidableEq, Repr

/-- A list of choices in words: commas between them, and an `or` before the last. -/
def choiceText : List String → String
  | [] => ""
  | [last] => "'" ++ last ++ "'"
  | [first, last] => "'" ++ first ++ "' or '" ++ last ++ "'"
  | first :: rest => "'" ++ first ++ "', " ++ choiceText rest

/-- The wording of a problem. -/
def FormProblem.message (source : FormSource) : FormProblem → String
  | .missing => "Field required"
  | .notText => "Input should be a valid string"
  | .brokenText => "Input should be a valid string, unable to parse raw data as a unicode string"
  | .emptyText => "String should have at least 1 character"
  | .notNumber => "Input should be a valid number"
  | .unreadableNumber => "Input should be a valid number, unable to parse string as a number"
  | .notInteger => "Input should be a valid integer"
  | .unreadableInteger => "Input should be a valid integer, unable to parse string as an integer"
  | .fractionalInteger => "Input should be a valid integer, got a number with a fractional part"
  | .infiniteInteger => "Input should be a finite number"
  | .oversizedInteger => "Unable to parse input string as an integer, exceeded maximum size"
  | .notBoolean => "Input should be a valid boolean"
  | .unreadableBoolean => "Input should be a valid boolean, unable to interpret input"
  | .notAbove bound => s!"Input should be greater than {bound}"
  | .belowBound bound => s!"Input should be greater than or equal to {bound}"
  | .aboveBound bound => s!"Input should be less than or equal to {bound}"
  | .notList => "Input should be a valid list"
  | .notAmong choices => "Input should be " ++ choiceText choices
  | .notForm form =>
    match source with
    | .instances => s!"Input should be a valid dictionary or instance of {form}"
    | .attributes => "Input should be a valid dictionary or object to extract fields from"

namespace FormFault

/-- A fault at a place below a name. -/
def under (name : String) (fault : FormFault) : FormFault :=
  { fault with place := name :: fault.place }

/-- The wording of a fault: its place, if it has one, and its problem. -/
def message (source : FormSource) (fault : FormFault) : String :=
  let text := fault.problem.message source
  if fault.place = [] then text else " -> ".intercalate fault.place ++ ": " ++ text

end FormFault

/-- A reader of values. -/
abbrev FormReader (α : Type) : Type := Json → Except FormFault α

/-- The names of a field: the one on the wire, and the plain one. -/
structure FieldName where
  wire : String
  plain : String := wire
  deriving DecidableEq, Repr

instance : Coe String FieldName := ⟨fun name => { wire := name }⟩

namespace Form

/-- The fields of a form that is being read. -/
abbrev Fields : Type := List (String × Json)

/-- Refuses a value. -/
def refuse {α : Type} (problem : FormProblem) : Except FormFault α := .error { problem := problem }

/-- The value of a field under the first of its names that is there. -/
def find? (fields : Fields) (name : FieldName) : Option Json :=
  match fields.lookup name.wire with
  | some value => some value
  | none => fields.lookup name.plain

/-- A reader whose faults lie below a name. -/
def below {α : Type} (name : String) (read : FormReader α) : FormReader α :=
  fun value => (read value).mapError (FormFault.under name)

/-- Reads a field that has to be there. -/
def required {α : Type} (fields : Fields) (name : FieldName) (read : FormReader α) :
    Except FormFault α :=
  match find? fields name with
  | some value => below name.wire read value
  | none => (refuse .missing).mapError (FormFault.under name.wire)

/-- Reads a field if it is there. -/
def withDefault {α : Type} (fields : Fields) (name : FieldName) (default : α)
    (read : FormReader α) : Except FormFault α :=
  match find? fields name with
  | some value => below name.wire read value
  | none => .ok default

/-- A reader that takes null for no value. -/
def nullable {α : Type} (read : FormReader α) : FormReader (Option α)
  | .null => .ok none
  | value => (read value).map some

/-- Reads items one by one, the first of which has a given position. -/
def readItems {α : Type} (read : FormReader α) : Nat → List Json → Except FormFault (List α)
  | _, [] => .ok []
  | position, item :: rest => do
    let first ← below (toString position) read item
    let others ← readItems read (position + 1) rest
    return first :: others

/-- Reads a list. -/
def list {α : Type} (read : FormReader α) : FormReader (List α)
  | .arr items => readItems read 0 items
  | _ => refuse .notList

/-- Reads a form by its fields. -/
def form {α : Type} (name : String) (read : Fields → Except FormFault α) : FormReader α
  | .obj fields => read fields
  | _ => refuse (.notForm name)

end Form

end Montage
