import Montage.Entries
import Montage.Json.Basic
import Montage.Number.Numeral
import Montage.Text.Search

/-! # Engine reports

The engine tells how far it is in two ways. A block is a run of lines with one key and value each,
closed by the key `progress`. A statistics line holds all its fields side by side. Every other line is
reported as it stands.

A reader of blocks keeps the keys that it has seen since the last closed block. It is empty again after
the closing line, whether or not the values could be summarized.
-/

namespace Montage.Engine

/-- What one or more lines of the engine tell. -/
structure Report where
  message : String
  data : Option (List (String × Json)) := none

/-- Why lines of the engine cannot be reported: a number that has no integer value, or too many
digits. -/
inductive ReportFault where
  | range (fault : RangeFault)
  | integer (fault : IntegerFault)
  deriving DecidableEq

/-- The wording of a fault. -/
def ReportFault.message : ReportFault → String
  | .range fault => fault.message
  | .integer fault => fault.message

namespace Report

/-- The keys of blocks, apart from those of single streams. -/
def knownKeys : List String :=
  ["frame", "fps", "bitrate", "total_size", "out_time_us", "out_time_ms", "out_time", "dup_frames",
    "drop_frames", "speed", "progress"]

/-- The keys whose values are whole numbers. -/
def countKeys : List String :=
  ["frame", "out_time_us", "out_time_ms", "dup_frames", "drop_frames", "total_size"]

/-- The name of a key in the data of a report. -/
def wireName : String → String
  | "total_size" => "totalSize"
  | "out_time_us" => "outTimeUs"
  | "out_time_ms" => "outTimeMs"
  | "out_time" => "outTime"
  | "dup_frames" => "dupFrames"
  | "drop_frames" => "dropFrames"
  | key => key

/-- Whether a character may stand in a key. -/
def isKeyChar (c : Char) : Bool := c.isLower || c.isDigit || c == '_'

/-- A line that is a key, an equals sign and a value without blanks in it. -/
def keyValue? (line : List Char) : Option (String × String) :=
  let key := line.takeWhile isKeyChar
  match line.dropWhile isKeyChar with
  | '=' :: rest =>
    let value := Text.dropBlank rest
    if key ≠ [] ∧ ¬ value.any Text.isBlank then some (String.ofList key, String.ofList value) else none
  | _ => none

/-- The text after a run of decimal digits, at least one. -/
def afterDigits? (s : List Char) : Option (List Char) :=
  (Text.run? Char.isDigit s).map fun _ => s.dropWhile Char.isDigit

/-- Whether a key is that of the quality of one stream. -/
def isStreamKey (key : String) : Bool :=
  let rest? : Option (List Char) := do
    let rest ← Text.afterStart? "stream_".toList key.toList
    let rest ← afterDigits? rest
    let rest ← Text.afterStart? "_".toList rest
    let rest ← afterDigits? rest
    Text.afterStart? "_q".toList rest
  rest? == some []

/-- The value of a field: a number if it can be read as one, else the text. -/
def fieldValue (text : String) : Json :=
  match readNumeral? text.toList with
  | some x => .num x
  | none => .str text

/-- The value of a field that counts something: a whole number if it can be read as a number, else the
text. -/
def countValue (text : String) : Except ReportFault Json :=
  match readNumeral? text.toList with
  | some x => (x.truncate.map Json.int).mapError .range
  | none => .ok (.str text)

/-- The value of a key of a block. -/
def blockValue (key text : String) : Except ReportFault Json :=
  if countKeys.contains key then countValue text
  else if key = "fps" then .ok (fieldValue text)
  else .ok (.str text)

/-- The data of a block; keys of single streams are left out. -/
def blockData : List (String × String) → Except ReportFault (List (String × Json))
  | [] => .ok []
  | (key, text) :: rest =>
    if isStreamKey key then blockData rest
    else do
      let value ← blockValue key text
      let others ← blockData rest
      return (wireName key, value) :: others

/-- The message on a position in the output and a speed. -/
def timeMessage (time speed : String) : String := s!"Processing... Time: {time}, Speed: {speed}"

/-- The message on a number of frames. -/
def frameMessage (frame : String) : String := s!"Processing frame {frame}..."

/-- A value that is there and not empty. -/
def filled? (block : List (String × String)) (key : String) : Option String :=
  (block.lookup key).filter fun text => text ≠ ""

/-- The message on a block. -/
def blockMessage (block : List (String × String)) : String :=
  if block.lookup "progress" = some "end" then "Encoding finished"
  else
    match filled? block "out_time", filled? block "speed", block.lookup "frame" with
    | some time, some speed, _ => timeMessage time speed
    | _, _, some frame => frameMessage frame
    | _, _, none => "Processing..."

/-- The report on a block. -/
def ofBlock (block : List (String × String)) : Except ReportFault Report := do
  return { message := blockMessage block, data := some (← blockData block) }

/-- What a reader finds after a word and blanks, at the first place where it finds anything. -/
def fieldAfter? {α : Type} (name : String) (read? : List Char → Option α) (line : List Char) :
    Option α :=
  Text.findFirst? (fun s =>
    (Text.afterStart? name.toList s).bind fun rest => read? (Text.dropBlank rest)) line

/-- The value of a field of a statistics line: what follows up to the next blank. -/
def tokenField? (name : String) (line : List Char) : Option String :=
  (fieldAfter? name (Text.run? fun c => !Text.isBlank c) line).map String.ofList

/-- The digits of a field of a statistics line. -/
def digitField? (name : String) (line : List Char) : Option (List Char) :=
  fieldAfter? name (Text.run? Text.isDecimalDigit) line

/-- The digits and points of a field of a statistics line. -/
def numeralField? (name : String) (line : List Char) : Option String :=
  (fieldAfter? name (Text.run? fun c => Text.isDecimalDigit c || c == '.') line).map String.ofList

/-- The number of frames of a statistics line. -/
def frameCount? (line : List Char) : Except ReportFault (Option Nat) :=
  match digitField? "frame=" line with
  | none => .ok none
  | some digits => ((readInteger digits).map some).mapError .integer

/-- A field if there is a value for it. -/
def optionalField (name : String) (value : Option Json) : List (String × Json) :=
  match value with
  | none => []
  | some value => [(name, value)]

/-- The report on a statistics line with a position in the output, if it also has a speed. -/
def ofTimedLine (line : List Char) : Except ReportFault Report :=
  match tokenField? "time=" line, tokenField? "speed=" line with
  | some time, some speed => do
    let frame ← frameCount? line
    return {
      message := timeMessage time speed
      data := some ([("time", .str time), ("speed", .str speed)] ++
        optionalField "frame" (frame.map fun n => .int n) ++
        optionalField "fps" ((numeralField? "fps=" line).map fieldValue) ++
        optionalField "bitrate" ((tokenField? "bitrate=" line).map .str)) }
  | _, _ => .ok { message := String.ofList line }

/-- The report on a line that belongs to no block. -/
def ofLine (line : List Char) : Except ReportFault Report :=
  if Text.mentions "time=" line then ofTimedLine line
  else do
    match ← frameCount? line with
    | some frame => return { message := frameMessage (toString frame), data := some [("frame", .int frame)] }
    | none => return { message := String.ofList line }

/-- The report on a single line: a key and value count as a block of their own. -/
def ofSingleLine (line : String) : Except ReportFault (Option Report) :=
  let line := Text.strip line.toList
  if line = [] then .ok none
  else
    match keyValue? line with
    | some (key, value) =>
      if knownKeys.contains key then (ofBlock [(key, value)]).map some else (ofLine line).map some
    | none => (ofLine line).map some

end Report

/-- A reader of blocks: the keys and values since the last closed block. -/
structure ReportReader where
  block : List (String × String) := []
  deriving DecidableEq

namespace ReportReader

/-- A line that is a key and value of a block. -/
def blockLine? (line : List Char) : Option (String × String) :=
  (Report.keyValue? line).filter fun entry =>
    Report.knownKeys.contains entry.1 || Report.isStreamKey entry.1

/-- Reads a line. A blank line and a line inside a block are not reported. -/
def feed (reader : ReportReader) (line : String) :
    ReportReader × Except ReportFault (Option Report) :=
  let line := Text.strip line.toList
  if line = [] then (reader, .ok none)
  else
    match blockLine? line with
    | none => (reader, (Report.ofLine line).map some)
    | some (key, value) =>
      let block := Entries.set reader.block key value
      if key = "progress" then ({}, (Report.ofBlock block).map some) else ({ block := block }, .ok none)

end ReportReader

end Montage.Engine
