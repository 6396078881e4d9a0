import Montage.Progress.Event

/-! # Messages

What an observer is sent: a greeting, each event, and a sign of life in between. A message goes out as
one frame of a line and a blank line.
-/

namespace Montage.Message

/-- The greeting of an observer. -/
def connected (jobId : String) (timestamp : Int) : Json :=
  .obj [("type", .str "connected"), ("jobId", .str jobId), ("timestamp", .int timestamp),
    ("message", .str "Connected to job progress stream")]

/-- An event; the terminal one has a type of its own. -/
def progress (jobId : String) (event : Event) : Json :=
  .obj ([("type", .str (if event.isTerminal then "completion" else "progress")),
    ("jobId", .str jobId)] ++ event.fields)

/-- A sign of life. -/
def heartbeat (jobId : String) (timestamp : Int) : Json :=
  .obj [("type", .str "heartbeat"), ("jobId", .str jobId), ("timestamp", .int timestamp)]

/-- The frame of a message. -/
def frame (message : Json) : List Char := "data: ".toList ++ message.render ++ ['\n', '\n']

end Montage.Message
