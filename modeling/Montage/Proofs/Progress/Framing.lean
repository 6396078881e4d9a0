import Montage.Progress.Message
import Montage.Proofs.Json.RoundTrip

/-! # Frames are read back

An observer splits what it is sent into lines, and the lines into frames at the blank ones. The text of a message has no
line breaks, whatever the strings in it hold. Each message is therefore one frame of one line, in the order in which
they were sent, and is read back from it.
-/

namespace Montage.Message

open Json (IsPrintable)

/-- A text with one kind of line ends: a carriage return, with or without a line feed behind it, counts as a line feed. -/
def unified : List Char → List Char
  | [] => []
  | '\r' :: '\n' :: rest => '\n' :: unified rest
  | '\r' :: rest => '\n' :: unified rest
  | c :: rest => c :: unified rest

/-- The lines of a text. -/
def lines (s : List Char) : List (List Char) := (unified s).splitOn '\n'

/-- The frames of a text: the runs of its lines between blank ones. -/
def frames (s : List Char) : List (List (List Char)) :=
  ((lines s).splitOnP List.isEmpty).filter fun frame => !frame.isEmpty

variable {digits : Nat} {message : Json} {messages : List Json} {s rest : List Char}

theorem isPlain_connected (jobId : String) {timestamp : Int} (few : (decimalDigits timestamp.natAbs).length ≤ digits) :
    (connected jobId timestamp).IsPlain digits := by
  have keys : ["type", "jobId", "timestamp", "message"].Nodup := by decide
  refine .obj keys ?_
  simp only [List.forall_mem_cons]
  exact ⟨.str _, .str _, .int few, .str _, nofun⟩

theorem isPlain_heartbeat (jobId : String) {timestamp : Int} (few : (decimalDigits timestamp.natAbs).length ≤ digits) :
    (heartbeat jobId timestamp).IsPlain digits := by
  have keys : ["type", "jobId", "timestamp"].Nodup := by decide
  refine .obj keys ?_
  simp only [List.forall_mem_cons]
  exact ⟨.str _, .str _, .int few, nofun⟩

/-- An event makes a plain message if its data are plain. -/
theorem isPlain_progress (jobId : String) {event : Event}
    (few : (decimalDigits event.timestamp.natAbs).length ≤ digits)
    (plain : ∀ data ∈ event.data, data.IsPlain digits) : (progress jobId event).IsPlain digits := by
  obtain ⟨phase, message, data, timestamp⟩ := event
  cases data with
  | none =>
    have keys : ["type", "jobId", "timestamp", "phase", "message"].Nodup := by decide
    refine .obj keys ?_
    simp only [Event.fields, List.forall_mem_append, List.forall_mem_cons]
    exact ⟨⟨.str _, .str _, nofun⟩, ⟨.int few, .str _, .str _, nofun⟩, nofun⟩
  | some data =>
    have keys : ["type", "jobId", "timestamp", "phase", "message", "data"].Nodup := by decide
    refine .obj keys ?_
    simp only [Event.fields, List.forall_mem_append, List.forall_mem_cons]
    exact ⟨⟨.str _, .str _, nofun⟩, ⟨.int few, .str _, .str _, nofun⟩, plain data rfl, nofun⟩

/-- Line feeds are the only line ends that are left as they are. -/
theorem unified_eq (feeds : ∀ c ∈ s, c ≠ '\r') : unified s = s := by
  induction s with
  | nil => rfl
  | cons c rest ih =>
    obtain ⟨other, others⟩ := List.forall_mem_cons.mp feeds
    rw [unified, ih others]
    · exact fun _ same => absurd same other
    · exact other

/-- The line of a message. -/
def line (message : Json) : List Char := "data: ".toList ++ message.render

theorem frame_eq (message : Json) : frame message = line message ++ ['\n', '\n'] := rfl

theorem isPrintable_line (plain : message.IsPlain digits) : ∀ c ∈ line message, IsPrintable c :=
  List.forall_mem_append.mpr ⟨Json.forall_isPrintable rfl, Json.isPrintable_render plain⟩

/-- Neither of the line ends is printable. -/
theorem not_isPrintable : ¬IsPrintable '\n' ∧ ¬IsPrintable '\r' := by decide

/-- All line ends in frames are line feeds. -/
theorem ne_return_of_mem_frame (plain : message.IsPlain digits) : ∀ c ∈ frame message, c ≠ '\r' := by
  rw [frame_eq]
  refine List.forall_mem_append.mpr ⟨?_, by simp⟩
  rintro c member rfl
  exact not_isPrintable.2 (isPrintable_line plain _ member)

theorem ne_return_of_mem_frames (plain : ∀ message ∈ messages, message.IsPlain digits) :
    ∀ c ∈ messages.flatMap frame, c ≠ '\r' := by
  intro c member
  obtain ⟨message, sent, here⟩ := List.mem_flatMap.mp member
  exact ne_return_of_mem_frame (plain message sent) c here

/-- The first message of a text is its first frame. -/
theorem frames_frame (plain : message.IsPlain digits) (feeds : ∀ c ∈ rest, c ≠ '\r') :
    frames (frame message ++ rest) = [line message] :: frames rest := by
  have whole := unified_eq (List.forall_mem_append.mpr ⟨ne_return_of_mem_frame plain, feeds⟩)
  have unbroken : '\n' ∉ line message := fun member => not_isPrintable.1 (isPrintable_line plain _ member)
  have split : lines (frame message ++ rest) = line message :: [] :: lines rest := by
    rw [lines, lines, whole, unified_eq feeds, frame_eq, List.append_assoc, List.cons_append,
      List.splitOn_append_cons_self_of_not_mem unbroken]
    rfl
  have filled : List.isEmpty (line message) = false := rfl
  rw [frames, frames, split, ← List.singleton_append,
    List.splitOnP_append_cons_of_forall_mem (List.forall_mem_singleton.mpr filled) [] rfl]
  rfl

/-- Data with a line break in a key, values inside of values, and a number that no double is exactly. -/
def nested : Json :=
  .obj [("two\nlines", .arr [.null, .arr [.num (.ofRat (1 / 10)), .int (-3)], .obj [("", .bool true)]])]

theorem isPlain_nested : nested.IsPlain 2 := by
  have numbers : Json.IsPlain 2 (.arr [.num (.ofRat (1 / 10)), .int (-3)]) := by
    refine .arr ?_
    simp only [List.forall_mem_cons]
    exact ⟨.num (by decide +kernel), .int (by decide), nofun⟩
  have flag : Json.IsPlain 2 (.obj [("", .bool true)]) :=
    .obj (List.nodup_singleton _) (List.forall_mem_singleton.mpr (.bool true))
  refine .obj (List.nodup_singleton _) (List.forall_mem_singleton.mpr (.arr ?_))
  simp only [List.forall_mem_cons]
  exact ⟨.null, numbers, flag, nofun⟩

/-- The end of a job whose name looks like the end of a frame, with quotes, control characters, and letters and line
breaks that are not ASCII in what it tells. -/
def failure : Json :=
  progress "a\r\n\ndata: b" ⟨.failed, "\"é\" \u2028\x00\\ 😀", some nested, 42⟩

end Montage.Message
