import Montage.Progress.Stream

/-! # What a stream takes

An open stream takes every event into its record, and the terminal event closes it; a closed stream is
not changed by any event. Observers come, read and go without a trace in either.
-/

namespace Montage.Stream

variable {stream : Stream} {event : Event}

/-- The same stream with other observers. -/
def withObservers (stream : Stream) (observers : List Observer) : Stream :=
  { stream with observers := observers }

theorem isClosed_eq_false_iff : stream.isClosed = false ↔ stream.terminal = none := by
  simp [isClosed]

/-- A stream takes nothing after its terminal event. -/
theorem publish_closed (closed : stream.terminal ≠ none) : (stream.publish event).1 = stream := by
  have closed : stream.isClosed = true := by
    rw [← Bool.not_eq_false, isClosed_eq_false_iff]
    exact closed
  rw [publish, if_pos closed]

/-- An open stream takes every event. -/
theorem publish_accepted (opened : stream.terminal = none) (event : Event) :
    (stream.publish event).1.accepted = stream.accepted ++ [event] := by
  rw [publish, if_neg (by simp [isClosed_eq_false_iff.mpr opened])]

theorem publish_terminal (opened : stream.terminal = none) (event : Event) :
    (stream.publish event).1.terminal = if event.isTerminal then some event else none := by
  rw [publish, if_neg (by simp [isClosed_eq_false_iff.mpr opened])]

/-- Taking an event from a queue changes no more than the observers. -/
theorem next_fst (stream : Stream) (index : Nat) :
    ∃ observers, (stream.next index).1 = stream.withObservers observers := by
  unfold next
  split
  · exact ⟨stream.observers, rfl⟩
  · exact ⟨_, rfl⟩

end Montage.Stream
