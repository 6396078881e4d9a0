import Montage.Progress.Event

/-! # Progress streams

A stream hands each event of a job to all of its observers. Every observer has a queue of its own,
bounded if the capacity is positive. An observer whose queue is full misses an event, except the
terminal one, which then takes the place of the oldest. The terminal event closes the stream, and
who comes later is given that event alone.

A stream also keeps a record of all events that were published while it was open; nothing that an
observer is given depends on it.
-/

namespace Montage

/-- One observer: whether it is still attached, and what waits for it. -/
structure Observer where
  attached : Bool := true
  queue : List Event := []

/-- A stream with all observers it ever had and all events it ever took. -/
structure Stream where
  capacity : Int
  observers : List Observer := []
  terminal : Option Event := none
  accepted : List Event := []

namespace Stream

/-- Whether the terminal event has been published. -/
def isClosed (stream : Stream) : Bool := stream.terminal.isSome

/-- The number of observers attached now. -/
def observerCount (stream : Stream) : Nat := stream.observers.countP Observer.attached

/-- Whether anyone was ever attached. -/
def everObserved (stream : Stream) : Bool := !stream.observers.isEmpty

/-- Whether a queue has no room for another event. -/
def isFull (capacity : Int) (queue : List Event) : Bool := 0 < capacity && capacity ≤ queue.length

/-- A queue after an event was offered to it; `none` when the event is missed. -/
def offer? (capacity : Int) (event : Event) (queue : List Event) : Option (List Event) :=
  if isFull capacity queue then
    if event.isTerminal then some (queue.drop 1 ++ [event]) else none
  else some (queue ++ [event])

/-- An observer after an event was published. -/
def deliver (capacity : Int) (event : Event) (observer : Observer) : Observer :=
  if observer.attached then
    { observer with queue := (offer? capacity event observer.queue).getD observer.queue }
  else observer

/-- Whether a published event reaches an observer. -/
def reaches (capacity : Int) (event : Event) (observer : Observer) : Bool :=
  observer.attached && (offer? capacity event observer.queue).isSome

/-- Adds an observer and answers its index. -/
def attach (stream : Stream) : Stream × Nat :=
  ({ stream with observers := stream.observers ++ [{ queue := stream.terminal.toList }] },
    stream.observers.length)

/-- Whether an observer is attached. -/
def isAttached (stream : Stream) (index : Nat) : Bool :=
  ((stream.observers[index]?).map Observer.attached).getD false

/-- Detaches an observer and answers whether it was attached. -/
def detach (stream : Stream) (index : Nat) : Stream × Bool :=
  ({ stream with
      observers := stream.observers.modify index fun observer => { observer with attached := false } },
    stream.isAttached index)

/-- Publishes an event and answers how many observers it reached; a closed stream takes none. -/
def publish (stream : Stream) (event : Event) : Stream × Nat :=
  if stream.isClosed then (stream, 0)
  else
    ({ stream with
        observers := stream.observers.map (deliver stream.capacity event)
        terminal := if event.isTerminal then some event else none
        accepted := stream.accepted ++ [event] },
      stream.observers.countP (reaches stream.capacity event))

/-- The queue of an observer. -/
def queue (stream : Stream) (index : Nat) : List Event :=
  ((stream.observers[index]?).map Observer.queue).getD []

/-- Replaces the queue of an observer. -/
def setQueue (stream : Stream) (index : Nat) (queue : List Event) : Stream :=
  { stream with
    observers := stream.observers.modify index fun observer => { observer with queue := queue } }

/-- Takes the oldest event that waits for an observer. -/
def next (stream : Stream) (index : Nat) : Stream × Option Event :=
  match stream.queue index with
  | [] => (stream, none)
  | event :: rest => (stream.setQueue index rest, some event)

/-- A list of events up to and with the first terminal one, and what comes after. -/
def splitTerminal : List Event → List Event × List Event
  | [] => ([], [])
  | event :: rest =>
    if event.isTerminal then ([event], rest)
    else
      let (taken, left) := splitTerminal rest
      (event :: taken, left)

/-- Takes the events that wait for an observer, up to and with the terminal one. -/
def drain (stream : Stream) (index : Nat) : Stream × List Event :=
  let (taken, left) := splitTerminal (stream.queue index)
  (stream.setQueue index left, taken)

end Stream

end Montage
