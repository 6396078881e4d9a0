import Mathlib.Data.List.Induction
import Montage.Proofs.Progress.Stream

/-! # Steps of a stream

Anything may happen to a stream in any order: observers come, go and read, and events are published. For
one observer a step is one of two things. It leaves what the observer has been given as it is, read or
waiting; or an open stream takes an event and offers it to the observer, who is given it, misses it, or
is given it in the place of the oldest event that waits.
-/

namespace Montage

/-- One thing that happens to a stream. -/
inductive StreamStep where
  | attach
  | detach (index : Nat)
  | publish (event : Event)
  | next (index : Nat)
  | drain (index : Nat)

/-- An event that a stream takes, and how it finds an observer: whether the observer is attached, and
what waits for it. -/
structure Offer where
  event : Event
  attached : Bool
  waiting : List Event

namespace Offer

/-- Whether there is no room for the event. -/
def isCrowded (capacity : Int) (offer : Offer) : Bool := Stream.isFull capacity offer.waiting

/-- Whether the observer is given the event: there is always room for the terminal one. -/
def isReceived (capacity : Int) (offer : Offer) : Bool :=
  offer.attached && (offer.event.isTerminal || !offer.isCrowded capacity)

/-- The events that an observer is given. -/
def received (capacity : Int) (offers : List Offer) : List Event :=
  (offers.filter (isReceived capacity)).map Offer.event

theorem received_append (capacity : Int) (first second : List Offer) :
    received capacity (first ++ second) = received capacity first ++ received capacity second := by
  simp [received]

variable {capacity : Int} {offer : Offer}

/-- The queue of an observer after an event was offered to it. -/
def queue (capacity : Int) (offer : Offer) : List Event :=
  if offer.attached then (Stream.offer? capacity offer.event offer.waiting).getD offer.waiting
  else offer.waiting

/-- An event is put at the end of a queue, missed, or put at the end of a full queue from which the
oldest event is dropped. -/
theorem queue_cases (capacity : Int) (offer : Offer) :
    (offer.isReceived capacity = true ∧ (offer.attached && offer.isCrowded capacity) = false ∧
      offer.queue capacity = offer.waiting ++ [offer.event]) ∨
    (offer.isReceived capacity = false ∧ (offer.attached && offer.event.isTerminal) = false ∧
      offer.queue capacity = offer.waiting) ∨
    offer.attached = true ∧ offer.isCrowded capacity = true ∧ offer.event.isTerminal = true ∧
      ∃ oldest rest, offer.waiting = oldest :: rest ∧ offer.queue capacity = rest ++ [offer.event] := by
  obtain ⟨event, attached, waiting⟩ := offer
  cases attached with
  | false => exact .inr (.inl ⟨rfl, rfl, rfl⟩)
  | true =>
    cases crowded : Stream.isFull capacity waiting with
    | false => exact .inl (by simp [isReceived, isCrowded, queue, Stream.offer?, crowded])
    | true =>
      cases ends : event.isTerminal with
      | false =>
        exact .inr (.inl (by simp [isReceived, isCrowded, queue, Stream.offer?, crowded, ends]))
      | true =>
        cases waiting with
        | nil =>
          -- A queue that is full has something in it, for its capacity is positive.
          simp only [Stream.isFull, List.length_nil, Bool.and_eq_true, decide_eq_true_eq] at crowded
          omega
        | cons oldest rest =>
          exact .inr (.inr ⟨rfl, crowded, rfl, oldest, rest, rfl, by
            simp [queue, Stream.offer?, crowded, ends]⟩)

/-- A queue never grows beyond a positive capacity. -/
theorem length_queue_le (bounded : 0 < capacity) (before : (offer.waiting.length : Int) ≤ capacity) :
    ((offer.queue capacity).length : Int) ≤ capacity := by
  rcases queue_cases capacity offer with ⟨received, room, after⟩ | ⟨_, _, after⟩ |
    ⟨_, _, _, oldest, rest, waiting, after⟩
  · have attached : offer.attached = true := (Bool.and_eq_true_iff.mp received).1
    simp only [attached, Bool.true_and, isCrowded, Stream.isFull, bounded, decide_true,
      decide_eq_false_iff_not] at room
    rw [after, List.length_append, List.length_singleton]
    omega
  · rwa [after]
  · rw [waiting] at before
    rw [after, List.length_append, List.length_singleton]
    simpa using before

end Offer

namespace Stream

/-- The stream after a step. -/
def after (stream : Stream) : StreamStep → Stream
  | .attach => stream.attach.1
  | .detach index => (stream.detach index).1
  | .publish event => (stream.publish event).1
  | .next index => (stream.next index).1
  | .drain index => (stream.drain index).1

/-- The stream that steps lead to from a new one. -/
def ofSteps (capacity : Int) (steps : List StreamStep) : Stream := steps.foldl after ⟨capacity, [], none, []⟩

/-- The events that an observer reads in a step. -/
def taken (index : Nat) (stream : Stream) : StreamStep → List Event
  | .next reader => if reader = index then (stream.next index).2.toList else []
  | .drain reader => if reader = index then (stream.drain index).2 else []
  | _ => []

/-- The event that a stream takes in a step, as it finds an observer. -/
def offered (index : Nat) (stream : Stream) : StreamStep → List Offer
  | .publish event =>
    if stream.isClosed then [] else [⟨event, stream.isAttached index, stream.queue index⟩]
  | _ => []

variable {stream : Stream} {index : Nat}

theorem queue_setQueue (known : index < stream.observers.length) (reader : Nat) (queue : List Event) :
    (stream.setQueue reader queue).queue index = if reader = index then queue else stream.queue index := by
  simp only [Stream.queue, setQueue, List.getElem?_modify, List.getElem?_eq_getElem known]
  split <;> simp

theorem splitTerminal_append (queue : List Event) :
    (splitTerminal queue).1 ++ (splitTerminal queue).2 = queue := by
  induction queue with
  | nil => rfl
  | cons event rest ih =>
    rw [splitTerminal]
    split
    · rfl
    · simp [ih]

/-- No step changes the capacity of a stream. -/
theorem after_capacity (stream : Stream) (step : StreamStep) :
    (stream.after step).capacity = stream.capacity := by
  cases step with
  | attach | detach => rfl
  | publish event =>
    simp only [after, publish]
    split <;> rfl
  | next reader =>
    simp only [after, next]
    split <;> rfl
  | drain => rfl

/-- A new observer is one more. -/
theorem length_after_attach (stream : Stream) :
    (stream.after .attach).observers.length = stream.observers.length + 1 := by
  simp [after, attach]

/-- No other step changes who the observers of a stream are. -/
theorem length_after {step : StreamStep} (other : step ≠ .attach) :
    (stream.after step).observers.length = stream.observers.length := by
  cases step with
  | attach => contradiction
  | detach => simp [after, detach]
  | publish event =>
    simp only [after, publish]
    split <;> simp
  | next reader =>
    simp only [after, next]
    split <;> simp [setQueue]
  | drain => simp [after, drain, setQueue]

theorem known_after (known : index < stream.observers.length) (step : StreamStep) :
    index < (stream.after step).observers.length := by
  by_cases new : step = .attach
  · rw [new, length_after_attach]
    omega
  · rwa [length_after new]

/-- Every observer was attached at some point. -/
theorem exists_attach {capacity : Int} {steps : List StreamStep}
    (known : index < (ofSteps capacity steps).observers.length) :
    ∃ earlier later, steps = earlier ++ .attach :: later ∧
      (ofSteps capacity earlier).observers.length = index := by
  induction steps using List.reverseRecOn with
  | nil => contradiction
  | append_singleton steps step ih =>
    by_cases before : index < (ofSteps capacity steps).observers.length
    · obtain ⟨earlier, later, rfl, attached⟩ := ih before
      exact ⟨earlier, later ++ [step], by simp, attached⟩
    · simp only [ofSteps, List.foldl_append, List.foldl_cons, List.foldl_nil] at known before ⊢
      by_cases new : step = .attach
      · subst new
        rw [length_after_attach] at known
        exact ⟨steps, [], rfl, by omega⟩
      · rw [length_after new] at known
        contradiction

/-- Nobody reads from an empty queue, and otherwise the event in front is read. -/
theorem next_cases (stream : Stream) (reader : Nat) :
    stream.queue reader = [] ∧ stream.next reader = (stream, none) ∨
      ∃ event rest, stream.queue reader = event :: rest ∧
        stream.next reader = (stream.setQueue reader rest, some event) := by
  unfold next
  split
  · next empty => exact .inl ⟨empty, rfl⟩
  · next event rest waiting => exact .inr ⟨event, rest, waiting, rfl⟩

/-- What an observer reads is taken from the front of its queue, whoever reads. -/
theorem taken_next (known : index < stream.observers.length) (reader : Nat) :
    stream.taken index (.next reader) ++ (stream.after (.next reader)).queue index =
      stream.queue index := by
  rcases next_cases stream reader with ⟨_, nobody⟩ | ⟨event, rest, waiting, someone⟩
  · have same : stream.after (.next reader) = stream := congrArg Prod.fst nobody
    rw [same, taken]
    split
    · next here => rw [← here, nobody]; rfl
    · rfl
  · simp only [after, taken, someone, queue_setQueue known]
    split
    · next here => rw [← here, someone, waiting]; rfl
    · rfl

theorem taken_drain (known : index < stream.observers.length) (reader : Nat) :
    stream.taken index (.drain reader) ++ (stream.after (.drain reader)).queue index =
      stream.queue index := by
  simp only [after, drain, taken, queue_setQueue known]
  split
  · next same => rw [same, splitTerminal_append]
  · rfl

theorem queue_publish (opened : stream.terminal = none) (known : index < stream.observers.length)
    (event : Event) : (stream.publish event).1.queue index =
      Offer.queue stream.capacity ⟨event, stream.isAttached index, stream.queue index⟩ := by
  rw [publish, if_neg (by simp [isClosed_eq_false_iff.mpr opened])]
  simp only [Stream.queue, isAttached, List.getElem?_map, List.getElem?_eq_getElem known, Option.map_some,
    Option.getD_some, deliver, Offer.queue]
  split <;> rfl

/-- Either the stream takes nothing in a step, and what the observer has been given stays the same, or an
open stream takes an event and offers it to the observer. -/
theorem after_cases (known : index < stream.observers.length) (step : StreamStep) :
    (stream.offered index step = [] ∧
      stream.taken index step ++ (stream.after step).queue index = stream.queue index ∧
      (stream.after step).terminal = stream.terminal ∧
      (stream.after step).accepted = stream.accepted) ∨
    ∃ offer, stream.offered index step = [offer] ∧ stream.taken index step = [] ∧
      offer.waiting = stream.queue index ∧
      (stream.after step).queue index = offer.queue stream.capacity ∧
      stream.terminal = none ∧
      (stream.after step).terminal = (if offer.event.isTerminal then some offer.event else none) ∧
      (stream.after step).accepted = stream.accepted ++ [offer.event] := by
  cases step with
  | attach =>
    refine .inl ⟨rfl, ?_, rfl, rfl⟩
    simp [after, attach, taken, Stream.queue, List.getElem?_append_left known]
  | detach other =>
    refine .inl ⟨rfl, ?_, rfl, rfl⟩
    simp only [after, detach, taken, Stream.queue, List.nil_append, List.getElem?_modify,
      List.getElem?_eq_getElem known]
    split <;> rfl
  | next reader =>
    obtain ⟨observers, same⟩ := next_fst stream reader
    have kept : stream.after (.next reader) = stream.withObservers observers := same
    refine .inl ⟨rfl, taken_next known reader, ?_, ?_⟩ <;> rw [kept] <;> rfl
  | drain reader => exact .inl ⟨rfl, taken_drain known reader, rfl, rfl⟩
  | publish event =>
    cases opened : stream.terminal with
    | some last =>
      have closed : stream.isClosed = true := by simp [isClosed, opened]
      have same : stream.after (.publish event) = stream := publish_closed (by simp [opened])
      refine .inl ⟨if_pos closed, ?_, ?_, ?_⟩ <;> simp [same, taken, opened]
    | none =>
      refine .inr ⟨⟨event, stream.isAttached index, stream.queue index⟩, ?_, rfl, rfl,
        queue_publish opened known event, rfl, publish_terminal opened event,
        publish_accepted opened event⟩
      simp [offered, isClosed, opened]

end Stream

end Montage
