import Montage.Proofs.Progress.Delivery

/-! # Publishing queue after queue

An event is handed to the queues of the attached observers one after the other, in whatever order they
stand. A queue can refuse an event for which it has no room, and refuses to give one when nothing waits in
it. The first is met by leaving the event out or, when it is the terminal one, by taking the oldest event
out of the way; as a queue that is full has something in it, the second never happens. Whatever the order,
all queues are served, and no refusal gets out of the loop.
-/

namespace Montage.Stream

/-- What a queue can refuse: an event, as it has no room, or to give one, as nothing waits in it. -/
inductive Refusal where
  | full
  | empty

variable {capacity : Int} {event : Event} {stream : Stream}

/-- Puts an event at the end of a queue without waiting for room. -/
def put (capacity : Int) (event : Event) (queue : List Event) : Except Refusal (List Event) :=
  if isFull capacity queue then .error .full else .ok (queue ++ [event])

/-- Takes the oldest event out of a queue without waiting for one. -/
def takeOldest : List Event → Except Refusal (List Event)
  | [] => .error .empty
  | _ :: rest => .ok rest

/-- Hands an event to one queue, and answers whether it got there. -/
def handOver (capacity : Int) (event : Event) (queue : List Event) : Except Refusal (List Event × Bool) :=
  match put capacity event queue with
  | .ok queue => .ok (queue, true)
  | .error .empty => .error .empty
  | .error .full =>
    if event.isTerminal then do
      let rest ← takeOldest queue
      let queue ← put capacity event rest
      return (queue, true)
    else .ok (queue, false)

/-- One turn of the loop: an event is handed to one observer and, if it got there, counted. -/
def serve (event : Event) (served : Stream × Nat) (index : Nat) : Except Refusal (Stream × Nat) := do
  let (queue, reached) ← handOver served.1.capacity event (served.1.queue index)
  return (served.1.setQueue index queue, served.2 + reached.toNat)

/-- A stream that has taken an event and handed it to nobody yet. -/
def taking (event : Event) (stream : Stream) : Stream :=
  { stream with
    terminal := if event.isTerminal then some event else none
    accepted := stream.accepted ++ [event] }

/-- Publishes an event to the observers of an order, one after the other. -/
def publishInTurn (order : List Nat) (stream : Stream) (event : Event) : Except Refusal (Stream × Nat) :=
  if stream.isClosed then .ok (stream, 0) else order.foldlM (serve event) (stream.taking event, 0)

/-- The observers that are attached now. -/
def attendants (stream : Stream) : List Nat :=
  (List.range stream.observers.length).filter stream.isAttached

/-- Whether the queues keep within a positive capacity. -/
def IsBounded (stream : Stream) : Prop :=
  0 < stream.capacity → ∀ index, ((stream.queue index).length : Int) ≤ stream.capacity

/-- No queue of a stream ever grows beyond a positive capacity. -/
theorem isBounded_ofSteps (capacity : Int) (steps : List StreamStep) :
    (ofSteps capacity steps).IsBounded := by
  have same (steps : List StreamStep) : (ofSteps capacity steps).capacity = capacity := by
    induction steps using List.reverseRecOn with
    | nil => rfl
    | append_singleton steps step ih =>
      simp only [ofSteps, List.foldl_append, List.foldl_cons, List.foldl_nil] at ih ⊢
      rw [after_capacity, ih]
  intro positive index
  by_cases known : index < (ofSteps capacity steps).observers.length
  · obtain ⟨earlier, later, rfl, rfl⟩ := exists_attach known
    have sound := Watch.sound_ofSteps (ofSteps capacity earlier) later
    have opened : ((ofSteps capacity earlier).after .attach).capacity = capacity := same earlier
    have bounded := sound.bounded (by rwa [opened, ← same])
    rw [Watch.ofSteps_stream, opened] at bounded
    rw [same]
    simpa only [ofSteps, List.foldl_append, List.foldl_cons] using bounded
  · rw [Stream.queue, List.getElem?_eq_none (Nat.le_of_not_lt known)]
    exact Int.le_of_lt positive

/-- A queue that has kept within its capacity refuses nothing in the end. -/
theorem handOver_eq {queue : List Event} (bounded : 0 < capacity → (queue.length : Int) ≤ capacity) :
    handOver capacity event queue =
      .ok ((offer? capacity event queue).getD queue, (offer? capacity event queue).isSome) := by
  unfold handOver put offer?
  cases crowded : isFull capacity queue with
  | false => rfl
  | true =>
    cases ends : event.isTerminal with
    | false => rfl
    | true =>
      simp only [isFull, Bool.and_eq_true, decide_eq_true_eq] at crowded
      cases queue with
      | nil =>
        rw [List.length_nil] at crowded
        omega
      | cons oldest rest =>
        have roomy : isFull capacity rest = false := by
          have within := bounded crowded.1
          rw [List.length_cons] at within
          simp only [isFull, crowded.1, decide_true, Bool.true_and, decide_eq_false_iff_not]
          omega
        simp [takeOldest, roomy, bind, Except.bind, pure, Except.pure]

/-- Hands an event to the observers of an order, and to nobody else. -/
def handTo (order : List Nat) (event : Event) (stream : Stream) : Stream :=
  stream.withObservers (stream.observers.mapIdx fun index observer =>
    if index ∈ order then deliver stream.capacity event observer else observer)

/-- Whether an event reaches the observer of an index. -/
def reachesAt (event : Event) (stream : Stream) (index : Nat) : Bool :=
  (stream.observers[index]?).any (reaches stream.capacity event)

theorem getElem?_handTo (stream : Stream) (order : List Nat) (index : Nat) :
    (stream.handTo order event).observers[index]? =
      if index ∈ order then (stream.observers[index]?).map (deliver stream.capacity event)
      else stream.observers[index]? := by
  simp only [handTo, withObservers, List.getElem?_mapIdx]
  split
  · rfl
  · exact Option.map_id'

theorem deliver_attached (observer : Observer) :
    (deliver capacity event observer).attached = observer.attached := by
  unfold deliver
  split <;> rfl

theorem deliver_queue (observer : Observer) :
    (deliver capacity event observer).queue =
      Offer.queue capacity ⟨event, observer.attached, observer.queue⟩ := by
  unfold deliver Offer.queue
  split <;> rfl

theorem isAttached_handTo (order : List Nat) (index : Nat) :
    (stream.handTo order event).isAttached index = stream.isAttached index := by
  rw [isAttached, getElem?_handTo, isAttached]
  split
  · cases stream.observers[index]? with
    | none => rfl
    | some observer => exact deliver_attached observer
  · rfl

theorem isBounded_handTo (bounded : stream.IsBounded) (order : List Nat) :
    (stream.handTo order event).IsBounded := by
  intro positive index
  have before := bounded positive index
  rw [Stream.queue, getElem?_handTo]
  split
  · rw [Stream.queue] at before
    cases found : stream.observers[index]? with
    | none => exact Int.le_of_lt positive
    | some observer =>
      rw [found] at before
      rw [Option.map_some, Option.map_some, Option.getD_some, deliver_queue]
      exact Offer.length_queue_le positive before
  · exact before

/-- Whoever is attached is handed the event in its turn. -/
theorem serve_eq {index : Nat} (bounded : stream.IsBounded) (attached : stream.isAttached index = true)
    (event : Event) (count : Nat) :
    serve event (stream, count) index =
      .ok (stream.handTo [index] event, count + (stream.reachesAt event index).toNat) := by
  cases found : stream.observers[index]? with
  | none =>
    rw [isAttached, found] at attached
    contradiction
  | some observer =>
    replace attached : observer.attached = true := by simpa [isAttached, found] using attached
    have waiting : stream.queue index = observer.queue := by rw [Stream.queue, found]; rfl
    have within : 0 < stream.capacity → (observer.queue.length : Int) ≤ stream.capacity := by
      rw [← waiting]
      exact fun positive => bounded positive index
    have reached : stream.reachesAt event index =
        (offer? stream.capacity event observer.queue).isSome := by
      simp [reachesAt, found, reaches, attached]
    have handed : stream.setQueue index ((offer? stream.capacity event observer.queue).getD observer.queue) =
        stream.handTo [index] event := by
      refine congrArg stream.withObservers (List.ext_getElem? fun other => ?_)
      refine .trans ?_ (stream.getElem?_handTo [index] other).symm
      rw [List.getElem?_modify]
      by_cases here : index = other
      · subst here
        simp [found, deliver, attached]
      · simp [here, Ne.symm here]
    rw [serve, waiting, handOver_eq within, reached, ← handed]
    rfl

/-- Handing an event to one observer and then to others is handing it to all of them. -/
theorem handTo_handTo {index : Nat} {rest : List Nat} (apart : index ∉ rest) :
    (stream.handTo [index] event).handTo rest event = stream.handTo (index :: rest) event := by
  refine congrArg stream.withObservers (List.ext_getElem? fun other => ?_)
  refine ((stream.handTo [index] event).getElem?_handTo rest other).trans
    (.trans ?_ (stream.getElem?_handTo (index :: rest) other).symm)
  rw [getElem?_handTo]
  by_cases here : other = index
  · subst here
    simp [apart]
  · simp only [List.mem_cons, List.not_mem_nil, here, false_or, if_false]
    rfl

/-- The loop serves every observer of an order, and nothing that one queue meets keeps the next from being
served. -/
theorem foldlM_serve {order : List Nat} (bounded : stream.IsBounded)
    (attached : ∀ index ∈ order, stream.isAttached index = true) (distinct : order.Nodup) (event : Event)
    (count : Nat) :
    order.foldlM (serve event) (stream, count) =
      .ok (stream.handTo order event, count + order.countP (stream.reachesAt event)) := by
  induction order generalizing stream count with
  | nil =>
    have same : stream.handTo [] event = stream := by
      refine congrArg stream.withObservers (List.ext_getElem? fun other => ?_)
      refine (stream.getElem?_handTo [] other).trans ?_
      rw [if_neg List.not_mem_nil]
    rw [same]
    rfl
  | cons index rest ih =>
    obtain ⟨apart, distinct⟩ := List.nodup_cons.mp distinct
    have here := serve_eq bounded (attached index List.mem_cons_self) event count
    have still (other : Nat) (member : other ∈ rest) :
        (stream.handTo [index] event).reachesAt event other = stream.reachesAt event other := by
      have elsewhere : other ∉ [index] := by
        rw [List.mem_singleton]
        rintro rfl
        exact apart member
      rw [reachesAt, getElem?_handTo, if_neg elsewhere]
      rfl
    rw [List.foldlM_cons, here]
    refine (ih (isBounded_handTo bounded [index]) (fun other member => ?_) distinct _).trans ?_
    · rw [isAttached_handTo]
      exact attached other (List.mem_cons_of_mem _ member)
    · rw [handTo_handTo apart, List.countP_congr fun other member => by rw [still other member],
        List.countP_cons, Nat.add_assoc]
      congr 3
      rw [Nat.add_comm]
      cases stream.reachesAt event index <;> rfl

/-- Handing an event to all who are attached leaves nobody out. -/
theorem handTo_attendants {order : List Nat} (all : ∀ index, index ∈ order ↔ index ∈ stream.attendants) :
    (stream.handTo order event).observers = stream.observers.map (deliver stream.capacity event) := by
  refine List.ext_getElem? fun index => ?_
  rw [getElem?_handTo, List.getElem?_map]
  split
  · rfl
  · next absent =>
    cases found : stream.observers[index]? with
    | none => rfl
    | some observer =>
      have away : observer.attached = false := by
        obtain ⟨known, -⟩ := List.getElem?_eq_some_iff.mp found
        rw [all, attendants, List.mem_filter, List.mem_range, not_and] at absent
        simpa [isAttached, found] using absent known
      simp [deliver, away]

/-- The observers that an event reaches are all among those attached. -/
theorem countP_attendants (stream : Stream) (event : Event) :
    stream.attendants.countP (stream.reachesAt event) =
      stream.observers.countP (reaches stream.capacity event) := by
  have observers : stream.observers.map some =
      (List.range stream.observers.length).map (stream.observers[·]?) := by
    refine List.ext_getElem (by simp) fun index _ known => ?_
    simp only [List.length_map, List.length_range] at known
    simp [known]
  have counted : stream.observers.countP (reaches stream.capacity event) =
      (stream.observers.map some).countP fun observer => observer.any (reaches stream.capacity event) := by
    rw [List.countP_map]
    rfl
  rw [counted, observers, List.countP_map, attendants, List.countP_filter]
  refine List.countP_congr fun index _ => ?_
  rw [Bool.and_eq_true, Function.comp_apply, reachesAt, and_iff_left_iff_imp]
  cases found : stream.observers[index]? with
  | none => nofun
  | some observer =>
    intro reached
    rw [isAttached, found]
    exact (Bool.and_eq_true_iff.mp reached).1

/-- In whatever order the attached observers stand, publishing to one after the other publishes to all of
them at once, and is never refused. -/
theorem publishInTurn_eq {order : List Nat} (bounded : stream.IsBounded)
    (all : order.Perm stream.attendants) (event : Event) :
    stream.publishInTurn order event = .ok (stream.publish event) := by
  unfold publishInTurn publish
  split
  · rfl
  · have everyone : ∀ index, index ∈ order ↔ index ∈ (stream.taking event).attendants :=
      fun _ => all.mem_iff
    have attached : ∀ index ∈ order, (stream.taking event).isAttached index = true :=
      fun index member => (List.mem_filter.mp ((everyone index).mp member)).2
    have distinct : order.Nodup := all.nodup_iff.mpr (List.nodup_range.filter _)
    have open_ : (stream.taking event).IsBounded := bounded
    rw [foldlM_serve open_ attached distinct event 0, Nat.zero_add, all.countP_eq]
    refine congrArg Except.ok (Prod.ext ?_ (countP_attendants (stream.taking event) event))
    exact congrArg (stream.taking event).withObservers (handTo_attendants everyone)

end Montage.Stream
