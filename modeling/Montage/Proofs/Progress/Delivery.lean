import Montage.Proofs.Progress.Steps

/-! # What an observer is given

One observer is watched from the moment it is attached, together with the events that the stream takes
from then on and what each of them meets. What the observer has read and what waits for it are the
events that it received, in their order. It misses what it was detached for or had no room for, and one
event more if the terminal event has to take the place of the oldest one that waits.
-/

namespace Montage

open scoped List

/-- A stream with what one of its observers has read, and what the stream has taken since. -/
structure Watch where
  stream : Stream
  read : List Event := []
  offers : List Offer := []

namespace Watch

/-- The events that an observer has been given: those that it has read, and those that wait for it. -/
def view (index : Nat) (watch : Watch) : List Event := watch.read ++ watch.stream.queue index

/-- The watch after a step. -/
def after (index : Nat) (watch : Watch) (step : StreamStep) : Watch :=
  ⟨watch.stream.after step, watch.read ++ watch.stream.taken index step,
    watch.offers ++ watch.stream.offered index step⟩

/-- The watch that is kept from a stream on. -/
def ofSteps (index : Nat) (opened : Stream) (steps : List StreamStep) : Watch :=
  steps.foldl (after index) ⟨opened, [], []⟩

theorem ofSteps_stream (index : Nat) (opened : Stream) (steps : List StreamStep) :
    (ofSteps index opened steps).stream = steps.foldl Stream.after opened := by
  induction steps using List.reverseRecOn with
  | nil => rfl
  | append_singleton steps step ih =>
    simp only [ofSteps, List.foldl_append, List.foldl_cons, List.foldl_nil] at ih ⊢
    rw [after, ih]

variable {opened : Stream} {index : Nat}

/-- What an observer that is attached to an open stream has been given: the events that it received, or
all of them but the oldest of those that waited for it when the terminal event came. -/
inductive Told (capacity : Int) : Option Event → List Offer → List Event → Prop
  | going {offers : List Offer} (lasting : ∀ offer ∈ offers, offer.event.isTerminal = false) :
      Told capacity none offers (Offer.received capacity offers)
  | ended {offers : List Offer} {last : Offer}
      (lasting : ∀ offer ∈ offers, offer.event.isTerminal = false)
      (ends : last.event.isTerminal = true)
      (roomy : (last.attached && last.isCrowded capacity) = false) :
      Told capacity (some last.event) (offers ++ [last]) (Offer.received capacity (offers ++ [last]))
  | evicted {offers : List Offer} {last : Offer} {past rest : List Event} {oldest : Event}
      (lasting : ∀ offer ∈ offers, offer.event.isTerminal = false)
      (ends : last.event.isTerminal = true) (attached : last.attached = true)
      (crowded : last.isCrowded capacity = true) (waiting : last.waiting = oldest :: rest)
      (given : Offer.received capacity offers = past ++ oldest :: rest) :
      Told capacity (some last.event) (offers ++ [last]) (past ++ rest ++ [last.event])

theorem Told.offer {capacity : Int} {offers : List Offer} {offer : Offer} {read : List Event}
    (told : Told capacity none offers (read ++ offer.waiting)) :
    Told capacity (if offer.event.isTerminal then some offer.event else none) (offers ++ [offer])
      (read ++ offer.queue capacity) := by
  generalize given : read ++ offer.waiting = view at told
  cases told with
  | going lasting =>
    have still (other : offer.event.isTerminal = false) :
        ∀ o ∈ offers ++ [offer], o.event.isTerminal = false :=
      List.forall_mem_append.mpr ⟨lasting, List.forall_mem_singleton.mpr other⟩
    rcases Offer.queue_cases capacity offer with ⟨received, roomy, after⟩ | ⟨missed, other, after⟩ |
      ⟨attached, crowded, ends, oldest, rest, waiting, after⟩
    · have view : read ++ offer.queue capacity = Offer.received capacity (offers ++ [offer]) := by
        rw [after, ← List.append_assoc, given, Offer.received_append]
        simp [Offer.received, received]
      rw [view]
      split
      · next ends => exact .ended lasting ends roomy
      · next other => exact .going (still (Bool.eq_false_iff.mpr other))
    · have view : read ++ offer.queue capacity = Offer.received capacity (offers ++ [offer]) := by
        rw [after, given, Offer.received_append]
        simp [Offer.received, missed]
      rw [view]
      split
      · next ends =>
        rw [ends, Bool.and_true] at other
        exact .ended lasting ends (by rw [other, Bool.false_and])
      · next other => exact .going (still (Bool.eq_false_iff.mpr other))
    · rw [if_pos ends, after, ← List.append_assoc]
      rw [waiting] at given
      exact .evicted lasting ends attached crowded waiting given.symm

/-- What every step preserves of a watch. -/
structure Sound (opened : Stream) (index : Nat) (watch : Watch) : Prop where
  known : index < watch.stream.observers.length
  capacity : watch.stream.capacity = opened.capacity
  accepted : watch.stream.accepted = opened.accepted ++ watch.offers.map Offer.event
  bounded : 0 < opened.capacity → ((watch.stream.queue index).length : Int) ≤ opened.capacity
  told : opened.terminal = none →
    Told opened.capacity watch.stream.terminal watch.offers (watch.view index)
  replayed : ∀ last, opened.terminal = some last →
    watch.stream.terminal = some last ∧ watch.offers = [] ∧ watch.view index = [last]

theorem Sound.after {watch : Watch} (sound : watch.Sound opened index) (step : StreamStep) :
    (watch.after index step).Sound opened index := by
  have known := Stream.known_after sound.known step
  have capacity := (Stream.after_capacity watch.stream step).trans sound.capacity
  rcases Stream.after_cases sound.known step with ⟨offers, view, terminal, accepted⟩ |
    ⟨offer, offers, taken, waiting, queue, goes, terminal, accepted⟩
  · -- The stream takes nothing: what is read now has waited before.
    have same : (watch.after index step).view index = watch.view index := by
      rw [Watch.view, Watch.view, Watch.after, List.append_assoc, view]
    refine ⟨known, capacity, ?_, fun bounded => ?_, fun first => ?_, fun last first => ?_⟩
    · simpa [Watch.after, accepted, offers] using sound.accepted
    · have before := sound.bounded bounded
      have shorter := congrArg List.length view
      rw [List.length_append] at shorter
      show ((watch.stream.after step).queue index).length ≤ opened.capacity
      omega
    · rw [same]
      simpa [Watch.after, terminal, offers] using sound.told first
    · rw [same]
      simpa [Watch.after, terminal, offers] using sound.replayed last first
  · -- The stream takes an event, so it was still open when the observer was attached.
    rw [sound.capacity] at queue
    have view : (watch.after index step).view index = watch.read ++ offer.queue opened.capacity := by
      simp [Watch.view, Watch.after, taken, queue]
    refine ⟨known, capacity, ?_, fun bounded => ?_, fun first => ?_, fun last first => ?_⟩
    · simp [Watch.after, accepted, offers, sound.accepted]
    · have before := sound.bounded bounded
      rw [← waiting] at before
      show ((watch.stream.after step).queue index).length ≤ opened.capacity
      rw [queue]
      exact Offer.length_queue_le bounded before
    · have told := sound.told first
      rw [goes, Watch.view, ← waiting] at told
      rw [view]
      simpa [Watch.after, terminal, offers] using told.offer
    · have closed := (sound.replayed last first).1
      rw [goes] at closed
      contradiction

theorem sound_attach (stream : Stream) :
    (⟨stream.after .attach, [], []⟩ : Watch).Sound (stream.after .attach) stream.observers.length := by
  have queue : (stream.after .attach).queue stream.observers.length = stream.terminal.toList := by
    simp [Stream.after, Stream.attach, Stream.queue]
  have same : (stream.after .attach).terminal = stream.terminal := rfl
  refine ⟨?_, rfl, ?_, fun bounded => ?_, fun first => ?_, fun last first => ?_⟩
  · rw [Stream.length_after_attach]
    exact Nat.lt_succ_self _
  · simp
  · rw [queue]
    have short : stream.terminal.toList.length ≤ 1 := by cases stream.terminal <;> simp
    omega
  · rw [first, view, queue, ← same, first]
    exact .going (List.forall_mem_nil _)
  · rw [view, queue, ← same, first]
    exact ⟨rfl, rfl, rfl⟩

theorem sound_ofSteps (stream : Stream) (steps : List StreamStep) :
    (ofSteps stream.observers.length (stream.after .attach) steps).Sound (stream.after .attach)
      stream.observers.length := by
  induction steps using List.reverseRecOn with
  | nil => exact sound_attach stream
  | append_singleton steps step ih =>
    simp only [ofSteps, List.foldl_append, List.foldl_cons, List.foldl_nil] at ih ⊢
    exact ih.after step

/-- What an observer can rely on from the moment it is attached. -/
structure IsFaithful (opened : Stream) (index : Nat) (watch : Watch) : Prop where
  /-- The offers are the events that the stream has taken since, in their order. -/
  accepted : watch.stream.accepted = opened.accepted ++ watch.offers.map Offer.event
  /-- A queue keeps within a positive capacity. -/
  bounded : 0 < opened.capacity → ((watch.stream.queue index).length : Int) ≤ opened.capacity
  /-- The observer is given some of these events, each at most once and in their order. -/
  selection : opened.terminal = none → watch.view index <+ watch.offers.map Offer.event
  /-- Who comes after the terminal event is given that event alone. -/
  replay : ∀ last, opened.terminal = some last →
    last.isTerminal = true ∧ watch.view index = [last]
  /-- The terminal event is the last that an attached observer is given, and given once. -/
  ends : ∀ offer ∈ watch.offers, offer.event.isTerminal = true → offer.attached = true →
    ∃ others, watch.view index = others ++ [offer.event] ∧
      ∀ event ∈ others, event.isTerminal = false
  /-- The observer misses what it was detached for, what there was no room for, and the oldest of the
  events that waited when the terminal event came and there was no room. -/
  missing : opened.terminal = none →
    watch.view index = Offer.received opened.capacity watch.offers ∨
    ∃ offers last past oldest rest, watch.offers = offers ++ [last] ∧
      last.event.isTerminal = true ∧ last.attached = true ∧
      last.isCrowded opened.capacity = true ∧ last.waiting = oldest :: rest ∧
      Offer.received opened.capacity offers = past ++ oldest :: rest ∧
      watch.view index = past ++ rest ++ [last.event]

theorem received_sublist (capacity : Int) (offers : List Offer) :
    Offer.received capacity offers <+ offers.map Offer.event :=
  List.filter_sublist.map Offer.event

theorem received_lasting {capacity : Int} {offers : List Offer}
    (lasting : ∀ offer ∈ offers, offer.event.isTerminal = false) :
    ∀ event ∈ Offer.received capacity offers, event.isTerminal = false := by
  intro event member
  obtain ⟨offer, kept, rfl⟩ := List.mem_map.mp member
  exact lasting offer (List.mem_filter.mp kept).1

namespace Told

variable {capacity : Int} {terminal : Option Event} {offers : List Offer} {view : List Event}

theorem sublist (told : Told capacity terminal offers view) : view <+ offers.map Offer.event := by
  cases told with
  | going => exact received_sublist capacity _
  | ended => exact received_sublist capacity _
  | @evicted offers last past rest oldest lasting ends attached crowded waiting given =>
    rw [List.map_append, List.map_singleton]
    refine List.Sublist.append ?_ (List.Sublist.refl _)
    calc past ++ rest
      _ <+ past ++ oldest :: rest := (List.sublist_cons_self oldest rest).append_left past
      _ = Offer.received capacity offers := given.symm
      _ <+ offers.map Offer.event := received_sublist capacity offers

/-- Only the last of the offers can be a terminal one. -/
theorem eq_last {last offer : Offer} (lasting : ∀ offer ∈ offers, offer.event.isTerminal = false)
    (member : offer ∈ offers ++ [last]) (ends : offer.event.isTerminal = true) : offer = last := by
  rcases List.mem_append.mp member with before | here
  · rw [lasting offer before] at ends
    contradiction
  · exact List.mem_singleton.mp here

theorem last (told : Told capacity terminal offers view) {offer : Offer} (member : offer ∈ offers)
    (ends : offer.event.isTerminal = true) (attached : offer.attached = true) :
    ∃ others, view = others ++ [offer.event] ∧ ∀ event ∈ others, event.isTerminal = false := by
  cases told with
  | going lasting =>
    rw [lasting offer member] at ends
    contradiction
  | @ended offers last lasting =>
    obtain rfl := eq_last lasting member ends
    refine ⟨Offer.received capacity offers, ?_, received_lasting lasting⟩
    rw [Offer.received_append]
    simp [Offer.received, Offer.isReceived, attached, ends]
  | @evicted offers last past rest oldest lasting _ _ _ _ given =>
    obtain rfl := eq_last lasting member ends
    refine ⟨past ++ rest, rfl, fun event present => ?_⟩
    have all : ∀ event ∈ Offer.received capacity offers, event.isTerminal = false :=
      received_lasting lasting
    rw [given] at all
    refine all event ?_
    rcases List.mem_append.mp present with before | after
    · exact List.mem_append_left _ before
    · exact List.mem_append_right _ (List.mem_cons_of_mem _ after)

theorem missing (told : Told capacity terminal offers view) :
    view = Offer.received capacity offers ∨
    ∃ earlier last past oldest rest, offers = earlier ++ [last] ∧
      last.event.isTerminal = true ∧ last.attached = true ∧
      last.isCrowded capacity = true ∧ last.waiting = oldest :: rest ∧
      Offer.received capacity earlier = past ++ oldest :: rest ∧
      view = past ++ rest ++ [last.event] := by
  cases told with
  | going => exact .inl rfl
  | ended => exact .inl rfl
  | evicted _ ends attached crowded waiting given =>
    exact .inr ⟨_, _, _, _, _, rfl, ends, attached, crowded, waiting, given, rfl⟩

end Told

theorem Sound.isFaithful {watch : Watch} (sound : watch.Sound opened index)
    (ending : ∀ last, opened.terminal = some last → last.isTerminal = true) :
    watch.IsFaithful opened index where
  accepted := sound.accepted
  bounded := sound.bounded
  selection first := (sound.told first).sublist
  replay last first := ⟨ending last first, (sound.replayed last first).2.2⟩
  ends offer member ends attached := by
    cases first : opened.terminal with
    | none => exact (sound.told first).last member ends attached
    | some last =>
      rw [(sound.replayed last first).2.1] at member
      contradiction
  missing first := (sound.told first).missing

end Watch

namespace Stream

theorem terminal_ofSteps (capacity : Int) (steps : List StreamStep) :
    ∀ last, (ofSteps capacity steps).terminal = some last → last.isTerminal = true := by
  induction steps using List.reverseRecOn with
  | nil => exact fun _ => nofun
  | append_singleton steps step ih =>
    simp only [ofSteps, List.foldl_append, List.foldl_cons, List.foldl_nil] at ih ⊢
    generalize steps.foldl after _ = stream at ih ⊢
    cases step with
    | attach | detach | drain => exact ih
    | next reader =>
      obtain ⟨observers, same⟩ := next_fst stream reader
      rw [after, same]
      exact ih
    | publish event =>
      cases opened : stream.terminal with
      | some last =>
        rw [after, publish_closed (by simp [opened])]
        exact ih
      | none =>
        intro last
        rw [after, publish_terminal opened, Option.ite_none_right_eq_some]
        rintro ⟨ends, same⟩
        rwa [← Option.some.inj same]

/-- Whatever happens to a stream, every observer it ever had was attached at some point, and from then
on it can rely on what it is given. -/
theorem observer_isFaithful (capacity : Int) (steps : List StreamStep) (index : Nat)
    (known : index < (ofSteps capacity steps).observers.length) :
    ∃ earlier later opened watch, steps = earlier ++ .attach :: later ∧
      (ofSteps capacity earlier).observers.length = index ∧
      opened = (ofSteps capacity earlier).after .attach ∧
      watch = Watch.ofSteps index opened later ∧
      watch.stream = ofSteps capacity steps ∧ watch.IsFaithful opened index := by
  obtain ⟨earlier, later, rfl, rfl⟩ := exists_attach known
  refine ⟨earlier, later, _, _, rfl, rfl, rfl, rfl, ?_, ?_⟩
  · rw [Watch.ofSteps_stream, ofSteps, ofSteps, List.foldl_append, List.foldl_cons]
  · exact (Watch.sound_ofSteps _ later).isFaithful (terminal_ofSteps capacity earlier)

/-- A queue for one event: the second event is missed, and the terminal one takes the place of the third. -/
def narrow : List StreamStep := [.publish ⟨.queue, "", none, 0⟩, .attach,
  .publish ⟨.download, "", none, 1⟩, .publish ⟨.download, "", none, 2⟩, .next 0,
  .publish ⟨.processing, "", none, 3⟩, .publish ⟨.completed, "", none, 4⟩, .detach 0, .attach]

/-- The first observer of a narrow stream can rely on what it is given. -/
theorem narrow_isFaithful :
    0 < (ofSteps 1 narrow).observers.length ∧
    ∃ earlier later opened watch, narrow = earlier ++ .attach :: later ∧
      (ofSteps 1 earlier).observers.length = 0 ∧
      opened = (ofSteps 1 earlier).after .attach ∧
      watch = Watch.ofSteps 0 opened later ∧
      watch.stream = ofSteps 1 narrow ∧ watch.IsFaithful opened 0 := by
  have known : 0 < (ofSteps 1 narrow).observers.length := by decide
  exact ⟨known, observer_isFaithful 1 narrow 0 known⟩

/-- A detached observer misses an event for which there is room, and which no other event takes the place
of. -/
theorem detached_misses :
    ∃ offer ∈ (Watch.ofSteps 0 ((ofSteps 0 []).after .attach)
        [.detach 0, .publish ⟨.processing, "", none, 0⟩]).offers,
      offer.event ∉ (Watch.ofSteps 0 ((ofSteps 0 []).after .attach)
        [.detach 0, .publish ⟨.processing, "", none, 0⟩]).view 0 ∧
      offer.isCrowded 0 = false ∧ offer.event.isTerminal = false := by
  refine ⟨⟨⟨.processing, "", none, 0⟩, false, []⟩, List.mem_singleton.mpr rfl, ?_, rfl, rfl⟩
  exact List.not_mem_nil

end Stream

end Montage
