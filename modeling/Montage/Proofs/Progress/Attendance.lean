import Montage.Proofs.Progress.Stream

/-! # Who attends a stream

The attendance of a stream says of each observer that it ever had whether the observer is still attached.
Observers come at the end of it and keep their places; those who leave do not come back. Events change
nothing about it, whether they are published or read.
-/

namespace Montage

/-- What is seen of items after one of them has changed. -/
theorem map_modify {α β : Type} {view : α → β} {change : α → α} {shown : β → β}
    (agrees : ∀ item, view (change item) = shown (view item)) (items : List α) (index : Nat) :
    (items.modify index change).map view = (items.map view).modify index shown := by
  apply List.ext_getElem?
  intro place
  simp only [List.getElem?_map, List.getElem?_modify]
  cases items[place]? with
  | none => rfl
  | some item => by_cases same : index = place <;> simp [same, agrees]

/-- A change of one item that leaves it as it is. -/
theorem modify_of_fixed {α : Type} {items : List α} {index : Nat} {change : α → α}
    (fixed : ∀ item, items[index]? = some item → change item = item) :
    items.modify index change = items := by
  apply List.ext_getElem?
  intro place
  rw [List.getElem?_modify]
  cases here : items[place]? with
  | none => rfl
  | some item =>
    by_cases same : index = place
    · simp [same, fixed item (same ▸ here)]
    · simp [same]

namespace Stream

variable {stream : Stream}

/-- Which observers are attached, in the order in which they came. -/
def attendance (stream : Stream) : List Bool := stream.observers.map Observer.attached

theorem observerCount_eq_zero_iff : stream.observerCount = 0 ↔ true ∉ stream.attendance := by
  simp [observerCount, attendance, List.countP_eq_zero]

theorem everObserved_iff : stream.everObserved = true ↔ stream.attendance ≠ [] := by
  simp [everObserved, attendance]

theorem attendance_attach (stream : Stream) :
    stream.attach.1.attendance = stream.attendance ++ [true] := by
  simp [attach, attendance]

theorem attendance_detach (stream : Stream) (index : Nat) :
    (stream.detach index).1.attendance = stream.attendance.modify index fun _ => false := by
  have leaves (observer : Observer) :
      Observer.attached { observer with attached := false } = (fun _ => false) observer.attached := rfl
  exact map_modify leaves stream.observers index

theorem attached_deliver (capacity : Int) (event : Event) (observer : Observer) :
    (deliver capacity event observer).attached = observer.attached := by
  unfold deliver
  split <;> rfl

theorem attendance_publish (stream : Stream) (event : Event) :
    (stream.publish event).1.attendance = stream.attendance := by
  unfold publish
  split
  · rfl
  · simp [attendance, attached_deliver, Function.comp_def]

theorem attendance_setQueue (stream : Stream) (index : Nat) (queue : List Event) :
    (stream.setQueue index queue).attendance = stream.attendance := by
  have stays (observer : Observer) :
      Observer.attached { observer with queue := queue } = id observer.attached := rfl
  rw [setQueue, attendance, map_modify stays, List.modify_id]
  rfl

theorem attendance_next (stream : Stream) (index : Nat) :
    (stream.next index).1.attendance = stream.attendance := by
  unfold next
  split
  · rfl
  · exact attendance_setQueue stream index _

theorem attendance_drain (stream : Stream) (index : Nat) :
    (stream.drain index).1.attendance = stream.attendance :=
  attendance_setQueue stream index _

/-- Whoever has left stays away, so leaving again changes nothing. -/
theorem detach_of_left {index : Nat} (left : stream.attendance[index]? = some false) :
    (stream.detach index).1 = stream := by
  rw [attendance, List.getElem?_map] at left
  have same : stream.observers.modify index (fun observer => { observer with attached := false }) =
      stream.observers := modify_of_fixed fun observer here => by
    rw [here, Option.map_some, Option.some.injEq] at left
    rw [← left]
  rw [detach, same]

end Stream

end Montage
