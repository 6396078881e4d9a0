import Montage.Proofs.Progress.InTurn

/-! # Observers apart

What an observer is given depends on what is published and on what the observer itself does, and on
nothing else: whoever else comes, goes, reads or lets its queue run full, the observer has what it would
have if it were alone. Publishing goes through the queues one after the other, in any order, and takes what
it needs from each at once; none of them ever refuses it.
-/

namespace Montage.Stream

variable {stream : Stream} {index : Nat} {capacity : Int}

/-! ## Alone -/

/-- The same stream with one of its observers alone, once that one has come. -/
def only (index : Nat) (stream : Stream) : Stream :=
  stream.withObservers (stream.observers[index]?).toList

/-- What is left of a step for an observer that is alone: everything that is published, and what the
observer does itself. The observer of an index comes when there are as many before it. -/
def alone? (index : Nat) (stream : Stream) : StreamStep → Option StreamStep
  | .publish event => some (.publish event)
  | .attach => if stream.observers.length = index then some .attach else none
  | .detach leaver => if leaver = index then some (.detach 0) else none
  | .next reader => if reader = index then some (.next 0) else none
  | .drain reader => if reader = index then some (.drain 0) else none

/-- What is left of steps from a stream on for an observer that is alone. -/
def aloneFrom (index : Nat) : Stream → List StreamStep → List StreamStep
  | _, [] => []
  | stream, step :: rest => (stream.alone? index step).toList ++ aloneFrom index (stream.after step) rest

/-- Whether an observer reads in a step. -/
def isRead (index : Nat) : StreamStep → Bool
  | .next reader | .drain reader => reader == index
  | _ => false

/-- What an observer gets each time that it reads. -/
def readsFrom (index : Nat) : Stream → List StreamStep → List (List Event)
  | _, [] => []
  | stream, step :: rest =>
    (if isRead index step then [stream.taken index step] else []) ++
      readsFrom index (stream.after step) rest

theorem queue_only (index : Nat) (stream : Stream) :
    (stream.only index).queue 0 = stream.queue index := by
  unfold only withObservers Stream.queue
  cases stream.observers[index]? <;> rfl

theorem only_modify (stream : Stream) (index other : Nat) (change : Observer → Observer) :
    only index (stream.withObservers (stream.observers.modify other change)) =
      if other = index then
        (stream.only index).withObservers ((stream.only index).observers.modify 0 change)
      else stream.only index := by
  unfold only withObservers
  dsimp only
  rw [List.getElem?_modify]
  split
  · next same =>
    subst same
    cases stream.observers[other]? <;> rfl
  · cases stream.observers[index]? <;> rfl

theorem only_setQueue (stream : Stream) (reader : Nat) (queue : List Event) :
    (stream.setQueue reader queue).only index =
      if reader = index then (stream.only index).setQueue 0 queue else stream.only index :=
  stream.only_modify index reader fun observer => { observer with queue := queue }

/-- For an observer a step is what is left of it when the observer is alone. -/
theorem only_after (stream : Stream) (index : Nat) (step : StreamStep) :
    (stream.after step).only index =
      (stream.alone? index step).elim (stream.only index) (stream.only index).after := by
  cases step with
  | publish event =>
    have closed : (stream.only index).isClosed = stream.isClosed := rfl
    simp only [alone?, Option.elim_some, after, publish, closed]
    split
    · rfl
    · simp only [only, withObservers, List.getElem?_map]
      cases stream.observers[index]? <;> rfl
  | attach =>
    simp only [alone?, after, attach, only, withObservers]
    rcases Nat.lt_trichotomy index stream.observers.length with known | here | beyond
    · rw [if_neg (Nat.ne_of_gt known), List.getElem?_append_left known]
      rfl
    · subst here
      simp only [if_true, Option.elim_some, List.getElem?_concat_length]
      rw [List.getElem?_eq_none (Nat.le_refl _)]
      rfl
    · rw [if_neg (Nat.ne_of_lt beyond), List.getElem?_append_right (Nat.le_of_lt beyond),
        List.getElem?_eq_none (Nat.le_of_lt beyond), List.getElem?_eq_none (by simp; omega)]
      rfl
  | detach leaver =>
    have left := stream.only_modify index leaver fun observer =>
      { observer with attached := false }
    refine left.trans ?_
    rw [alone?]
    split <;> rfl
  | next reader =>
    rw [alone?]
    rcases stream.next_cases reader with ⟨empty, nobody⟩ | ⟨event, rest, waiting, someone⟩
    · rw [after, nobody]
      split
      · next same =>
        rw [same, ← queue_only] at empty
        simp [after, next, empty]
      · rfl
    · rw [after, someone, only_setQueue]
      split
      · next same =>
        rw [same, ← queue_only] at waiting
        simp [after, next, waiting]
      · rfl
  | drain reader =>
    simp only [alone?, after, drain, only_setQueue]
    split
    · next same => rw [same, ← queue_only, Option.elim_some, after, drain]
    · rfl

/-- What an observer gets when it reads is what it gets when it is alone. -/
theorem taken_only (stream : Stream) {step own : StreamStep} (left : stream.alone? index step = some own) :
    isRead 0 own = isRead index step ∧ (stream.only index).taken 0 own = stream.taken index step := by
  cases step with
  | publish event =>
    obtain rfl := Option.some.inj left
    exact ⟨rfl, rfl⟩
  | attach | detach =>
    obtain ⟨-, own⟩ := Option.ite_none_right_eq_some.mp left
    obtain rfl := Option.some.inj own
    exact ⟨rfl, rfl⟩
  | next reader =>
    obtain ⟨rfl, own⟩ := Option.ite_none_right_eq_some.mp left
    obtain rfl := Option.some.inj own
    refine ⟨by simp [isRead], ?_⟩
    rw [taken, taken, if_pos rfl, if_pos rfl, next, next, queue_only]
    cases stream.queue reader <;> rfl
  | drain reader =>
    obtain ⟨rfl, own⟩ := Option.ite_none_right_eq_some.mp left
    obtain rfl := Option.some.inj own
    refine ⟨by simp [isRead], ?_⟩
    rw [taken, taken, if_pos rfl, if_pos rfl, drain, drain, queue_only]

/-- A step of which nothing is left is none of the observer's own. -/
theorem isRead_of_alone (stream : Stream) {step : StreamStep} (left : stream.alone? index step = none) :
    isRead index step = false := by
  cases step with
  | publish | attach | detach => rfl
  | next reader | drain reader => simpa [alone?, isRead] using left

/-- An observer has what it would have alone, and gets the same whenever it reads. -/
theorem only_steps (stream : Stream) (index : Nat) (steps : List StreamStep) :
    (steps.foldl after stream).only index =
        (stream.aloneFrom index steps).foldl after (stream.only index) ∧
      stream.readsFrom index steps = (stream.only index).readsFrom 0 (stream.aloneFrom index steps) := by
  induction steps generalizing stream with
  | nil => exact ⟨rfl, rfl⟩
  | cons step rest ih =>
    obtain ⟨holds, reads⟩ := ih (stream.after step)
    have effect := stream.only_after index step
    rw [List.foldl_cons, aloneFrom, readsFrom, holds, reads]
    cases left : stream.alone? index step with
    | none =>
      rw [left, Option.elim_none] at effect
      rw [effect, stream.isRead_of_alone left]
      exact ⟨rfl, rfl⟩
    | some own =>
      obtain ⟨read, taken⟩ := stream.taken_only left
      rw [left, Option.elim_some] at effect
      rw [effect, ← read, ← taken]
      exact ⟨rfl, rfl⟩

/-- Two runs of a stream with the same events published, in which an observer comes, goes and reads at the
same points between them, leave it with the same queue, and it gets the same each time that it reads,
whatever others do in either run. And no queue of anyone ever keeps an event from being published: in
whatever order they are served, no refusal gets out. -/
theorem observers_apart (capacity : Int) {first second : List StreamStep} {one other : Nat}
    (same : (ofSteps capacity []).aloneFrom one first = (ofSteps capacity []).aloneFrom other second) :
    (ofSteps capacity first).queue one = (ofSteps capacity second).queue other ∧
      (ofSteps capacity []).readsFrom one first = (ofSteps capacity []).readsFrom other second ∧
      ∀ steps event order, order.Perm (ofSteps capacity steps).attendants →
        (ofSteps capacity steps).publishInTurn order event =
          .ok ((ofSteps capacity steps).publish event) := by
  -- A new stream has no observer, so whoever comes to it first is alone.
  have nobody (index : Nat) : (ofSteps capacity []).only index = ofSteps capacity [] := rfl
  obtain ⟨holds, reads⟩ := (ofSteps capacity []).only_steps one first
  obtain ⟨holds', reads'⟩ := (ofSteps capacity []).only_steps other second
  rw [nobody] at holds reads holds' reads'
  refine ⟨?_, ?_, fun steps event order all => ?_⟩
  · calc (ofSteps capacity first).queue one
      _ = ((ofSteps capacity first).only one).queue 0 := (queue_only one _).symm
      _ = ((ofSteps capacity second).only other).queue 0 := by
        refine congrArg (Stream.queue · 0) (holds.trans (.trans ?_ holds'.symm))
        rw [same]
      _ = (ofSteps capacity second).queue other := queue_only other _
  · rw [reads, reads', same]
  · exact publishInTurn_eq (isBounded_ofSteps capacity steps) all event

/-- An observer that is alone with a queue for one event. -/
def undisturbed : List StreamStep := [.attach, .publish ⟨.download, "", none, 1⟩,
  .publish ⟨.download, "", none, 2⟩, .next 0, .publish ⟨.processing, "", none, 3⟩,
  .publish ⟨.completed, "", none, 4⟩, .drain 0]

/-- The same events, and an observer that does the same between others: one came before it, lets its queue
run full and goes, and one comes late. -/
def disturbed : List StreamStep := [.attach, .attach, .publish ⟨.download, "", none, 1⟩, .next 0,
  .publish ⟨.download, "", none, 2⟩, .next 1, .publish ⟨.processing, "", none, 3⟩, .detach 0, .attach,
  .publish ⟨.completed, "", none, 4⟩, .drain 2, .drain 1]

/-- The observer that is disturbed has what the one that is alone has. -/
theorem disturbed_apart :
    (ofSteps 1 []).readsFrom 1 disturbed = [[⟨.download, "", none, 1⟩], [⟨.completed, "", none, 4⟩]] ∧
    (ofSteps 1 []).aloneFrom 0 undisturbed = (ofSteps 1 []).aloneFrom 1 disturbed ∧
    (ofSteps 1 undisturbed).queue 0 = (ofSteps 1 disturbed).queue 1 ∧
      (ofSteps 1 []).readsFrom 0 undisturbed = (ofSteps 1 []).readsFrom 1 disturbed ∧
      ∀ steps event order, order.Perm (ofSteps 1 steps).attendants →
        (ofSteps 1 steps).publishInTurn order event = .ok ((ofSteps 1 steps).publish event) :=
  have same : (ofSteps 1 []).aloneFrom 0 undisturbed = (ofSteps 1 []).aloneFrom 1 disturbed := rfl
  ⟨rfl, same, observers_apart 1 same⟩

end Montage.Stream
