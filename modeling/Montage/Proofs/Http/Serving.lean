import Montage.Http.Serving
import Montage.Proofs.Job.Leaving
import Montage.Proofs.Progress.Steps

/-! # What a serving sends

A serving sends its greeting first, then exactly the events that it takes from the queue of its observer,
in order and with signs of life between them, and nothing after the terminal one. However it ends once it
has sent its greeting, its observer has left then, and a job that has ended is released with the last one.
-/

namespace Montage

/-- An observer that leaves keeps what waits for it. -/
theorem Stream.queue_detach (stream : Stream) (leaver index : Nat) :
    (stream.detach leaver).1.queue index = stream.queue index := by
  simp only [detach, Stream.queue, List.getElem?_modify]
  cases stream.observers[index]? with
  | none => rfl
  | some observer => by_cases same : leaver = index <;> simp [same]

namespace JobService

variable {service : JobService} {subscription : Subscription} {id : String}

/-- What waits for an observer. -/
def queue (service : JobService) (subscription : Subscription) : List Event :=
  ((service.registry.records[subscription.number]?).map fun job =>
    job.stream.queue subscription.index).getD []

/-- The event that is taken next is the one in front of the queue. -/
theorem queue_next {event : Event} (taken : (service.next subscription).2 = some event) :
    service.queue subscription = event :: (service.next subscription).1.queue subscription := by
  cases here : service.registry.records[subscription.number]? with
  | none => simp [next, here] at taken
  | some job =>
    rcases job.stream.next_cases subscription.index with ⟨-, nobody⟩ | ⟨front, rest, waiting, someone⟩
    · simp [next, here, nobody] at taken
    · have known : subscription.index < job.stream.observers.length := by
        apply Decidable.byContradiction
        intro beyond
        simp [Stream.queue, List.getElem?_eq_none (Nat.le_of_not_lt beyond)] at waiting
      simp only [next, here, someone, Option.some.injEq] at taken ⊢
      subst taken
      have left := Stream.queue_setQueue known subscription.index rest
      simp [queue, setJob, Registry.update, here, waiting, left]

/-- Nobody loses what waits for him when somebody leaves. -/
theorem queue_unsubscribe (service : JobService) (id : String) (leaver subscription : Subscription) :
    (service.unsubscribe id leaver).queue subscription = service.queue subscription := by
  cases found : service.registry.number? id with
  | none => rw [unsubscribe_of_lost found]
  | some number =>
    rw [queue, unsubscribe_records found, leave]
    split
    · simp only [Registry.detach, Registry.update, List.getElem?_modify, queue]
      cases service.registry.records[subscription.number]? with
      | none => rfl
      | some job => by_cases same : number = subscription.number <;> simp [same, Stream.queue_detach]
    · rfl

end JobService

namespace Http

/-- Whether the greeting has been sent and more is to come. -/
def ServingStage.isLive : ServingStage → Bool
  | .created | .finished | .closed => false
  | _ => true

/-- The event of a frame. -/
def Frame.event? : Frame → Option Event
  | .progress event => some event
  | _ => none

namespace Serving

variable {service : JobService} {serving : Serving} {timestamp : Int}

theorem isClosed_iff : serving.isClosed = true ↔ serving.stage = .closed := by
  unfold isClosed
  cases serving.stage <;> simp

/-- What anything that happens does to a serving and its service. -/
inductive Effect (timestamp : Int) (service : JobService) (serving : Serving) :
    JobService → Serving → Prop
  | rests : Effect timestamp service serving service serving
  | greets (new : serving.stage = .created) :
      Effect timestamp service serving service
        ((serving.send (.connected timestamp)).toStage .greeted)
  | moves {stage : ServingStage} (live : serving.stage.isLive = true) (goesOn : stage.isLive = true) :
      Effect timestamp service serving service (serving.toStage stage)
  | beats (live : serving.stage.isLive = true) :
      Effect timestamp service serving service ((serving.send (.heartbeat timestamp)).toStage .beaten)
  | takes {event : Event} {due : Binary64} (live : serving.stage.isLive = true)
      (taken : (service.next serving.subscription).2 = some event) :
      Effect timestamp service serving (service.next serving.subscription).1
        ((serving.send (.progress event)).toStage (if event.isTerminal then .finished else .polling due))
  | closes (started : serving.stage ≠ .created) :
      Effect timestamp service serving (service.unsubscribe serving.jobId serving.subscription)
        (serving.toStage .closed)
  | discards (new : serving.stage = .created) :
      Effect timestamp service serving service (serving.toStage .closed)

theorem effect_readClock (timestamp : Int) (service : JobService) (serving : Serving)
    (seconds : Binary64) :
    Effect timestamp service serving service (readClock timestamp serving seconds) := by
  unfold readClock
  split
  · next at_ => exact .moves (by rw [at_]; rfl) rfl
  · next at_ => exact .moves (by rw [at_]; rfl) rfl
  · next due at_ =>
    split
    · exact .beats (by rw [at_]; rfl)
    · exact .moves (by rw [at_]; rfl) rfl
  · exact .rests

theorem effect_takeEvent {due : Binary64} (timestamp : Int) (service : JobService)
    (live : serving.stage.isLive = true) :
    Effect timestamp service serving (takeEvent service serving due).1
      (takeEvent service serving due).2 := by
  unfold takeEvent
  split
  · exact .rests
  · next later event answer =>
    have taken : (service.next serving.subscription).2 = some event := by rw [answer]
    have effect : Effect timestamp service serving (service.next serving.subscription).1
        ((serving.send (.progress event)).toStage
          (if event.isTerminal then .finished else .polling due)) := .takes live taken
    rwa [answer] at effect

/-- Everything that happens has one of these effects. -/
theorem effect_step (timestamp : Int) (service : JobService) (serving : Serving)
    (event : ServingEvent) :
    Effect timestamp service serving (step timestamp service serving event).1
      (step timestamp service serving event).2 := by
  unfold step
  split
  · next new => exact .greets new
  · exact effect_readClock _ _ _ _
  · next gone due at_ =>
    split
    · exact .closes (by simp [at_])
    · exact .moves (by rw [at_]; rfl) rfl
  · next due at_ => exact .moves (by rw [at_]; rfl) rfl
  · next due at_ => exact effect_takeEvent _ _ (by rw [at_]; rfl)
  · next at_ => exact .closes (by simp [at_])
  · next new => exact .discards new
  · exact .rests
  · next started _ => exact .closes started
  · exact .rests

/-- A serving that has greeted first, unless it has sent nothing, and that sends nothing after the terminal
event. -/
structure IsOrderly (serving : Serving) : Prop where
  silent : serving.stage = .created → serving.sent = []
  greeted : serving.sent = [] ∧ serving.stage.isLive = false ∨
    ∃ timestamp rest, serving.sent = .connected timestamp :: rest
  going : serving.stage ≠ .finished → serving.stage ≠ .closed →
    ∀ event, .progress event ∈ serving.sent → event.isTerminal = false
  last : ∀ before event rest, serving.sent = before ++ .progress event :: rest →
    event.isTerminal = true → rest = []

theorem IsOrderly.spoken (orderly : serving.IsOrderly) (live : serving.stage.isLive = true) :
    ∃ timestamp rest, serving.sent = .connected timestamp :: rest :=
  orderly.greeted.resolve_left fun silent => by simp [silent.2] at live

theorem IsOrderly.lasting (orderly : serving.IsOrderly) (live : serving.stage.isLive = true)
    {event : Event} (told : .progress event ∈ serving.sent) : event.isTerminal = false := by
  refine orderly.going ?_ ?_ event told <;> intro at_ <;> simp [at_, ServingStage.isLive] at live

/-- One more frame from a serving that goes on keeps it orderly. -/
theorem IsOrderly.send (orderly : serving.IsOrderly) (live : serving.stage.isLive = true) (frame : Frame)
    {stage : ServingStage} (old : stage ≠ .created)
    (goesOn : stage ≠ .finished → ∀ event, frame = .progress event → event.isTerminal = false) :
    ((serving.send frame).toStage stage).IsOrderly where
  silent new := absurd new old
  greeted := by
    obtain ⟨timestamp, rest, sent⟩ := orderly.spoken live
    exact .inr ⟨timestamp, rest ++ [frame], by simp [Serving.send, toStage, sent]⟩
  going := by
    intro ongoing _ event told
    rcases List.mem_append.mp told with before | now
    · exact orderly.lasting live before
    · exact goesOn ongoing event (List.mem_singleton.mp now).symm
  last := by
    intro before event rest shape terminal
    -- a terminal event before the new frame would have been sent by a serving that goes on
    rcases List.eq_nil_or_concat rest with rfl | ⟨others, other, rfl⟩
    · rfl
    · rw [List.concat_eq_append, ← List.cons_append, ← List.append_assoc] at shape
      have sent : serving.sent = before ++ .progress event :: others := (List.append_inj' shape rfl).1
      have told : .progress event ∈ serving.sent := by simp [sent]
      simp [orderly.lasting live told] at terminal

/-- What happens to an orderly serving leaves it orderly. -/
theorem Effect.isOrderly {later : JobService} {next : Serving}
    (effect : Effect timestamp service serving later next) (orderly : serving.IsOrderly) :
    next.IsOrderly := by
  cases effect with
  | rests => exact orderly
  | greets new =>
    have sent : ((serving.send (.connected timestamp)).toStage .greeted).sent =
        [.connected timestamp] := by simp [Serving.send, toStage, orderly.silent new]
    refine ⟨nofun, .inr ⟨timestamp, [], sent⟩, fun _ _ event told => ?_, fun before event rest shape => ?_⟩
    · rw [sent] at told
      simp at told
    · rw [sent] at shape
      have told : Frame.progress event ∈ [Frame.connected timestamp] := by simp [shape]
      simp at told
  | @moves stage live goesOn =>
    refine ⟨fun new => ?_, .inr (orderly.spoken live), fun _ _ event => orderly.lasting live, orderly.last⟩
    obtain rfl : stage = .created := new
    contradiction
  | beats live => exact orderly.send live _ nofun nofun
  | takes live taken =>
    refine orderly.send live _ ?_ fun ongoing event same => ?_
    · split <;> nofun
    · cases same
      exact Bool.eq_false_iff.mpr fun terminal => ongoing (if_pos terminal)
  | closes | discards =>
    exact ⟨nofun, orderly.greeted.imp (fun silent => ⟨silent.1, rfl⟩) id, fun _ open_ => absurd rfl open_,
      orderly.last⟩

/-- The events that are sent are those that leave the queue, at its front. -/
theorem Effect.events {later : JobService} {next : Serving}
    (effect : Effect timestamp service serving later next) :
    ∃ events, service.queue serving.subscription = events ++ later.queue serving.subscription ∧
      next.sent.filterMap Frame.event? = serving.sent.filterMap Frame.event? ++ events := by
  cases effect with
  | rests | moves | discards => exact ⟨[], rfl, (List.append_nil _).symm⟩
  | greets | beats => exact ⟨[], rfl, by simp [Serving.send, toStage, Frame.event?]⟩
  | @takes event _ _ taken =>
    exact ⟨[event], JobService.queue_next taken, by simp [Serving.send, toStage, Frame.event?]⟩
  | closes => exact ⟨[], (service.queue_unsubscribe _ _ _).symm, (List.append_nil _).symm⟩

/-- A serving does to its service only what others could do as well. -/
theorem Effect.service_eq {later : JobService} {next : Serving}
    (effect : Effect timestamp service serving later next) :
    later = service ∨ ∃ step, service.Allows step ∧ later = service.after step := by
  cases effect with
  | rests | greets | moves | beats | discards => exact .inl rfl
  | takes => exact .inr ⟨.next serving.subscription, trivial, rfl⟩
  | closes => exact .inr ⟨.unsubscribe serving.jobId serving.subscription, trivial, rfl⟩

theorem Effect.keeps {later : JobService} {next : Serving}
    (effect : Effect timestamp service serving later next) :
    next.jobId = serving.jobId ∧ next.subscription = serving.subscription := by
  cases effect <;> exact ⟨rfl, rfl⟩

end Serving

/-! ## Visits -/

/-- An observer's visit: its serving beside the service, and the events that the serving has taken from the
queue. -/
structure Visit where
  service : JobService
  serving : Serving
  taken : List Event := []

/-- What happens during a visit: a step of somebody else, or something that concerns the serving. -/
inductive VisitEvent where
  | apart (step : ServiceStep)
  | own (timestamp : Int) (event : ServingEvent)

namespace Visit

variable {first visit : Visit} {past : List VisitEvent} {event : VisitEvent}

/-- What waits for the observer. -/
def queue (visit : Visit) : List Event := visit.service.queue visit.serving.subscription

/-- A visit after something has happened. What the serving leaves less in the queue, it has taken from the
front of it. -/
def after (visit : Visit) : VisitEvent → Visit
  | .apart step => { visit with service := visit.service.after step }
  | .own timestamp event =>
    let next := Serving.step timestamp visit.service visit.serving event
    let left := next.1.queue visit.serving.subscription
    { service := next.1
      serving := next.2
      taken := visit.taken ++ visit.queue.take (visit.queue.length - left.length) }

/-- Whether something can happen. -/
def Allows (visit : Visit) : VisitEvent → Prop
  | .apart step => visit.service.Allows step
  | .own .. => True

/-- Visits that events lead to, each of them allowed at its point. -/
inductive Course (first : Visit) : List VisitEvent → Visit → Prop
  | nil : Course first [] first
  | snoc {past : List VisitEvent} {visit : Visit} (course : Course first past visit) (event : VisitEvent)
      (allowed : visit.Allows event) : Course first (past ++ [event]) (visit.after event)

theorem Course.append {middle : Visit} {more : List VisitEvent} (before : Course first past middle)
    (goesOn : Course middle more visit) : Course first (past ++ more) visit := by
  induction goesOn with
  | nil => simpa using before
  | snoc _ event allowed ih => exact List.append_assoc .. ▸ ih.snoc event allowed

/-- A visit whose observer has been seen by its job, and whose serving sends what it takes. -/
structure IsServed (visit : Visit) : Prop where
  indexed : visit.service.registry.IsIndexed
  named : visit.serving.jobId = JobService.idOf visit.serving.subscription.number
  seated : ∃ attached, visit.service.seat? visit.serving.subscription = some attached
  orderly : visit.serving.IsOrderly
  told : visit.serving.sent.filterMap Frame.event? = visit.taken

theorem effect_own (visit : Visit) (timestamp : Int) (event : ServingEvent) :
    Serving.Effect timestamp visit.service visit.serving (visit.after (.own timestamp event)).service
      (visit.after (.own timestamp event)).serving :=
  Serving.effect_step timestamp visit.service visit.serving event

/-- What the serving takes from the queue, it takes from the front and sends. -/
theorem after_own (visit : Visit) (timestamp : Int) (event : ServingEvent) :
    ∃ events, visit.queue = events ++ (visit.after (.own timestamp event)).queue ∧
      (visit.after (.own timestamp event)).taken = visit.taken ++ events ∧
      (visit.after (.own timestamp event)).serving.sent.filterMap Frame.event? =
        visit.serving.sent.filterMap Frame.event? ++ events := by
  have effect := visit.effect_own timestamp event
  obtain ⟨events, shape, sent⟩ := effect.events
  refine ⟨events, ?_, ?_, sent⟩
  · rw [Visit.queue, Visit.queue, effect.keeps.2, shape]
  · have taken : visit.queue.take (visit.queue.length -
        ((visit.after (.own timestamp event)).service.queue visit.serving.subscription).length) =
          events := by
      rw [Visit.queue, shape, List.length_append, Nat.add_sub_cancel, List.take_left]
    exact congrArg (visit.taken ++ ·) taken

theorem IsServed.after (served : visit.IsServed) (event : VisitEvent) : (visit.after event).IsServed := by
  obtain ⟨attached, seated⟩ := served.seated
  cases event with
  | apart step =>
    exact ⟨JobService.isIndexed_after served.indexed step, served.named,
      ⟨_, JobService.seat_after seated step⟩, served.orderly, served.told⟩
  | own timestamp event =>
    have effect := visit.effect_own timestamp event
    obtain ⟨id, subscription⟩ := effect.keeps
    obtain ⟨events, -, taken, sent⟩ := visit.after_own timestamp event
    refine ⟨?_, ?_, ?_, effect.isOrderly served.orderly, ?_⟩
    · rcases effect.service_eq with same | ⟨step, -, same⟩
      · exact same ▸ served.indexed
      · exact same ▸ JobService.isIndexed_after served.indexed step
    · rw [id, subscription, served.named]
    · rw [subscription]
      rcases effect.service_eq with same | ⟨step, -, same⟩
      · exact ⟨attached, same ▸ seated⟩
      · exact ⟨_, same ▸ JobService.seat_after seated step⟩
    · rw [sent, taken, served.told]

theorem Course.isServed (course : Course first past visit) (served : first.IsServed) :
    visit.IsServed := by
  induction course with
  | nil => exact served
  | snoc course event _ ih => exact ih.after event

theorem Course.keeps (course : Course first past visit) :
    visit.serving.subscription = first.serving.subscription := by
  induction course with
  | nil => rfl
  | @snoc _ visit _ event _ ih =>
    cases event with
    | apart step => exact ih
    | own timestamp event => exact (visit.effect_own timestamp event).keeps.2.trans ih

/-- A visit at its beginning. -/
def start (service : JobService) (id : String) (subscription : Subscription) (interval : Binary64) : Visit where
  service := service
  serving := { jobId := id, subscription := subscription, interval := interval }

theorem isServed_start {service later : JobService} (indexed : service.registry.IsIndexed) {id : String}
    {subscription : Subscription} (subscribed : service.subscribe id = .ok (later, subscription))
    (interval : Binary64) : (start later id subscription interval).IsServed := by
  obtain ⟨step, named, seated⟩ := JobService.subscribe_cases indexed subscribed
  refine ⟨?_, named, ⟨true, seated⟩, ?_, rfl⟩
  · rw [start, step]
    exact JobService.isIndexed_after indexed _
  · exact ⟨fun _ => rfl, .inl ⟨rfl, rfl⟩, nofun, fun before event rest shape => by simp [start] at shape⟩

/-- A serving that has greeted gives up its subscription when it ends, and its job is released then if it has
ended and nobody else observes it. -/
theorem IsServed.exits (served : visit.IsServed) {timestamp : Int} {event : ServingEvent}
    (started : visit.serving.stage ≠ .created) (open_ : visit.serving.isClosed = false)
    (closed : (visit.after (.own timestamp event)).serving.isClosed = true) :
    (visit.after (.own timestamp event)).service.seat? visit.serving.subscription = some false ∧
    ∀ job, (visit.after (.own timestamp event)).service.registry.records[
        visit.serving.subscription.number]? = some job →
      job.isTerminal = true → job.stream.observerCount = 0 →
        ¬(visit.after (.own timestamp event)).service.registry.Finds visit.serving.subscription.number := by
  obtain ⟨attached, seated⟩ := served.seated
  have effect := visit.effect_own timestamp event
  generalize (visit.after (.own timestamp event)).service = later at effect ⊢
  generalize (visit.after (.own timestamp event)).serving = next at effect closed
  cases effect with
  | rests => simp [open_] at closed
  | greets | beats => contradiction
  | @moves stage _ goesOn =>
    obtain rfl : stage = .closed := Serving.isClosed_iff.mp closed
    contradiction
  | @takes event due =>
    have closed : (if event.isTerminal then ServingStage.finished else .polling due) = .closed :=
      Serving.isClosed_iff.mp closed
    split at closed <;> contradiction
  | discards new => exact absurd new started
  | closes =>
    rw [served.named]
    -- the observer was attached, or somebody else made it leave: it is gone in both cases
    have left := JobService.seat_of_unsubscribe served.indexed seated
    refine ⟨left, fun job here ended nobody => ?_⟩
    obtain ⟨same, there, gone⟩ := Option.bind_eq_some_iff.mp left
    obtain rfl := Option.some.inj (here.symm.trans there)
    have observed : job.stream.everObserved = true := by
      rw [Stream.everObserved_iff]
      rintro empty
      simp [empty] at gone
    exact JobService.lost_of_unsubscribe served.indexed here (Job.isDone_iff.mpr ⟨ended, observed, nobody⟩)

/-- Whatever happens during the visit of an observer, the first frame is the greeting; the events that are
sent are those that the serving takes from the front of the queue, in order; nothing is sent after a terminal
event; and when the serving ends after its greeting, however it does, its observer has left the job, which
is released then if it has ended and nobody else observes it. -/
theorem Course.serves {capacity : Int} {retention interval : Binary64} {steps : List ServiceStep}
    {service later : JobService} {id : String} {subscription : Subscription}
    (run : JobService.Run JobService.Allows (JobService.fresh capacity retention) steps service)
    (subscribed : service.subscribe id = .ok (later, subscription))
    (course : Course (start later id subscription interval) past visit) :
    (visit.serving.sent = [] ∨ ∃ timestamp rest, visit.serving.sent = .connected timestamp :: rest) ∧
    visit.serving.sent.filterMap Frame.event? = visit.taken ∧
    (∀ timestamp event, ∃ events,
      visit.queue = events ++ (visit.after (.own timestamp event)).queue ∧
      (visit.after (.own timestamp event)).taken = visit.taken ++ events) ∧
    (∀ before event rest, visit.serving.sent = before ++ .progress event :: rest →
      event.isTerminal = true → rest = []) ∧
    ∀ timestamp event, visit.serving.stage ≠ .created → visit.serving.isClosed = false →
      (visit.after (.own timestamp event)).serving.isClosed = true →
      (visit.after (.own timestamp event)).service.seat? subscription = some false ∧
      ∀ job, (visit.after (.own timestamp event)).service.registry.records[subscription.number]? =
          some job →
        job.isTerminal = true → job.stream.observerCount = 0 →
          ¬(visit.after (.own timestamp event)).service.registry.Finds subscription.number := by
  have indexed := run.isIndexed (JobService.isIndexed_fresh capacity retention)
  have served := course.isServed (isServed_start indexed subscribed interval)
  have same : visit.serving.subscription = subscription := course.keeps
  refine ⟨served.orderly.greeted.imp_left And.left, served.told, fun timestamp event => ?_,
    served.orderly.last, fun timestamp event started open_ closed =>
      same ▸ served.exits started open_ closed⟩
  obtain ⟨events, shape, taken, -⟩ := visit.after_own timestamp event
  exact ⟨events, shape, taken⟩

/-- What happens in the visit of an observer whose job ends: the greeting, two looks at the clock, the end of
the job, and its event. -/
def farewell : List VisitEvent := [.own 0 .begun, .own 0 (.clock 1000), .own 0 (.asked false),
  .own 0 (.clock 1001), .apart (.complete {} 0 .null), .own 0 .dequeued]

/-- A service with a job that runs. -/
def busy : JobService :=
  [.submit {} .compose, .start {} 0].foldl JobService.after (JobService.fresh 256 3600)

theorem busy_run : JobService.Run JobService.Allows (JobService.fresh 256 3600)
    [.submit {} .compose, .start {} 0] busy := by
  have start : JobService.Run JobService.Allows (JobService.fresh 256 3600) [] _ := .nil
  exact (start.snoc (.submit {} .compose) trivial).snoc (.start {} 0) rfl

/-- The visit of an observer of that job up to its terminal event. -/
def departing : Visit :=
  farewell.foldl after (start (busy.after (.subscribe "job-1")) "job-1" ⟨0, 0⟩ 15)

theorem farewell_course :
    Course (start (busy.after (.subscribe "job-1")) "job-1" ⟨0, 0⟩ 15) farewell departing := by
  have begun : Course (start (busy.after (.subscribe "job-1")) "job-1" ⟨0, 0⟩ 15) [] _ := .nil
  have greeted := (begun.snoc (.own 0 .begun) trivial).snoc (.own 0 (.clock 1000)) trivial
  have waiting := (greeted.snoc (.own 0 (.asked false)) trivial).snoc (.own 0 (.clock 1001)) trivial
  exact (waiting.snoc (.apart (.complete {} 0 .null)) rfl).snoc (.own 0 .dequeued) trivial

/-- The visit ends with the terminal event, and the job is released. -/
theorem farewell_serves :
    busy.subscribe "job-1" = .ok (busy.after (.subscribe "job-1"), ⟨0, 0⟩) ∧
      Course (start (busy.after (.subscribe "job-1")) "job-1" ⟨0, 0⟩ 15) farewell departing ∧
      departing.taken.map Event.phase = [.completed] ∧
      (departing.after (.own 0 .resumed)).service.seat? ⟨0, 0⟩ = some false ∧
      ¬(departing.after (.own 0 .resumed)).service.registry.Finds 0 := by
  have subscribed : busy.subscribe "job-1" = .ok (busy.after (.subscribe "job-1"), ⟨0, 0⟩) := rfl
  obtain ⟨-, -, -, -, ends⟩ := farewell_course.serves busy_run subscribed
  obtain ⟨left, released⟩ := ends 0 .resumed (by decide +kernel) (by decide +kernel) (by decide +kernel)
  have ended : ((departing.after (.own 0 .resumed)).service.registry.records[0]?).map
      (fun job => (job.isTerminal, job.stream.observerCount)) = some (true, 0) := by decide +kernel
  obtain ⟨job, here, facts⟩ := Option.map_eq_some_iff.mp ended
  obtain ⟨terminal, nobody⟩ := Prod.mk.injEq .. ▸ facts
  exact ⟨subscribed, farewell_course, by decide +kernel, left, released job here terminal nobody⟩

end Visit

/-! ## Sessions -/

namespace Session

variable {session middle later : Session}

/-- Whether a session comes from another one by what can happen in a visit. -/
def Plays (session later : Session) : Prop :=
  ∀ taken, ∃ events rest, Visit.Course ⟨session.service, session.serving, taken⟩ events
    ⟨later.service, later.serving, rest⟩

theorem Plays.trans (first : session.Plays middle) (second : middle.Plays later) :
    session.Plays later := by
  intro taken
  obtain ⟨past, between, before⟩ := first taken
  obtain ⟨more, rest, goesOn⟩ := second between
  exact ⟨past ++ more, rest, before.append goesOn⟩

theorem plays_step (session : Session) (event : ServingEvent) : session.Plays (session.step event) :=
  fun _ => ⟨[.own session.timestamp event], _, Visit.Course.nil.snoc _ trivial⟩

theorem plays_tick (session : Session) : session.Plays session.tick := by
  unfold tick
  dsimp only
  split <;> exact plays_step session (.clock (session.readings.headD .zero))

theorem plays_ask (session : Session) (gone : Bool) : session.Plays (session.ask gone) :=
  plays_step session _

theorem plays_await (session : Session) : session.Plays session.await :=
  ((plays_step session _).trans (plays_step _ _)).trans (plays_step _ _)

theorem plays_round (session : Session) : session.Plays session.round := by
  have looks := (plays_ask session false).trans (plays_tick _)
  unfold round
  dsimp only
  split
  · exact looks.trans (plays_tick _)
  · exact looks.trans (plays_await _)

theorem plays_follow (patience : Nat) (session : Session) : session.Plays (follow patience session) := by
  induction patience generalizing session with
  | zero => exact plays_ask session true
  | succ patience ih =>
    unfold follow
    dsimp only
    split
    · exact plays_round session
    · exact (plays_round session).trans (ih _)

/-- A serving that is followed to its end is a visit. -/
theorem plays_serve (session : Session) (patience : Nat) : session.Plays (session.serve patience) :=
  ((plays_step session _).trans (plays_tick _)).trans (plays_follow patience _)

end Session

end Http

end Montage
