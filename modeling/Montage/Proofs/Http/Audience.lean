import Mathlib.Data.List.Nodup
import Montage.Http.Server
import Montage.Proofs.Http.Serving

/-! # Everybody who is served

A server that has been asked for the progress of jobs has a serving for each answer that it gave. An
observer is attached when its serving is made, before anything is sent, and leaves when its serving ends.
A serving that ends before it has begun runs none of its steps, and so its observer stays: it is attached
for good, and its job is never released. Every other observer that is attached is still being served.
-/

namespace Montage

/-- Whether an observer comes or leaves. -/
def ServiceStep.movesObserver : ServiceStep → Bool
  | .subscribe _ | .unsubscribe .. => true
  | _ => false

namespace Http

namespace Serving

variable {service later : JobService} {serving next : Serving} {timestamp : Int}
  {subscription : Subscription}

/-- A serving that has sent nothing before it began, and something since. -/
structure IsVoiced (serving : Serving) : Prop where
  silent : serving.stage = .created → serving.sent = []
  heard : serving.stage ≠ .created → serving.stage ≠ .closed → serving.sent ≠ []

/-- Whether the observer of a serving is attached: until the serving is over, and for good if it was over
before it had sent anything. -/
def keepsSeat (serving : Serving) : Bool := !serving.isClosed || serving.sent.isEmpty

theorem keepsSeat_iff : serving.keepsSeat = true ↔ serving.isClosed = false ∨ serving.sent = [] := by
  simp [keepsSeat]

theorem keepsSeat_of_open (open_ : serving.stage ≠ .closed) : serving.keepsSeat = true :=
  keepsSeat_iff.mpr (.inl (Bool.eq_false_iff.mpr fun closed => open_ (isClosed_iff.mp closed)))

theorem ne_closed_of_isLive {stage : ServingStage} (live : stage.isLive = true) : stage ≠ .closed := by
  rintro rfl
  contradiction

theorem ne_created_of_isLive {stage : ServingStage} (live : stage.isLive = true) :
    stage ≠ .created := by
  rintro rfl
  contradiction

/-- Nothing happens to a serving that is over. -/
theorem step_of_closed (timestamp : Int) (service : JobService) (closed : serving.stage = .closed)
    (event : ServingEvent) : step timestamp service serving event = (service, serving) := by
  cases event <;> simp [step, readClock, closed]

theorem Effect.isVoiced (effect : Effect timestamp service serving later next)
    (voiced : serving.IsVoiced) : next.IsVoiced := by
  cases effect with
  | rests => exact voiced
  | greets | beats => exact ⟨nofun, fun _ _ => List.append_ne_nil_of_right_ne_nil _ (List.cons_ne_nil _ _)⟩
  | moves live goesOn =>
    exact ⟨fun new => absurd new (ne_created_of_isLive goesOn), fun _ _ =>
      voiced.heard (ne_created_of_isLive live) (ne_closed_of_isLive live)⟩
  | @takes event due =>
    refine ⟨fun new => ?_, fun _ _ => List.append_ne_nil_of_right_ne_nil _ (List.cons_ne_nil _ _)⟩
    have new : (if event.isTerminal then ServingStage.finished else .polling due) = .created := new
    split at new <;> contradiction
  | closes | discards => exact ⟨nofun, fun _ open_ => absurd rfl open_⟩

/-- What happens to a serving that is not over keeps its observer attached, unless it ends the serving after
it has begun. -/
theorem Effect.seat (effect : Effect timestamp service serving later next)
    (indexed : service.registry.IsIndexed)
    (named : serving.jobId = JobService.idOf serving.subscription.number) (voiced : serving.IsVoiced)
    (open_ : serving.stage ≠ .closed) (seated : service.seat? serving.subscription = some true) :
    later.seat? serving.subscription = some next.keepsSeat := by
  cases effect with
  | rests => rwa [keepsSeat_of_open open_]
  | greets | beats =>
    have goesOn {stage : ServingStage} (live : stage.isLive = true) (frame : Frame) :
        ((serving.send frame).toStage stage).keepsSeat = true :=
      keepsSeat_of_open (ne_closed_of_isLive live)
    rwa [goesOn rfl]
  | moves _ goesOn => rwa [keepsSeat_of_open (ne_closed_of_isLive goesOn)]
  | @takes event due =>
    have goesOn : (if event.isTerminal then ServingStage.finished else .polling due) ≠ .closed := by
      split <;> nofun
    rw [keepsSeat_of_open goesOn]
    exact JobService.seat_after seated (.next serving.subscription)
  | closes started =>
    have silent : (serving.toStage .closed).keepsSeat = false := by
      simpa [keepsSeat, isClosed, toStage] using voiced.heard started open_
    rw [named, silent]
    exact JobService.seat_of_unsubscribe indexed seated
  | discards new =>
    have kept : (serving.toStage .closed).keepsSeat = true := keepsSeat_iff.mpr (.inr (voiced.silent new))
    rwa [kept]

/-- A serving that ends has sent nothing exactly if it had not begun. -/
theorem Effect.ended (effect : Effect timestamp service serving later next) (voiced : serving.IsVoiced)
    (open_ : serving.stage ≠ .closed) (ended : next.stage = .closed) :
    next.keepsSeat = decide (serving.stage = .created) := by
  have silence : next.keepsSeat = next.sent.isEmpty := by
    rw [keepsSeat, isClosed_iff.mpr ended, Bool.not_true, Bool.false_or]
  rw [silence]
  cases effect with
  | rests => exact absurd ended open_
  | greets | beats => contradiction
  | moves _ goesOn => exact absurd ended (ne_closed_of_isLive goesOn)
  | @takes event due =>
    have ended : (if event.isTerminal then ServingStage.finished else .polling due) = .closed := ended
    split at ended <;> contradiction
  | closes started =>
    rw [decide_eq_false started]
    simpa [toStage] using voiced.heard started open_
  | discards new =>
    rw [decide_eq_true new]
    simpa [toStage] using voiced.silent new

/-- A serving makes nobody leave but its own observer. -/
theorem Effect.seat_of_ne (effect : Effect timestamp service serving later next)
    (apart : serving.subscription ≠ subscription) {attached : Bool}
    (seated : service.seat? subscription = some attached) : later.seat? subscription = some attached := by
  have goesOn (step : ServiceStep) (stays : service.dismisses subscription step = false) :
      (service.after step).seat? subscription = some attached := by
    rw [JobService.seat_after seated step, stays, Bool.not_false, Bool.and_true]
  cases effect with
  | rests | greets | moves | beats | discards => exact seated
  | takes => exact goesOn (.next serving.subscription) rfl
  | closes =>
    refine goesOn (.unsubscribe serving.jobId serving.subscription) ?_
    simp [JobService.dismisses, apart]

/-- A serving brings nobody. -/
theorem Effect.seat_before (effect : Effect timestamp service serving later next)
    (seated : later.seat? subscription = some true) : service.seat? subscription = some true := by
  have came (step : ServiceStep) (other : ∀ id, step ≠ .subscribe id)
      (seated : (service.after step).seat? subscription = some true) :
      service.seat? subscription = some true :=
    (JobService.seat_before seated).resolve_right fun ⟨id, came, _⟩ => other id came
  cases effect with
  | rests | greets | moves | beats | discards => exact seated
  | takes => exact came (.next serving.subscription) nofun seated
  | closes => exact came (.unsubscribe serving.jobId serving.subscription) nofun seated

end Serving

/-! ## Audiences -/

/-- A service with all servings that were begun beside it, those that are over included. -/
structure Audience where
  service : JobService
  servings : List Serving := []

/-- What happens to an audience: a step of the service, somebody asks for the progress of a job, or
something concerns the serving of an index. -/
inductive AudienceEvent where
  | apart (step : ServiceStep)
  | asks (id : String) (interval : Binary64)
  | serves (index : Nat) (timestamp : Int) (event : ServingEvent)

namespace Audience

variable {first audience : Audience} {past : List AudienceEvent}

/-- An audience after something has happened. Who asks for a job that can be found is attached and gets a
serving of its own. -/
def after (audience : Audience) : AudienceEvent → Audience
  | .apart step => { audience with service := audience.service.after step }
  | .asks id interval =>
    match audience.service.subscribe id with
    | .ok (service, subscription) =>
      { service := service
        servings := audience.servings ++
          [{ jobId := id, subscription := subscription, interval := interval }] }
    | .error _ => audience
  | .serves index timestamp event =>
    match audience.servings[index]? with
    | some serving =>
      let next := Serving.step timestamp audience.service serving event
      { service := next.1, servings := audience.servings.set index next.2 }
    | none => audience

/-- Whether something can happen. Observers come and leave by servings alone. -/
def Allows (audience : Audience) : AudienceEvent → Prop
  | .apart step => audience.service.Allows step ∧ step.movesObserver = false
  | .asks .. | .serves .. => True

/-- Audiences that events lead to, each of them allowed at its point. -/
inductive Course (first : Audience) : List AudienceEvent → Audience → Prop
  | nil : Course first [] first
  | snoc {past : List AudienceEvent} {audience : Audience} (course : Course first past audience)
      (event : AudienceEvent) (allowed : audience.Allows event) :
      Course first (past ++ [event]) (audience.after event)

/-- An audience in which every serving has an observer of its own, who is attached exactly as long as the
serving keeps it, and in which nobody else is attached. -/
structure IsAttended (audience : Audience) : Prop where
  indexed : audience.service.registry.IsIndexed
  named : ∀ serving ∈ audience.servings,
    serving.jobId = JobService.idOf serving.subscription.number
  voiced : ∀ serving ∈ audience.servings, serving.IsVoiced
  apart : (audience.servings.map Serving.subscription).Nodup
  seated : ∀ serving ∈ audience.servings,
    audience.service.seat? serving.subscription = some serving.keepsSeat
  served : ∀ subscription, audience.service.seat? subscription = some true →
    subscription ∈ audience.servings.map Serving.subscription

theorem IsAttended.after_apart (attended : audience.IsAttended) {step : ServiceStep}
    (quiet : step.movesObserver = false) : (audience.after (.apart step)).IsAttended where
  indexed := JobService.isIndexed_after attended.indexed step
  named := attended.named
  voiced := attended.voiced
  apart := attended.apart
  seated serving member := by
    have stays : audience.service.dismisses serving.subscription step = false := by
      cases step with
      | unsubscribe => contradiction
      | _ => rfl
    have after := JobService.seat_after (attended.seated serving member) step
    rwa [stays, Bool.not_false, Bool.and_true] at after
  served subscription seated := by
    rcases JobService.seat_before seated with before | ⟨id, rfl, -⟩
    · exact attended.served subscription before
    · contradiction

theorem IsAttended.after_asks (attended : audience.IsAttended) (id : String) (interval : Binary64) :
    (audience.after (.asks id interval)).IsAttended := by
  rw [Audience.after]
  split
  · next later subscription subscribed =>
    obtain ⟨same, named, attached⟩ := JobService.subscribe_cases attended.indexed subscribed
    have new : subscription ∉ audience.servings.map Serving.subscription := by
      intro member
      obtain ⟨serving, known, rfl⟩ := List.mem_map.mp member
      have seated := attended.seated serving known
      rw [JobService.seat_of_subscribe subscribed] at seated
      contradiction
    refine ⟨?_, ?_, ?_, ?_, ?_, ?_⟩
    · exact same ▸ JobService.isIndexed_after attended.indexed _
    · exact List.forall_mem_append.mpr ⟨attended.named, List.forall_mem_singleton.mpr named⟩
    · refine List.forall_mem_append.mpr ⟨attended.voiced, List.forall_mem_singleton.mpr ?_⟩
      exact ⟨fun _ => rfl, fun started => absurd rfl started⟩
    · rw [List.map_append]
      refine List.nodup_append.mpr ⟨attended.apart, List.nodup_singleton _, ?_⟩
      rintro old known _ came rfl
      obtain rfl := List.mem_singleton.mp came
      exact new known
    · refine List.forall_mem_append.mpr ⟨fun serving member => ?_, List.forall_mem_singleton.mpr attached⟩
      have after := JobService.seat_after (attended.seated serving member) (.subscribe id)
      have stays : audience.service.dismisses serving.subscription (.subscribe id) = false := rfl
      rwa [← same, stays, Bool.not_false, Bool.and_true] at after
    · intro other seated
      rw [List.map_append, List.mem_append]
      rw [same] at seated
      rcases JobService.seat_before seated with before | ⟨_, came, there⟩
      · exact .inl (attended.served other before)
      · obtain rfl := ServiceStep.subscribe.inj came
        have given := Except.ok.inj (subscribed.symm.trans there)
        exact .inr (List.mem_singleton.mpr (congrArg Prod.snd given).symm)
  · exact attended

/-- What holds of the new item and of all at other places holds of all when one has been replaced. -/
theorem forall_mem_set {α : Type} {holds : α → Prop} {items : List α} {index : Nat} {item : α}
    (here : holds item) (others : ∀ place other, items[place]? = some other → index ≠ place → holds other) :
    ∀ other ∈ items.set index item, holds other := by
  intro other member
  obtain ⟨place, there⟩ := List.mem_iff_getElem?.mp member
  by_cases same : index = place
  · rw [← same, List.getElem?_set_self'] at there
    obtain ⟨_, _, rfl⟩ := Option.map_eq_some_iff.mp there
    exact here
  · rw [List.getElem?_set_ne same] at there
    exact others place other there same

/-- A serving that goes on as another one with the same observer changes no observers. -/
theorem map_subscription_set {servings : List Serving} {index : Nat} {serving next : Serving}
    (here : servings[index]? = some serving) (same : next.subscription = serving.subscription) :
    (servings.set index next).map Serving.subscription = servings.map Serving.subscription := by
  obtain ⟨bound, there⟩ := List.getElem?_eq_some_iff.mp here
  have within : index < (servings.map Serving.subscription).length := by simpa using bound
  have own : (servings.map Serving.subscription)[index] = serving.subscription := by
    rw [List.getElem_map, there]
  rw [List.map_set, same, ← own, List.set_getElem_self]

/-- Servings of an audience do not share an observer. -/
theorem IsAttended.subscription_ne (attended : audience.IsAttended) {index place : Nat}
    {serving other : Serving} (here : audience.servings[index]? = some serving)
    (there : audience.servings[place]? = some other) (elsewhere : index ≠ place) :
    serving.subscription ≠ other.subscription := by
  have first : (audience.servings.map Serving.subscription)[index]? = some serving.subscription := by
    rw [List.getElem?_map, here, Option.map_some]
  have second : (audience.servings.map Serving.subscription)[place]? = some other.subscription := by
    rw [List.getElem?_map, there, Option.map_some]
  intro same
  rw [same, ← second] at first
  obtain ⟨known, -⟩ := List.getElem?_eq_some_iff.mp second
  exact elsewhere ((List.getElem?_inj known attended.apart).mp first.symm).symm

theorem IsAttended.after_serves (attended : audience.IsAttended) (index : Nat) (timestamp : Int)
    (event : ServingEvent) : (audience.after (.serves index timestamp event)).IsAttended := by
  rw [Audience.after]
  split
  · next serving here =>
    have member := List.mem_of_getElem? here
    have effect := Serving.effect_step timestamp audience.service serving event
    by_cases closed : serving.stage = .closed
    · -- a serving that is over stays as it is
      have same : audience.servings.set index serving = audience.servings := by
        obtain ⟨bound, there⟩ := List.getElem?_eq_some_iff.mp here
        rw [← there, List.set_getElem_self]
      rw [Serving.step_of_closed timestamp audience.service closed event]
      dsimp only
      rwa [same]
    · have seated := attended.seated serving member
      rw [Serving.keepsSeat_of_open closed] at seated
      have seat := effect.seat attended.indexed (attended.named serving member)
        (attended.voiced serving member) closed seated
      obtain ⟨id, subscription⟩ := effect.keeps
      dsimp only
      generalize (Serving.step timestamp audience.service serving event).1 = later at effect seat ⊢
      generalize (Serving.step timestamp audience.service serving event).2 = next at *
      have keeps := map_subscription_set here subscription
      refine ⟨?_, ?_, ?_, ?_, ?_, ?_⟩
      · rcases effect.service_eq with same | ⟨step, -, same⟩
        · exact same ▸ attended.indexed
        · exact same ▸ JobService.isIndexed_after attended.indexed step
      · refine forall_mem_set ?_ fun place other there _ => attended.named other (List.mem_of_getElem? there)
        rw [id, subscription, attended.named serving member]
      · exact forall_mem_set (effect.isVoiced (attended.voiced serving member)) fun place other there _ =>
          attended.voiced other (List.mem_of_getElem? there)
      · exact keeps ▸ attended.apart
      · refine forall_mem_set (subscription ▸ seat) fun place other there elsewhere => ?_
        exact effect.seat_of_ne (attended.subscription_ne here there elsewhere)
          (attended.seated other (List.mem_of_getElem? there))
      · intro other seated
        rw [keeps]
        exact attended.served other (effect.seat_before seated)
  · exact attended

theorem IsAttended.after (attended : audience.IsAttended) {event : AudienceEvent}
    (allowed : audience.Allows event) : (audience.after event).IsAttended := by
  cases event with
  | apart step => exact attended.after_apart allowed.2
  | asks id interval => exact attended.after_asks id interval
  | serves index timestamp event => exact attended.after_serves index timestamp event

theorem Course.isAttended (course : Course first past audience) (attended : first.IsAttended) :
    audience.IsAttended := by
  induction course with
  | nil => exact attended
  | snoc _ event allowed ih => exact ih.after allowed

/-- A new service, which nobody has asked for anything. -/
def opened (capacity : Int) (retention : Binary64) : Audience where
  service := JobService.fresh capacity retention

theorem isAttended_opened (capacity : Int) (retention : Binary64) :
    (opened capacity retention).IsAttended where
  indexed := JobService.isIndexed_fresh capacity retention
  named := List.forall_mem_nil _
  voiced := List.forall_mem_nil _
  apart := List.nodup_nil
  seated := List.forall_mem_nil _
  served subscription seated := by simp [opened, JobService.seat?, JobService.fresh] at seated

/-- The job of an observer that is attached can be found. -/
theorem IsAttended.finds (attended : audience.IsAttended) {serving : Serving}
    (member : serving ∈ audience.servings) (keeps : serving.keepsSeat = true) :
    audience.service.registry.Finds serving.subscription.number := by
  have seated := attended.seated serving member
  rw [keeps] at seated
  obtain ⟨job, here, attends⟩ := Option.bind_eq_some_iff.mp seated
  exact attended.indexed.watched here (List.mem_of_getElem? attends)

/-- However the requests, the servings and the jobs take turns, an observer is attached exactly as long as
its serving goes on, except that the observer of a serving that was over before it had sent anything stays
for good; nobody else is attached. So when a serving ends, its observer has left exactly if the serving had
begun; and whoever stays keeps the job from being released. -/
theorem Course.attends {capacity : Int} {retention : Binary64}
    (course : Course (opened capacity retention) past audience) :
    (∀ serving ∈ audience.servings, audience.service.seat? serving.subscription =
      some (!serving.isClosed || serving.sent.isEmpty)) ∧
    (∀ subscription, audience.service.seat? subscription = some true →
      ∃ serving ∈ audience.servings, serving.subscription = subscription ∧
        (serving.isClosed = false ∨ serving.sent = [])) ∧
    (∀ index timestamp event serving next, audience.servings[index]? = some serving →
      serving.isClosed = false →
      (audience.after (.serves index timestamp event)).servings[index]? = some next →
      next.isClosed = true →
      (audience.after (.serves index timestamp event)).service.seat? serving.subscription =
        some (decide (serving.stage = .created))) ∧
    ∀ serving ∈ audience.servings, serving.isClosed = false ∨ serving.sent = [] →
      audience.service.registry.Finds serving.subscription.number := by
  have attended := course.isAttended (isAttended_opened capacity retention)
  refine ⟨attended.seated, ?_, ?_, fun serving member keeps =>
    attended.finds member (Serving.keepsSeat_iff.mpr keeps)⟩
  · intro subscription seated
    obtain ⟨serving, member, rfl⟩ := List.mem_map.mp (attended.served subscription seated)
    rw [attended.seated serving member] at seated
    exact ⟨serving, member, rfl, Serving.keepsSeat_iff.mp (Option.some.inj seated)⟩
  · intro index timestamp event serving next here open_ there ended
    have open_ : serving.stage ≠ .closed := fun closed =>
      Bool.false_ne_true (open_.symm.trans (Serving.isClosed_iff.mpr closed))
    have effect := Serving.effect_step timestamp audience.service serving event
    have seated := (attended.after_serves index timestamp event).seated next (List.mem_of_getElem? there)
    have same : next = (Serving.step timestamp audience.service serving event).2 := by
      simp only [Audience.after, here, List.getElem?_set_self'] at there
      exact (Option.some.inj there).symm
    rw [← same] at effect
    rw [← effect.ended (attended.voiced serving (List.mem_of_getElem? here)) open_
      (Serving.isClosed_iff.mp ended), ← effect.keeps.2]
    exact seated

/-- Two observers ask for the progress of a job. The answer to the first is discarded before anything is
sent, and the second goes away after its greeting; then the job ends. -/
def visitors : List AudienceEvent := [.apart (.submit {} .compose), .asks "job-1" 15, .asks "job-1" 15,
  .serves 0 0 .discarded, .serves 1 0 .begun, .serves 1 0 .discarded, .apart (.start {} 0),
  .apart (.complete {} 0 .null)]

theorem visitors_course :
    Course (opened 256 3600) visitors (visitors.foldl after (opened 256 3600)) := by
  have begun : Course (opened 256 3600) [] _ := .nil
  have both := ((begun.snoc (.apart (.submit {} .compose)) ⟨trivial, rfl⟩).snoc
    (.asks "job-1" 15) trivial).snoc (.asks "job-1" 15) trivial
  have gone := ((both.snoc (.serves 0 0 .discarded) trivial).snoc (.serves 1 0 .begun) trivial).snoc
    (.serves 1 0 .discarded) trivial
  exact (gone.snoc (.apart (.start {} 0)) ⟨rfl, rfl⟩).snoc (.apart (.complete {} 0 .null)) ⟨rfl, rfl⟩

/-- Both servings are over. The second observer has left, and the first is still attached. -/
theorem visitors_attend :
    ∃ audience unheard heard, Course (opened 256 3600) visitors audience ∧
      audience.servings = [unheard, heard] ∧ unheard.isClosed = true ∧ heard.isClosed = true ∧
      audience.service.seat? heard.subscription = some false ∧
      audience.service.seat? unheard.subscription = some true := by
  obtain ⟨seated, -⟩ := visitors_course.attends
  refine ⟨_, _, _, visitors_course, rfl, by decide +kernel, by decide +kernel, ?_, ?_⟩
  · exact (seated _ (.tail _ (.head _))).trans (by decide +kernel)
  · exact (seated _ (.head _)).trans (by decide +kernel)

/-- An observer whose answer was discarded before anything was sent is attached to a job that has ended,
although nobody is served any more, and the job is not removed however late it is. -/
theorem unheard_stays :
    ∃ audience, Course (opened 256 3600) visitors audience ∧
      audience.servings.all Serving.isClosed = true ∧
      audience.service.seat? ⟨0, 0⟩ = some true ∧
      ((audience.service.registry.records[0]?).map Job.isTerminal = some true) ∧
      (audience.service.after (.query { seconds := 1000000 } [])).registry.Finds 0 :=
  ⟨_, visitors_course, by decide +kernel, by decide +kernel, by decide +kernel, by decide +kernel⟩

end Audience

/-! ## Servers -/

namespace Server

/-- What a request does to the jobs: it attaches an observer and is answered with a serving to come, or it is
answered at once and nobody comes or leaves. -/
def Attends (server later : Server) (reply : Reply) : Prop :=
  (∃ id subscription, reply = .progress id subscription ∧
    server.workshop.service.subscribe id = .ok (later.workshop.service, subscription)) ∨
  ∃ response, reply = .whole response ∧ (later.workshop.service = server.workshop.service ∨
    ∃ step, server.workshop.service.Allows step ∧ step.movesObserver = false ∧
      later.workshop.service = server.workshop.service.after step)

variable {server : Server}

theorem attends_order {α : Type} (server : Server) (request : Request) (read : FormReader α)
    (order : α → Order) (message : α → String) :
    server.Attends (server.order request read order message).1
      (.whole (server.order request read order message).2) := by
  unfold Server.order
  split
  · exact .inr ⟨_, rfl, .inl rfl⟩
  · next form _ =>
    exact .inr ⟨_, rfl, .inr ⟨.submit server.workshop.world.now (order form).kind, trivial, rfl, rfl⟩⟩

theorem attends_jobStatus (server : Server) (target : Target) :
    server.Attends (server.jobStatus target).1 (.whole (server.jobStatus target).2) := by
  unfold jobStatus
  split
  · exact .inr ⟨_, rfl, .inl rfl⟩
  · next ids _ => exact .inr ⟨_, rfl, .inr ⟨.query server.workshop.world.now ids, trivial, rfl, rfl⟩⟩

theorem attends_subscribe (server : Server) (jobId : String) :
    server.Attends (server.subscribe jobId).1 (server.subscribe jobId).2 := by
  unfold Server.subscribe Workshop.subscribe
  cases subscribed : server.workshop.service.subscribe jobId with
  | error fault => exact .inr ⟨_, rfl, .inl rfl⟩
  | ok taken => exact .inl ⟨jobId, taken.2, rfl, subscribed⟩

theorem attends_meet (server : Server) (request : Request) (route : Route) :
    server.Attends (server.meet request route).1 (server.meet request route).2 := by
  cases route with
  | compose | compressVideo | compressImage => exact server.attends_order request _ _ _
  | jobStatus => exact server.attends_jobStatus request.target
  | progress jobId => exact server.attends_subscribe jobId
  | stickers | fonts | output | health => exact .inr ⟨_, rfl, .inl rfl⟩

theorem attends_answer (server : Server) (request : Request) :
    server.Attends (server.answer request).1 (server.answer request).2 := by
  have routed : server.Attends (server.answerRouted request).1 (server.answerRouted request).2 := by
    unfold answerRouted
    dsimp only
    split
    · exact .inr ⟨_, rfl, .inl rfl⟩
    · split
      · exact server.attends_meet request _
      · exact .inr ⟨_, rfl, .inl rfl⟩
  unfold Server.answer
  cases CrossOrigin.answer? server.origins request with
  | some response => exact .inr ⟨_, rfl, .inl rfl⟩
  | none =>
    dsimp only
    generalize server.answerRouted request = met at routed ⊢
    obtain ⟨later, reply⟩ := met
    cases reply with
    | progress jobId subscription => exact routed
    | whole response =>
      rcases routed with ⟨_, _, other, _⟩ | ⟨_, _, quiet⟩
      · contradiction
      · exact .inr ⟨_, rfl, quiet⟩

/-- Whatever a server is asked, it does to its jobs only what can happen to an audience, and it promises to
serve exactly those who get a serving there. -/
theorem answer_plays (server : Server) (request : Request) {audience : Audience}
    (same : audience.service = server.workshop.service) :
    ∃ events next, Audience.Course audience events next ∧
      next.service = (server.answer request).1.workshop.service ∧
      ((∃ response, (server.answer request).2 = .whole response ∧ next.servings = audience.servings) ∨
        ∃ jobId subscription, (server.answer request).2 = .progress jobId subscription ∧
          next.servings = audience.servings ++ [{
            jobId := jobId
            subscription := subscription
            interval := server.settings.heartbeatInterval }]) := by
  have still : Audience.Course audience [] audience := .nil
  rcases server.attends_answer request with ⟨jobId, subscription, reply, subscribed⟩ |
    ⟨response, reply, quiet | ⟨step, allowed, apart, effect⟩⟩
  · rw [← same] at subscribed
    refine ⟨_, _, still.snoc (.asks jobId server.settings.heartbeatInterval) trivial, ?_,
      .inr ⟨jobId, subscription, reply, ?_⟩⟩ <;> simp only [Audience.after, subscribed]
  · exact ⟨_, _, still, same.trans quiet.symm, .inl ⟨response, reply, rfl⟩⟩
  · rw [← same] at allowed effect
    exact ⟨_, _, still.snoc (.apart step) ⟨allowed, apart⟩, effect.symm, .inl ⟨response, reply, rfl⟩⟩

end Server

end Http

end Montage
