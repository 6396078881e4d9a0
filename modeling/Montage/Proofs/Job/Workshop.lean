import Mathlib.Logic.Relation
import Montage.Job.Workshop
import Montage.Proofs.Job.History

/-! # Workshops take steps

Whatever a workshop does with its service, and whatever works it does, it takes the service only where
steps lead; so what is known about runs holds for it.
-/

namespace Montage

namespace JobService

variable {service : JobService} {step : ServiceStep} {number : Nat}

/-- A service that steps lead to when nobody submits a job during a shutdown. -/
def IsReached (service : JobService) : Prop :=
  ∃ capacity retention past, Run AllowsCalmly (fresh capacity retention) past service

theorem IsReached.after (reached : service.IsReached) (allows : service.AllowsCalmly step) :
    (service.after step).IsReached := by
  obtain ⟨capacity, retention, past, run⟩ := reached
  exact ⟨capacity, retention, _, run.snoc step allows⟩

/-- A running job can tell something. -/
theorem IsReached.tells (reached : service.IsReached) (started : service.stage number = .started) :
    ∃ job, service.registry.records[number]? = some job ∧ job.startedAt.isSome := by
  obtain ⟨capacity, retention, past, run⟩ := reached
  have paired := (run.isOrderly (isOrderly_fresh capacity retention)).paired
  have bound := lt_of_live (by simp [started] : service.stage number ≠ .ended)
  rw [paired] at bound
  obtain ⟨task, holds⟩ := paired.holds (List.getElem?_eq_getElem bound)
  refine ⟨_, holds.job, ?_⟩
  obtain ⟨_, _, _, _, _, _, _, _, tale, _⟩ := run.isTold holds
  rw [holds.stage.symm.trans started] at tale
  exact tale.of_started

theorem stage_setTask {change : Task → Task} (same : ∀ task, (change task).stage = task.stage) :
    (service.setTask number change).stage number = service.stage number := by
  simp only [stage, setTask, List.getElem?_modify_eq, Option.map_eq_map, Option.map_map]
  exact congrArg (Option.getD · _) (Option.map_congr fun task _ => same task)

theorem IsReached.start (reached : service.IsReached) (now : Moment) (number : Nat) :
    (service.start now number).IsReached := by
  by_cases created : service.stage number = .created
  · have allows : service.AllowsCalmly (.start now number) := ⟨created, nofun⟩
    exact reached.after allows
  · rwa [JobService.start, if_neg created]

theorem IsReached.emit (reached : service.IsReached) (started : service.stage number = .started)
    (now : Moment) (phase : Phase) (message : String) (data : Option Json) :
    (service.emit now number phase message data).IsReached := by
  have allows : service.AllowsCalmly (.emit now number phase message data) :=
    ⟨reached.tells started, nofun⟩
  exact reached.after allows

end JobService

namespace Workshop

variable {workshop : Workshop} {service : JobService} {world : World} {number : Nat}

/-- A step of a work leaves the service alone, or is something that the job tells. -/
theorem answer?_service {step : Step} {answer : step.Answer} {after : JobService × World}
    (answered : answer? number step (service, world) = some (answer, after)) :
    after.1 = service ∨ ∃ phase message data,
      after.1 = service.emit world.now number phase message data := by
  cases step with
  | emit phase message data =>
    obtain ⟨_, rfl⟩ := Prod.mk.inj (Option.some.inj answered)
    exact .inr ⟨phase, message, data, rfl⟩
  | _ =>
    simp only [answer?, Option.map_eq_some_iff, Prod.mk.injEq] at answered
    obtain ⟨_, _, _, rfl⟩ := answered
    exact .inl rfl

theorem emit_tasks (service : JobService) (now : Moment) (number : Nat) (phase : Phase)
    (message : String) (data : Option Json) :
    (service.emit now number phase message data).tasks = service.tasks := by
  unfold JobService.emit
  split <;> rfl

/-- However far a work goes on, its service is reached by what it tells. -/
theorem advance_reached (work : Work Json) (world : World) (reached : service.IsReached)
    (started : service.stage number = .started) :
    (work.advance (answer? number) (service, world)).2.1.IsReached ∧
      (work.advance (answer? number) (service, world)).2.1.tasks = service.tasks := by
  induction work generalizing service world with
  | done | failed | cancelled => exact ⟨reached, rfl⟩
  | ask step next ih =>
    rw [Work.advance]
    cases answered : answer? number step (service, world) with
    | none => exact ⟨reached, rfl⟩
    | some answer =>
      obtain ⟨answer, service', world'⟩ := answer
      rcases answer?_service answered with rfl | ⟨phase, message, data, rfl⟩
      · exact ih answer world' reached started
      · have tasks := emit_tasks service world.now number phase message data
        have told := reached.emit started world.now phase message data
        have going : (service.emit world.now number phase message data).stage number = .started := by
          rwa [JobService.stage, tasks]
        exact ⟨(ih answer world' told going).1, (ih answer world' told going).2.trans tasks⟩

/-- The end of a work is a step of its service. -/
theorem settle_reached (reached : service.IsReached) (started : service.stage number = .started)
    (now : Moment) (work : Work Json) : (settle service now number work).IsReached := by
  cases work with
  | done result =>
    have allows : service.AllowsCalmly (.complete now number result) := ⟨started, nofun⟩
    exact reached.after allows
  | failed fault =>
    have allows : service.AllowsCalmly (.fail now number fault) := ⟨started, nofun⟩
    exact reached.after allows
  | cancelled =>
    have allows : service.AllowsCalmly (.cancel now number) := ⟨started, nofun⟩
    exact reached.after allows
  | ask => exact reached

theorem proceed_reached (reached : workshop.service.IsReached)
    (started : workshop.service.stage number = .started) (work : Work Json) :
    (workshop.proceed number work).service.IsReached := by
  obtain ⟨told, tasks⟩ := advance_reached work workshop.world reached started
  refine settle_reached told ?_ _ _
  rwa [JobService.stage, tasks]

/-- Letting a task go on takes the service only where steps lead. -/
theorem visit_reached (reached : workshop.service.IsReached) (number : Nat) :
    (workshop.visit number).service.IsReached := by
  have reached := reached.start workshop.world.now number
  unfold visit
  dsimp only
  split
  · next work started _ =>
    split
    · have allows : (workshop.service.start workshop.world.now number).AllowsCalmly
          (.interrupt number) := ⟨started, nofun⟩
      refine proceed_reached (reached.after allows) ?_ _
      rw [← started]
      exact JobService.stage_setTask fun _ => rfl
    · exact proceed_reached reached started work
  · exact reached

theorem run_reached (reached : workshop.service.IsReached) : workshop.run.service.IsReached := by
  unfold run
  generalize List.range workshop.works.length = numbers
  induction numbers generalizing workshop with
  | nil => exact reached
  | cons number rest ih => exact ih (visit_reached reached number)

theorem subscribe_reached (reached : workshop.service.IsReached) {id : String}
    {later : Workshop} {subscription : Subscription}
    (subscribed : workshop.subscribe id = .ok (later, subscription)) : later.service.IsReached := by
  cases there : workshop.service.subscribe id with
  | error fault =>
    rw [subscribe, there] at subscribed
    contradiction
  | ok taken =>
    obtain ⟨service, given⟩ := taken
    rw [subscribe, there] at subscribed
    obtain ⟨rfl, _⟩ := Prod.mk.inj (Except.ok.inj subscribed)
    have same : workshop.service.after (.subscribe id) = service := by rw [JobService.after, there]
    have allows : workshop.service.AllowsCalmly (.subscribe id) :=
      ⟨trivial, fun submission => Bool.noConfusion submission⟩
    exact same ▸ reached.after allows

/-- A shutdown that does not settle leaves the service as it is until it does. -/
theorem shutdown_reached (reached : workshop.service.IsReached) :
    workshop.shutdown.service.IsReached := by
  have begins : workshop.service.AllowsCalmly .beginShutdown := ⟨trivial, nofun⟩
  let stopping : Workshop := { workshop with service := workshop.service.beginShutdown }
  have begun : stopping.run.service.IsReached := run_reached (reached.after begins)
  change ({ stopping.run with
    service := stopping.run.service.endShutdown stopping.run.world.now } : Workshop).service.IsReached
  generalize stopping.run = stopped at begun ⊢
  by_cases settled : stopped.service.isSettled = true
  · have ends : stopped.service.AllowsCalmly (.endShutdown stopped.world.now) := ⟨settled, nofun⟩
    exact begun.after ends
  · dsimp only
    rwa [JobService.endShutdown, if_neg settled]

/-- What a workshop is asked to do: clients submit jobs, observe them and ask for them, time goes by,
tasks go on, and the service is shut down. Nobody submits a job during a shutdown. -/
inductive Leads (workshop : Workshop) : Workshop → Prop
  | submit (kind : JobKind) (work : String → Work Json) (calm : workshop.service.awaited = none) :
      Leads workshop (workshop.submit kind work).1
  | subscribe {id : String} {later : Workshop} {subscription : Subscription}
      (subscribed : workshop.subscribe id = .ok (later, subscription)) : Leads workshop later
  | unsubscribe (id : String) (subscription : Subscription) :
      Leads workshop (workshop.unsubscribe id subscription)
  | next (subscription : Subscription) : Leads workshop (workshop.next subscription).1
  | drain (subscription : Subscription) : Leads workshop (workshop.drain subscription).1
  | query (ids : List String) : Leads workshop (workshop.query ids).1
  | openGate (gate : String) : Leads workshop (workshop.openGate gate)
  | elapse (seconds : Binary64) : Leads workshop (workshop.elapse seconds)
  | visit (number : Nat) : Leads workshop (workshop.visit number)
  | run : Leads workshop workshop.run
  | shutdown : Leads workshop workshop.shutdown

/-- Whatever a workshop is asked to do takes its service only where steps lead. -/
theorem Leads.reached {later : Workshop} (leads : workshop.Leads later)
    (reached : workshop.service.IsReached) : later.service.IsReached := by
  cases leads with
  | submit kind work calm =>
    have allows : workshop.service.AllowsCalmly (.submit workshop.world.now kind) :=
      ⟨trivial, fun _ => calm⟩
    exact reached.after allows
  | subscribe subscribed => exact subscribe_reached reached subscribed
  | unsubscribe id subscription =>
    have allows : workshop.service.AllowsCalmly (.unsubscribe id subscription) := ⟨trivial, nofun⟩
    exact reached.after allows
  | next subscription =>
    have allows : workshop.service.AllowsCalmly (.next subscription) := ⟨trivial, nofun⟩
    exact reached.after allows
  | drain subscription =>
    have allows : workshop.service.AllowsCalmly (.drain subscription) := ⟨trivial, nofun⟩
    exact reached.after allows
  | query ids =>
    have allows : workshop.service.AllowsCalmly (.query workshop.world.now ids) := ⟨trivial, nofun⟩
    exact reached.after allows
  | openGate gate => exact reached
  | elapse seconds => exact reached
  | visit number => exact visit_reached reached number
  | run => exact run_reached reached
  | shutdown => exact shutdown_reached reached

/-- A workshop with a fresh service stays where steps lead, however long it is used. -/
theorem reached_of_leads {first later : Workshop} (leads : Relation.ReflTransGen Leads first later)
    {capacity : Int} {retention : Binary64} (fresh : first.service = .fresh capacity retention) :
    later.service.IsReached := by
  induction leads with
  | refl => exact ⟨capacity, retention, [], fresh ▸ .nil⟩
  | tail _ leads ih => exact leads.reached ih

end Workshop

end Montage
