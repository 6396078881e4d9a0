import Montage.Work.Basic

/-! # Transcripts of works

What a work does is known from its transcript: the steps that it took, each with the answer that it was
given, and the work that is left over. The transcript of one work after another is that of the first,
or that of the first to its end and then that of the second.
-/

namespace Montage

/-- A step that was taken, with its answer. -/
structure Deed where
  step : Step
  answer : step.Answer

namespace Work

variable {α β : Type}

/-- A work does deeds, and another work is left over. -/
inductive Does : Work α → List Deed → Work α → Prop
  | nothing (work : Work α) : Does work [] work
  | step {step : Step} {next : step.Answer → Work α} {answer : step.Answer} {deeds : List Deed}
      {rest : Work α} (others : Does (next answer) deeds rest) :
      Does (.ask step next) (⟨step, answer⟩ :: deeds) rest

theorem Does.snoc {work : Work α} {deeds : List Deed} {step : Step} {next : step.Answer → Work α}
    {answer : step.Answer} (does : work.Does deeds (.ask step next)) :
    work.Does (deeds ++ [⟨step, answer⟩]) (next answer) := by
  generalize left : Work.ask step next = rest at does
  induction does with
  | nothing => exact left ▸ .step (.nothing _)
  | step _ ih => exact .step (ih left)

/-- The transcript of one work after another. -/
theorem does_bind {work : Work α} {f : α → Work β} {deeds : List Deed} {rest : Work β}
    (does : (work.bind f).Does deeds rest) :
    (∃ left, work.Does deeds left ∧ rest = left.bind f) ∨
      ∃ first second value, deeds = first ++ second ∧ work.Does first (.done value) ∧
        (f value).Does second rest := by
  induction work generalizing deeds with
  | done value => exact .inr ⟨[], deeds, value, rfl, .nothing _, does⟩
  | failed fault =>
    cases does with
    | nothing => exact .inl ⟨_, .nothing _, rfl⟩
  | cancelled =>
    cases does with
    | nothing => exact .inl ⟨_, .nothing _, rfl⟩
  | ask step next ih =>
    cases does with
    | nothing => exact .inl ⟨_, .nothing _, rfl⟩
    | @step _ _ answer others _ does =>
      rcases ih answer does with ⟨left, here, rest⟩ | ⟨first, second, value, split, here, there⟩
      · exact .inl ⟨left, .step here, rest⟩
      · exact .inr ⟨⟨step, answer⟩ :: first, second, value, by rw [split, List.cons_append],
          .step here, there⟩

theorem bind_done (work : Work α) : work.bind .done = work := by
  induction work with
  | done | failed | cancelled => rfl
  | ask step next ih => exact congrArg (Work.ask step) (funext ih)

theorem bind_assoc {γ : Type} (work : Work α) (f : α → Work β) (g : β → Work γ) :
    (work.bind f).bind g = work.bind fun value => (f value).bind g := by
  induction work with
  | done | failed | cancelled => rfl
  | ask step next ih => exact congrArg (Work.ask step) (funext ih)

theorem bind_congr {work : Work α} {f g : α → Work β} (same : ∀ value, f value = g value) :
    work.bind f = work.bind g := congrArg work.bind (funext same)

theorem runEngine_bind {σ : Type} (args : List String) (timeout : Option Binary64)
    (onLine : σ → Engine.Line → Work σ) (mind : σ) (next : Engine.Outcome × σ → Work β) :
    (runEngine args timeout onLine mind).bind next =
      .ask (.launch args timeout) fun answer => (ofAwaited answer).bind fun lines =>
        (lines.foldlM onLine mind).bind fun mind => .ask .collect fun answer =>
          (ofAwaited answer).bind fun outcome => next (outcome, mind) := by
  simp only [runEngine, perform, Bind.bind, Pure.pure, Work.bind, Work.bind_assoc]

theorem Does.trans {work middle rest : Work α} {first second : List Deed}
    (here : work.Does first middle) (there : middle.Does second rest) :
    work.Does (first ++ second) rest := by
  induction here with
  | nothing => exact there
  | step _ ih => exact .step (ih there)

theorem Does.bind_left {work left : Work α} {f : α → Work β} {deeds : List Deed}
    (does : work.Does deeds left) : (work.bind f).Does deeds (left.bind f) := by
  induction does with
  | nothing => exact .nothing _
  | step _ ih => exact .step ih

theorem Does.bind {work : Work α} {f : α → Work β} {first second : List Deed} {value : α} {rest : Work β}
    (here : work.Does first (.done value)) (there : (f value).Does second rest) :
    (work.bind f).Does (first ++ second) rest := here.bind_left.trans there

/-- A work has ended without a result, and with it another one. -/
inductive Breaks : Work α → Work β → Prop
  | failed (fault : JobFault) : Breaks (.failed fault) (.failed fault)
  | cancelled : Breaks .cancelled .cancelled

theorem Does.breaks {work left : Work α} {f : α → Work β} {deeds : List Deed} {rest : Work β}
    (here : work.Does deeds left) (breaks : left.Breaks rest) : (work.bind f).Does deeds rest := by
  cases breaks with
  | failed | cancelled => exact here.bind_left

theorem Breaks.isEnded {work : Work α} {rest : Work β} (breaks : work.Breaks rest) :
    rest.isEnded = true := by
  cases breaks <;> rfl

theorem Breaks.isEnded_left {work : Work α} {rest : Work β} (breaks : work.Breaks rest) :
    work.isEnded = true := by
  cases breaks <;> rfl

theorem Breaks.ne_done {work : Work α} {rest : Work β} (breaks : work.Breaks rest) (value : β) :
    rest ≠ .done value := by
  rintro rfl
  cases breaks

/-- What one work after another does to its end: all that the first one does and then the second, unless
the first one ends without a result. -/
theorem does_bind_iff {work : Work α} {f : α → Work β} {deeds : List Deed} {rest : Work β}
    (ended : rest.isEnded = true) : (work.bind f).Does deeds rest ↔
      (∃ first second value, deeds = first ++ second ∧ work.Does first (.done value) ∧
        (f value).Does second rest) ∨ ∃ left, work.Does deeds left ∧ left.Breaks rest := by
  constructor
  · intro does
    rcases does_bind does with ⟨left, here, rfl⟩ | whole
    · cases left with
      | done value => exact .inl ⟨deeds, [], value, (List.append_nil deeds).symm, here, .nothing _⟩
      | failed fault => exact .inr ⟨_, here, .failed fault⟩
      | cancelled => exact .inr ⟨_, here, .cancelled⟩
      | ask => cases ended
    · exact .inl whole
  · rintro (⟨first, second, value, rfl, here, there⟩ | ⟨left, here, breaks⟩)
    · exact here.bind there
    · exact here.breaks breaks

theorem does_ask_iff {step : Step} {next : step.Answer → Work α} {deeds : List Deed} {rest : Work α}
    (ended : rest.isEnded = true) : (Work.ask step next).Does deeds rest ↔
      ∃ answer others, deeds = ⟨step, answer⟩ :: others ∧ (next answer).Does others rest := by
  constructor
  · intro does
    cases does with
    | nothing => cases ended
    | step others => exact ⟨_, _, rfl, others⟩
  · rintro ⟨answer, others, rfl, does⟩
    exact .step does

theorem does_ofAwaited_iff {awaited : Awaited α} {next : α → Work β} {deeds : List Deed}
    {rest : Work β} : ((ofAwaited awaited).bind next).Does deeds rest ↔
      (awaited = .cancelled ∧ deeds = [] ∧ rest = .cancelled) ∨
        ∃ found, awaited = .arrived found ∧ (next found).Does deeds rest := by
  cases awaited with
  | arrived found =>
    constructor
    · exact fun does => .inr ⟨found, rfl, does⟩
    · rintro (⟨other, -⟩ | ⟨_, same, does⟩)
      · cases other
      · cases same
        exact does
  | cancelled =>
    constructor
    · intro does
      cases does with
      | nothing => exact .inl ⟨rfl, rfl, rfl⟩
    · rintro (⟨-, rfl, rfl⟩ | ⟨_, other, -⟩)
      · exact .nothing _
      · cases other

/-- What one work after another does to a result. -/
theorem does_bind_done {work : Work α} {f : α → Work β} {deeds : List Deed} {value : β}
    (does : (work.bind f).Does deeds (.done value)) :
    ∃ first second middle, deeds = first ++ second ∧ work.Does first (.done middle) ∧
      (f middle).Does second (.done value) := by
  rcases (does_bind_iff rfl).mp does with whole | ⟨left, here, breaks⟩
  · exact whole
  · cases breaks

theorem does_perform_bind {step : Step} {next : step.Answer → Work β} {deeds : List Deed} {value : β}
    (does : ((perform step).bind next).Does deeds (.done value)) :
    ∃ answer others, deeds = ⟨step, answer⟩ :: others ∧ (next answer).Does others (.done value) := by
  cases does with
  | step others => exact ⟨_, _, rfl, others⟩

theorem does_ofExcept_bind {ε : Type} {toFault : ε → JobFault} {result : Except ε α} {next : α → Work β}
    {deeds : List Deed} {value : β}
    (does : ((ofExcept toFault result).bind next).Does deeds (.done value)) :
    ∃ found, result = .ok found ∧ (next found).Does deeds (.done value) := by
  cases result with
  | ok found => exact ⟨found, rfl, does⟩
  | error fault => cases does

theorem does_ofAwaited_bind {awaited : Awaited α} {next : α → Work β} {deeds : List Deed} {value : β}
    (does : ((ofAwaited awaited).bind next).Does deeds (.done value)) :
    ∃ found, awaited = .arrived found ∧ (next found).Does deeds (.done value) := by
  cases awaited with
  | arrived found => exact ⟨found, rfl, does⟩
  | cancelled => cases does

/-- Whether the next thing that a work does is to tell something. -/
def isTelling : Work α → Bool
  | .ask (.emit ..) _ => true
  | _ => false

/-- Whether a step starts the engine. -/
def isLaunch : Step → Bool
  | .launch .. => true
  | _ => false

/-- A work that never starts the engine, whatever it is answered. -/
inductive NeverLaunches : Work α → Prop
  | done (value : α) : NeverLaunches (.done value)
  | failed (fault : JobFault) : NeverLaunches (.failed fault)
  | cancelled : NeverLaunches .cancelled
  | ask {step : Step} {next : step.Answer → Work α} (other : isLaunch step = false)
      (later : ∀ answer, NeverLaunches (next answer)) : NeverLaunches (.ask step next)

namespace NeverLaunches

theorem bind {work : Work α} {f : α → Work β} (first : work.NeverLaunches)
    (second : ∀ value, (f value).NeverLaunches) : (work.bind f).NeverLaunches := by
  induction first with
  | done value => exact second value
  | failed fault => exact .failed fault
  | cancelled => exact .cancelled
  | ask other _ ih => exact .ask other ih

theorem ensuring {cleanup : Work Unit} (last : cleanup.NeverLaunches) {work : Work α}
    (first : work.NeverLaunches) : (Work.ensuring cleanup work).NeverLaunches := by
  induction first with
  | done value => exact bind last fun _ => .done value
  | failed fault => exact bind last fun _ => .failed fault
  | cancelled => exact bind last fun _ => .cancelled
  | ask other _ ih => exact .ask other ih

theorem perform {step : Step} (other : isLaunch step = false) : (Work.perform step).NeverLaunches :=
  .ask other .done

theorem ofAwaited (awaited : Awaited α) : (Work.ofAwaited awaited).NeverLaunches := by
  cases awaited with
  | arrived value => exact .done value
  | cancelled => exact .cancelled

theorem ofExcept {ε : Type} (toFault : ε → JobFault) (result : Except ε α) :
    (Work.ofExcept toFault result).NeverLaunches := by
  cases result with
  | ok value => exact .done value
  | error fault => exact .failed _

theorem emit (phase : Phase) (message : String) (data : Option Json) :
    (Work.emit phase message data).NeverLaunches := by
  cases phase with
  | completed | failed => exact .failed _
  | queue | download | processing | error => exact perform rfl

/-- No deed of such a work starts the engine. -/
theorem does {work rest : Work α} {deeds : List Deed} (never : work.NeverLaunches)
    (does : work.Does deeds rest) : ∀ deed ∈ deeds, isLaunch deed.step = false := by
  induction does with
  | nothing => exact List.forall_mem_nil _
  | step _ ih =>
    cases never with
    | ask other later => exact List.forall_mem_cons.mpr ⟨other, ih (later _)⟩

end NeverLaunches

end Work

/-- Something that a job tells its observers. -/
structure Telling where
  phase : Phase
  message : String
  data : Option Json

/-- What a work tells before it does anything else. -/
def told : List Deed → List Telling
  | ⟨.emit phase message data, _⟩ :: rest => ⟨phase, message, data⟩ :: told rest
  | _ => []

/-- The deeds of telling something. -/
def tellings (what : List Telling) : List Deed :=
  what.map fun telling => ⟨.emit telling.phase telling.message telling.data, ()⟩

theorem told_tellings (what : List Telling) (rest : List Deed) :
    told (tellings what ++ rest) = what ++ told rest := by
  induction what with
  | nil => rfl
  | cons telling others ih => exact congrArg (telling :: ·) ih

theorem isLaunch_tellings (what : List Telling) :
    ∀ deed ∈ tellings what, Work.isLaunch deed.step = false := by
  rw [tellings, List.forall_mem_map]
  exact fun _ _ => rfl

end Montage
