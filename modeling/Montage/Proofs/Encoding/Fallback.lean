import Montage.Encoding.Fallback
import Montage.Proofs.Work.Transcript

/-! # What an encoding does

An encoding calls the engine once for each of its profiles, in order, for as long as the engine fails. So
its transcript to the end is that of calls that fail, followed by nothing if no profile is left, and
else by one more attempt, which settles how the encoding ends.
-/

namespace Montage.Encoding

open Engine (Outcome)

/-- One call of the engine: what is done to announce its profile, the lines that it prints, and what is
done to handle them. -/
structure Call (σ : Type) where
  profile : Profile
  announced : List Deed
  lines : List Engine.Line
  handled : List Deed
  /-- What the handling keeps in mind after the last line. -/
  mind : σ

namespace Attempt

variable {σ α : Type} (attempt : Attempt σ)

/-- Launching the engine with the command of a profile. -/
def launch (profile : Profile) (answer : Awaited (List Engine.Line)) : Deed :=
  ⟨.launch (command attempt.base profile attempt.output true) attempt.timeout, answer⟩

/-- What is done in a call up to the engine's end. -/
def deedsBefore (call : Call σ) : List Deed :=
  call.announced ++ attempt.launch call.profile (.arrived call.lines) :: call.handled

/-- What is done in a call, with the engine's end. -/
def deeds (call : Call σ) (outcome : Outcome) : List Deed :=
  attempt.deedsBefore call ++ [⟨.collect, .arrived outcome⟩]

/-- A call is made: its profile is announced, and its lines are handled. -/
structure Makes (mind : σ) (call : Call σ) : Prop where
  announces : (attempt.onAttempt call.profile).Does call.announced (.done ())
  handles : (call.lines.foldlM attempt.onLine mind).Does call.handled (.done call.mind)

/-- An attempt breaks off before the engine's end is known: the announcement or the handling of a line does
not come to its end, or the job is cancelled. -/
inductive BreaksOff (mind : σ) (profile : Profile) : List Deed → Work α → Prop
  | announcing {announced : List Deed} {left : Work Unit} {rest : Work α}
      (announces : (attempt.onAttempt profile).Does announced left) (breaks : left.Breaks rest) :
      BreaksOff mind profile announced rest
  | launching {announced : List Deed}
      (announces : (attempt.onAttempt profile).Does announced (.done ())) :
      BreaksOff mind profile (announced ++ [attempt.launch profile .cancelled]) .cancelled
  | handling {announced handled : List Deed} {lines : List Engine.Line} {left : Work σ} {rest : Work α}
      (announces : (attempt.onAttempt profile).Does announced (.done ()))
      (handles : (lines.foldlM attempt.onLine mind).Does handled left) (breaks : left.Breaks rest) :
      BreaksOff mind profile (announced ++ attempt.launch profile (.arrived lines) :: handled) rest
  | collecting {call : Call σ} (made : attempt.Makes mind call) (same : call.profile = profile) :
      BreaksOff mind profile (attempt.deedsBefore call ++ [⟨.collect, .cancelled⟩]) .cancelled

/-- Calls one after the other, each with the failure of the engine that it ends with. -/
inductive Fail : σ → List (Call σ × Engine.Fault) → σ → Prop
  | none (mind : σ) : Fail mind [] mind
  | more {mind last : σ} {call : Call σ} {fault : Engine.Fault} {others : List (Call σ × Engine.Fault)}
      (made : attempt.Makes mind call) (rest : Fail call.mind others last) :
      Fail mind ((call, fault) :: others) last

/-- What is done in calls that fail. -/
def deedsOf (failed : List (Call σ × Engine.Fault)) : List Deed :=
  failed.flatMap fun (call, fault) => attempt.deeds call (.failed fault)

/-- An attempt after which no other is made, and how the encoding ends with it; `tried` names the profiles
up to this one. -/
inductive Settles (mind : σ) (profile : Profile) (tried : List String) :
    List Deed → Work (Except Exhausted Encoded) → Prop
  | succeeded {call : Call σ} {milliseconds : Nat} (made : attempt.Makes mind call)
      (same : call.profile = profile) :
      Settles mind profile tried (attempt.deeds call (.finished milliseconds))
        (.done (.ok ⟨profile, tried, milliseconds⟩))
  | crashed {call : Call σ} {fault : JobFault} (made : attempt.Makes mind call)
      (same : call.profile = profile) :
      Settles mind profile tried (attempt.deeds call (.crashed fault)) (.failed fault)
  | broken {deeds : List Deed} {rest : Work (Except Exhausted Encoded)}
      (breaks : attempt.BreaksOff mind profile deeds rest) : Settles mind profile tried deeds rest

variable {attempt} {mind : σ} {profile : Profile}

theorem BreaksOff.isEnded {deeds : List Deed} {rest : Work α}
    (breaks : attempt.BreaksOff mind profile deeds rest) : rest.isEnded = true := by
  cases breaks with
  | announcing _ breaks | handling _ _ breaks => exact breaks.isEnded
  | launching | collecting => rfl

theorem Settles.isEnded {tried : List String} {deeds : List Deed}
    {rest : Work (Except Exhausted Encoded)} (settles : attempt.Settles mind profile tried deeds rest) :
    rest.isEnded = true := by
  cases settles with
  | succeeded | crashed => rfl
  | broken breaks => exact breaks.isEnded

/-- What the attempt at a profile does to the end of what follows it. -/
theorem does_call_iff {next : Outcome × σ → Work α} {deeds : List Deed} {rest : Work α}
    (ended : rest.isEnded = true) :
    ((attempt.onAttempt profile).bind fun _ =>
      (Work.runEngine (command attempt.base profile attempt.output true) attempt.timeout attempt.onLine
        mind).bind next).Does deeds rest ↔
      attempt.BreaksOff mind profile deeds rest ∨
        ∃ call outcome others, call.profile = profile ∧ attempt.Makes mind call ∧
          deeds = attempt.deeds call outcome ++ others ∧ (next (outcome, call.mind)).Does others rest := by
  constructor
  · intro whole
    rcases (Work.does_bind_iff ended).mp whole with
      ⟨announced, others, _, rfl, announces, calling⟩ | ⟨left, announces, breaks⟩
    · rw [Work.runEngine_bind, Work.does_ask_iff ended] at calling
      obtain ⟨answer, others, rfl, launched⟩ := calling
      rcases Work.does_ofAwaited_iff.mp launched with ⟨rfl, rfl, rfl⟩ | ⟨lines, rfl, printed⟩
      · exact .inl (.launching announces)
      rcases (Work.does_bind_iff ended).mp printed with
        ⟨handled, others, last, rfl, handles, waiting⟩ | ⟨left, handles, breaks⟩
      · have made : attempt.Makes mind ⟨profile, announced, lines, handled, last⟩ := ⟨announces, handles⟩
        obtain ⟨answer, others, rfl, collected⟩ := (Work.does_ask_iff ended).mp waiting
        rcases Work.does_ofAwaited_iff.mp collected with ⟨rfl, rfl, rfl⟩ | ⟨outcome, rfl, after⟩
        · rw [← List.cons_append, ← List.append_assoc]
          exact .inl (.collecting made rfl)
        · refine .inr ⟨_, outcome, others, rfl, made, ?_, after⟩
          simp [deeds, deedsBefore, launch]
      · exact .inl (.handling announces handles breaks)
    · exact .inl (.announcing announces breaks)
  · rintro (breaks | ⟨call, outcome, others, rfl, made, rfl, after⟩)
    · cases breaks with
      | announcing announces breaks => exact announces.breaks breaks
      | launching announces =>
        refine announces.bind ?_
        rw [Work.runEngine_bind]
        exact .step (.nothing _)
      | handling announces handles breaks =>
        refine announces.bind ?_
        rw [Work.runEngine_bind]
        exact .step (handles.breaks breaks)
      | collecting made same =>
        subst same
        rw [deedsBefore, List.append_assoc]
        refine made.announces.bind ?_
        rw [Work.runEngine_bind]
        exact .step (made.handles.bind (.step (.nothing _)))
    · rw [deeds, deedsBefore, List.append_assoc, List.append_assoc]
      refine made.announces.bind ?_
      rw [Work.runEngine_bind]
      exact .step (made.handles.bind (.step after))

theorem tryFrom_cons (attempt : Attempt σ) (tried : List String) (last : Option Engine.Fault) (mind : σ)
    (profile : Profile) (rest : List Profile) :
    attempt.tryFrom tried last mind (profile :: rest) = (attempt.onAttempt profile).bind fun _ =>
      (Work.runEngine (command attempt.base profile attempt.output true) attempt.timeout attempt.onLine
        mind).bind fun
        | (.finished milliseconds, _) => .done (.ok ⟨profile, tried ++ [profile.name], milliseconds⟩)
        | (.failed fault, mind) => attempt.tryFrom (tried ++ [profile.name]) (some fault) mind rest
        | (.crashed fault, _) => .failed fault := by
  rw [tryFrom]
  refine Work.bind_congr fun _ => Work.bind_congr fun ⟨outcome, mind⟩ => ?_
  cases outcome <;> rfl

/-- What is done to the end with a profile and those after it: either this attempt settles the encoding, or
the engine fails and the others are tried. -/
theorem does_tryFrom_cons_iff {profiles : List Profile} {tried : List String} {last : Option Engine.Fault}
    {deeds : List Deed} {rest : Work (Except Exhausted Encoded)} (ended : rest.isEnded = true) :
    (attempt.tryFrom tried last mind (profile :: profiles)).Does deeds rest ↔
      attempt.Settles mind profile (tried ++ [profile.name]) deeds rest ∨
        ∃ call fault others, call.profile = profile ∧ attempt.Makes mind call ∧
          deeds = attempt.deeds call (.failed fault) ++ others ∧
          (attempt.tryFrom (tried ++ [profile.name]) (some fault) call.mind profiles).Does others rest := by
  rw [tryFrom_cons, does_call_iff ended]
  constructor
  · rintro (breaks | ⟨call, outcome, others, same, made, rfl, after⟩)
    · exact .inl (.broken breaks)
    · cases outcome with
      | finished milliseconds =>
        cases after with
        | nothing =>
          rw [List.append_nil]
          exact .inl (.succeeded made same)
      | crashed fault =>
        cases after with
        | nothing =>
          rw [List.append_nil]
          exact .inl (.crashed made same)
      | failed fault => exact .inr ⟨call, fault, others, same, made, rfl, after⟩
  · rintro (settles | ⟨call, fault, others, same, made, rfl, after⟩)
    · cases settles with
      | succeeded made same => exact .inr ⟨_, _, [], same, made, (List.append_nil _).symm, .nothing _⟩
      | crashed made same => exact .inr ⟨_, _, [], same, made, (List.append_nil _).symm, .nothing _⟩
      | broken breaks => exact .inl breaks
    · exact .inr ⟨call, _, others, same, made, rfl, after⟩

/-- The profiles of calls. -/
def profilesOf (failed : List (Call σ × Engine.Fault)) : List Profile := failed.map (·.1.profile)

/-- The failure that the last of some calls ends with, after another one. -/
theorem last_cons (call : Call σ) (fault : Engine.Fault) (failed : List (Call σ × Engine.Fault))
    (last : Option Engine.Fault) : (((call, fault) :: failed).getLast?.map Prod.snd).or last =
      (failed.getLast?.map Prod.snd).or (some fault) := by
  rw [List.getLast?_cons]
  cases failed.getLast? <;> rfl

/-- What is done to the end with some profiles, after others. -/
theorem does_tryFrom_iff {profiles : List Profile} {tried : List String} {last : Option Engine.Fault}
    {deeds : List Deed} {rest : Work (Except Exhausted Encoded)} (ended : rest.isEnded = true) :
    (attempt.tryFrom tried last mind profiles).Does deeds rest ↔
      ∃ failed left, attempt.Fail mind failed left ∧
        ((profilesOf failed = profiles ∧ deeds = attempt.deedsOf failed ∧
            rest = .done (.error ⟨tried ++ profiles.map Profile.name,
              (failed.getLast?.map Prod.snd).or last⟩)) ∨
          ∃ profile later others, profiles = profilesOf failed ++ profile :: later ∧
            deeds = attempt.deedsOf failed ++ others ∧
            attempt.Settles left profile (tried ++ (profilesOf failed ++ [profile]).map Profile.name)
              others rest) := by
  induction profiles generalizing tried last mind deeds with
  | nil =>
    rw [tryFrom, List.map_nil, List.append_nil]
    constructor
    · intro does
      cases does with
      | nothing => exact ⟨[], mind, .none mind, .inl ⟨rfl, rfl, rfl⟩⟩
    · rintro ⟨failed, left, fail, ⟨all, rfl, rfl⟩ | ⟨profile, later, others, split, -⟩⟩
      · obtain rfl := List.map_eq_nil_iff.mp all
        exact .nothing _
      · simp at split
  | cons profile profiles ih =>
    have names (others : List Profile) : tried ++ (profile :: others).map Profile.name =
        tried ++ [profile.name] ++ others.map Profile.name := by
      rw [List.map_cons, List.append_cons]
    rw [does_tryFrom_cons_iff ended]
    constructor
    · rintro (settles | ⟨call, fault, others, rfl, made, rfl, after⟩)
      · exact ⟨[], mind, .none mind, .inr ⟨profile, profiles, deeds, rfl, rfl, settles⟩⟩
      · obtain ⟨failed, left, fail, ends⟩ := ih.mp after
        refine ⟨(call, fault) :: failed, left, .more made fail, ?_⟩
        rcases ends with ⟨rfl, rfl, rfl⟩ | ⟨profile, later, others, rfl, rfl, settles⟩
        · exact .inl ⟨rfl, rfl, by rw [names, last_cons]⟩
        · refine .inr ⟨profile, later, others, rfl, (List.append_assoc ..).symm, ?_⟩
          rw [← names] at settles
          exact settles
    · rintro ⟨failed, left, fail, ends⟩
      cases fail with
      | none =>
        rcases ends with ⟨all, -, -⟩ | ⟨profile, later, others, split, rfl, settles⟩
        · cases all
        · obtain ⟨rfl, rfl⟩ := List.cons.inj split
          exact .inl settles
      | @more _ _ call fault failed made fail =>
        refine .inr ⟨call, fault, ?_⟩
        rcases ends with ⟨all, rfl, rfl⟩ | ⟨other, later, others, split, rfl, settles⟩
        · obtain ⟨rfl, rfl⟩ := List.cons.inj all
          refine ⟨attempt.deedsOf failed, rfl, made, rfl, ih.mpr ⟨failed, left, fail, .inl ⟨rfl, rfl, ?_⟩⟩⟩
          rw [names, last_cons]
        · obtain ⟨rfl, rfl⟩ := List.cons.inj split
          refine ⟨attempt.deedsOf failed ++ others, rfl, made, List.append_assoc .., ih.mpr
            ⟨failed, left, fail, .inr ⟨other, later, others, rfl, rfl, ?_⟩⟩⟩
          rw [← names]
          exact settles

end Attempt

end Montage.Encoding
