import Mathlib.Data.List.Forall2
import Mathlib.Data.List.Induction

/-! # Results and refusals

Computations that may be refused are taken apart here into the results of their parts. A property of
the result and the refusals that can occur beside it are followed through such computations together.
-/

namespace Montage

variable {ε δ α β : Type}

theorem bind_eq_ok {x : Except ε α} {f : α → Except ε β} {b : β} :
    (x >>= f) = .ok b ↔ ∃ a, x = .ok a ∧ f a = .ok b := by
  cases x <;> simp [bind, Except.bind]

theorem bind_eq_error {x : Except ε α} {f : α → Except ε β} {fault : ε} :
    (x >>= f) = .error fault ↔ x = .error fault ∨ ∃ a, x = .ok a ∧ f a = .error fault := by
  cases x <;> simp [bind, Except.bind]

theorem pure_eq_ok {a b : α} : (pure a : Except ε α) = .ok b ↔ a = b := by
  simp [pure, Except.pure]

theorem mapError_eq_ok {x : Except ε α} {f : ε → δ} {a : α} : x.mapError f = .ok a ↔ x = .ok a := by
  cases x <;> simp [Except.mapError]

theorem mapError_eq_error {x : Except ε α} {f : ε → δ} {fault : δ} :
    x.mapError f = .error fault ↔ ∃ cause, x = .error cause ∧ f cause = fault := by
  cases x <;> simp [Except.mapError]

theorem mapError_map {x : Except ε α} (f : ε → δ) (h : α → β) :
    (h <$> x).mapError f = h <$> x.mapError f := by
  cases x <;> rfl

/-- A list is taken through a computation exactly if each of its elements is. -/
theorem mapM_eq_ok {f : α → Except ε β} {xs : List α} {ys : List β} :
    xs.mapM f = .ok ys ↔ List.Forall₂ (fun x y => f x = .ok y) xs ys := by
  induction xs generalizing ys with
  | nil => simp [pure, Except.pure, eq_comm]
  | cons x rest ih =>
    simp only [List.mapM_cons, bind_eq_ok, pure_eq_ok, ih, List.forall₂_cons_left_iff]
    constructor
    · rintro ⟨y, taken, others, all, rfl⟩
      exact ⟨y, others, taken, all, rfl⟩
    · rintro ⟨y, others, taken, all, rfl⟩
      exact ⟨y, taken, others, all, rfl⟩

/-- A list is not taken through exactly if one of its elements is not, while all before it are. -/
theorem mapM_eq_error {f : α → Except ε β} {xs : List α} {fault : ε} :
    xs.mapM f = .error fault ↔ ∃ before x after, xs = before ++ x :: after ∧
      (∀ earlier ∈ before, ∃ y, f earlier = .ok y) ∧ f x = .error fault := by
  induction xs with
  | nil => simp [pure, Except.pure]
  | cons first rest ih =>
    simp only [List.mapM_cons, bind_eq_error, ih, pure, Except.pure, reduceCtorEq, and_false,
      exists_false, or_false]
    constructor
    · rintro (refused | ⟨y, taken, before, x, after, rfl, earlier, refused⟩)
      · exact ⟨[], first, rest, rfl, List.forall_mem_nil _, refused⟩
      · exact ⟨first :: before, x, after, rfl, List.forall_mem_cons.mpr ⟨⟨y, taken⟩, earlier⟩, refused⟩
    · rintro ⟨before, x, after, place, earlier, refused⟩
      cases before with
      | nil =>
        obtain ⟨rfl, rfl⟩ := List.cons.inj place
        exact .inl refused
      | cons other before =>
        obtain ⟨rfl, rfl⟩ := List.cons.inj place
        obtain ⟨⟨y, taken⟩, earlier⟩ := List.forall_mem_cons.mp earlier
        exact .inr ⟨y, taken, before, x, after, rfl, earlier, refused⟩

/-- Two computations that go on from the same result are in step if they are from there on. -/
theorem bind_eq_map {γ : Type} {x : Except ε α} {f : α → Except ε β} {g : α → Except ε γ} {h : β → γ}
    (same : ∀ a, x = .ok a → g a = h <$> f a) : (x >>= g) = h <$> (x >>= f) := by
  cases x with
  | error fault => rfl
  | ok a => exact same a rfl

/-- Computations in step on each element of a list are in step on the list. -/
theorem mapM_eq_map {γ : Type} {xs : List α} {f : α → Except ε β} {g : α → Except ε γ} {h : β → γ}
    (same : ∀ x ∈ xs, g x = h <$> f x) : xs.mapM g = List.map h <$> xs.mapM f := by
  induction xs with
  | nil => rfl
  | cons x rest ih =>
    have others := ih fun other member => same other (List.mem_cons_of_mem _ member)
    simp only [List.mapM_cons, same x List.mem_cons_self, others, bind_map_left, map_bind, map_pure,
      List.map_cons]

theorem exists_of_mem_right {related : α → β → Prop} {xs : List α} {ys : List β} {y : β}
    (all : List.Forall₂ related xs ys) (member : y ∈ ys) : ∃ x ∈ xs, related x y := by
  induction all with
  | nil => contradiction
  | cons first _ ih =>
    rcases List.mem_cons.mp member with rfl | member
    · exact ⟨_, List.mem_cons_self, first⟩
    · obtain ⟨x, present, relation⟩ := ih member
      exact ⟨x, List.mem_cons_of_mem _ present, relation⟩

theorem exists_of_mem_left {related : α → β → Prop} {xs : List α} {ys : List β} {x : α}
    (all : List.Forall₂ related xs ys) (member : x ∈ xs) : ∃ y ∈ ys, related x y :=
  exists_of_mem_right all.flip member

/-- The result has a property, or there is none for a reason among those allowed. -/
def Answers (allowed : ε → Prop) (property : α → Prop) : Except ε α → Prop
  | .ok a => property a
  | .error fault => allowed fault

namespace Answers

variable {allowed : ε → Prop}

theorem bind {property : α → Prop} {next : β → Prop} {x : Except ε α} {f : α → Except ε β}
    (first : Answers allowed property x) (rest : ∀ a, property a → Answers allowed next (f a)) :
    Answers allowed next (x >>= f) := by
  cases x with
  | ok a => exact rest a first
  | error fault => exact first

/-- A fold keeps an invariant that speaks of the elements taken so far. -/
theorem foldlM {state : Type} {f : state → α → Except ε state} {xs : List α}
    (invariant : List α → state → Prop)
    (step : ∀ before x after s, xs = before ++ x :: after → invariant before s →
      Answers allowed (invariant (before ++ [x])) (f s x))
    {s : state} (start : invariant [] s) : Answers allowed (invariant xs) (xs.foldlM f s) := by
  have onward (before after : List α) (s : state) (place : xs = before ++ after)
      (holds : invariant before s) : Answers allowed (invariant xs) (after.foldlM f s) := by
    induction after generalizing before s with
    | nil =>
      rw [List.append_nil] at place
      exact place ▸ holds
    | cons x after ih =>
      rw [List.foldlM_cons]
      refine (step before x after s place holds).bind fun next kept => ?_
      exact ih (before ++ [x]) next (by rw [place, List.append_cons]) kept
  exact onward [] xs s rfl start

end Answers

/-- The computation has a result, with a property, if a condition holds, and is refused for one reason
otherwise. -/
def Hinges (refusal : ε) (condition : Prop) (property : α → Prop) : Except ε α → Prop
  | .ok a => condition ∧ property a
  | .error fault => ¬condition ∧ fault = refusal

namespace Hinges

variable {refusal : ε} {condition : Prop} {property : α → Prop} {x : Except ε α}

theorem of_eq_ok {a : α} (result : x = .ok a) (holds : property a) :
    Hinges refusal True property x := by
  rw [result]
  exact ⟨trivial, holds⟩

theorem of_iff {other : Prop} (given : Hinges refusal condition property x)
    (same : condition ↔ other) : Hinges refusal other property x := by
  rwa [← propext same]

/-- What is known of a result may be forgotten. -/
theorem forget (given : Hinges refusal condition property x) :
    Hinges refusal condition (fun _ => True) x := by
  cases x with
  | ok a => exact ⟨given.1, trivial⟩
  | error fault => exact given

theorem bind {rest : Prop} {next : β → Prop} {f : α → Except ε β}
    (first : Hinges refusal condition property x)
    (onward : ∀ a, property a → Hinges refusal rest next (f a)) :
    Hinges refusal (condition ∧ rest) next (x >>= f) := by
  cases x with
  | error fault => exact ⟨fun both => first.1 both.1, first.2⟩
  | ok a =>
    have second := onward a first.2
    change Hinges refusal (condition ∧ rest) next (f a)
    cases result : f a with
    | ok b =>
      rw [result] at second
      exact ⟨⟨first.1, second.1⟩, second.2⟩
    | error fault =>
      rw [result] at second
      exact ⟨fun both => second.1 both.2, second.2⟩

/-- A computation that goes on without refusals hinges on its beginning alone. -/
theorem followed {next : β → Prop} {f : α → Except ε β}
    (first : Hinges refusal condition property x)
    (onward : ∀ a, property a → ∃ b, f a = .ok b ∧ next b) :
    Hinges refusal condition next (x >>= f) := by
  refine (first.bind fun a holds => ?_).of_iff (iff_of_eq (and_true condition))
  obtain ⟨b, result, property⟩ := onward a holds
  exact of_eq_ok result property

/-- What goes on from a result that is there hinges on the rest alone. -/
theorem after {a : α} {next : β → Prop} {f : α → Except ε β} (result : x = .ok a)
    (rest : Hinges refusal condition next (f a)) : Hinges refusal condition next (x >>= f) := by
  rw [result]
  exact rest

/-- A list is taken through exactly if the conditions of all its elements hold. -/
theorem mapM {conditions : α → Prop} {next : β → Prop} {f : α → Except ε β} {xs : List α}
    (each : ∀ x ∈ xs, Hinges refusal (conditions x) next (f x)) :
    Hinges refusal (∀ x ∈ xs, conditions x) (fun ys => ∀ y ∈ ys, next y) (xs.mapM f) := by
  induction xs with
  | nil => exact ⟨by simp, by simp⟩
  | cons x rest ih =>
    have others := ih fun other member => each other (List.mem_cons_of_mem _ member)
    rw [List.mapM_cons]
    refine of_iff ((each x List.mem_cons_self).bind fun y hy =>
      others.bind fun ys hys => of_eq_ok rfl ?_) ?_
    · simpa using ⟨hy, hys⟩
    · simp

theorem exists_eq_ok (given : Hinges refusal condition property x) (holds : condition) :
    ∃ a, x = .ok a ∧ property a := by
  cases x with
  | ok a => exact ⟨a, rfl, given.2⟩
  | error fault => exact absurd holds given.1

theorem eq_error (given : Hinges refusal condition property x) (fails : ¬condition) :
    x = .error refusal := by
  cases x with
  | ok a => exact absurd given.1 fails
  | error fault => rw [given.2]

end Hinges

/-- The computation has a result, with a property. -/
def Gives (property : α → Prop) (x : Except ε α) : Prop := ∃ a, x = .ok a ∧ property a

namespace Gives

variable {property : α → Prop}

@[simp]
theorem ok_iff {a : α} : Gives property (.ok a : Except ε α) ↔ property a := by simp [Gives]

@[simp]
theorem error_iff {fault : ε} : Gives property (.error fault : Except ε α) ↔ False := by simp [Gives]

theorem bind_iff {x : Except ε β} {f : β → Except ε α} :
    Gives property (x >>= f) ↔ Gives (fun b => Gives property (f b)) x := by
  cases x <;> simp [bind, Except.bind]

theorem map_iff {x : Except ε β} {f : β → α} :
    Gives property (x.map f) ↔ Gives (fun b => property (f b)) x := by
  cases x <;> simp [Except.map]

theorem mapError_iff {x : Except ε α} {f : ε → δ} : Gives property (x.mapError f) ↔ Gives property x := by
  cases x <;> simp [Except.mapError]

theorem congr {other : α → Prop} {x : Except ε α} (same : ∀ a, x = .ok a → (property a ↔ other a)) :
    Gives property x ↔ Gives other x :=
  exists_congr fun a => and_congr_right (same a)

theorem and_iff {condition : Prop} {x : Except ε α} :
    Gives (fun a => condition ∧ property a) x ↔ condition ∧ Gives property x := by
  cases x <;> simp

end Gives

/-- The computation has a result, with a property, exactly if a condition holds. -/
def Decides (condition : Prop) (property : α → Prop) : Except ε α → Prop
  | .ok a => condition ∧ property a
  | .error _ => ¬condition

namespace Decides

variable {condition : Prop} {property : α → Prop} {x : Except ε α}

theorem of_iff {other : Prop} (given : Decides condition property x) (same : condition ↔ other) :
    Decides other property x := by
  rwa [← propext same]

theorem bind {rest : Prop} {next : β → Prop} {f : α → Except ε β}
    (first : Decides condition property x)
    (onward : ∀ a, condition → property a → Decides rest next (f a)) :
    Decides (condition ∧ rest) next (x >>= f) := by
  cases x with
  | error fault => exact fun both => first both.1
  | ok a =>
    obtain ⟨holds, given⟩ := first
    exact (onward a holds given).of_iff (and_iff_right holds).symm

/-- A fold has a result exactly if a condition on all its elements holds, which can be judged one element
after the other; an invariant speaks of the elements taken so far. -/
theorem foldlM {state : Type} {f : state → α → Except ε state} {xs : List α}
    (condition : List α → Prop) (invariant : List α → state → Prop)
    (onward : ∀ before x, condition (before ++ [x]) → condition before)
    (step : ∀ before x s, condition before → invariant before s →
      Decides (condition (before ++ [x])) (invariant (before ++ [x])) (f s x))
    {s : state} (holds : condition []) (start : invariant [] s) :
    Decides (condition xs) (invariant xs) (xs.foldlM f s) := by
  induction xs using List.reverseRecOn with
  | nil => exact ⟨holds, start⟩
  | append_singleton rest x ih =>
    rw [List.foldlM_append]
    refine (ih.bind fun s earlier kept => ?_).of_iff (and_iff_right_of_imp (onward rest x))
    rw [List.foldlM_cons]
    simpa only [List.foldlM_nil, bind_pure] using step rest x s earlier kept

theorem eq_ok_iff {x : Except ε Unit} {property : Unit → Prop} (given : Decides condition property x) :
    x = .ok () ↔ condition := by
  cases x with
  | ok => exact iff_of_true rfl given.1
  | error fault => exact iff_of_false nofun given

end Decides

end Montage
