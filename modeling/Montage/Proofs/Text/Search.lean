import Montage.Text.Blank
import Montage.Text.Letter
import Montage.Text.Search
import Mathlib.Data.List.Forall2
import Mathlib.Data.List.TakeWhile

/-! # What a search finds

A search goes on over what holds no beginning of what is searched for. A run of characters goes on up to the
first other one. A word may be found in either case.
-/

namespace Montage.Text

variable {α : Type} {start s rest skipped part gap word : List Char} {isPart : Char → Bool}

attribute [local simp] afterStart? afterWord? findFirst?

/-- A text does not go on with a character of a class. -/
def StopsAt (isPart : Char → Bool) (rest : List Char) : Prop := ∀ c ∈ rest.head?, isPart c = false

theorem stopsAt_nil : StopsAt isPart [] := nofun

theorem stopsAt_cons {c : Char} : StopsAt isPart (c :: rest) ↔ isPart c = false := by
  simp [StopsAt]

theorem afterStart?_eq_some_iff : afterStart? start s = some rest ↔ s = start ++ rest := by
  induction start generalizing s with
  | nil => simp [eq_comm]
  | cons a start ih =>
    cases s with
    | nil => simp
    | cons c s =>
      rw [afterStart?, List.cons_append, List.cons.injEq]
      split
      · next same => rw [ih, and_iff_right same.symm]
      · next other => exact iff_of_false (Option.some_ne_none _).symm fun both => other both.1.symm

/-- A word is found where each of its letters has a form. -/
theorem afterWord?_eq_some_iff : afterWord? word s = some rest ↔
    ∃ form, s = form ++ rest ∧ List.Forall₂ (fun letter c => isFormOf letter c = true) word form := by
  induction word generalizing s with
  | nil => simp
  | cons letter word ih =>
    cases s with
    | nil => simp
    | cons c s =>
      rw [afterWord?]
      split
      · next here =>
        rw [ih]
        constructor
        · rintro ⟨form, rfl, forms⟩
          exact ⟨c :: form, rfl, .cons here forms⟩
        · rintro ⟨_, split, forms⟩
          cases forms with
          | cons first forms =>
            obtain ⟨rfl, rfl⟩ := List.cons.inj split
            exact ⟨_, rfl, forms⟩
      · next other =>
        apply iff_of_false nofun
        rintro ⟨_, split, forms⟩
        cases forms with
        | cons first forms =>
          obtain ⟨rfl, -⟩ := List.cons.inj split
          exact other first

theorem afterWord?_of_toLower {word form : List Char} (written : form.map Char.toLower = word) (rest : List Char) :
    afterWord? word (form ++ rest) = some rest := by
  subst written
  induction form with
  | nil => rfl
  | cons c form ih =>
    rw [List.map_cons, List.cons_append, afterWord?, if_pos, ih]
    simp [isFormOf]

/-- Where a word was found, each of its characters has a form at its own place. -/
theorem getElem?_of_afterWord? {word : List Char} {letter : Char} {k : Nat} (found : afterWord? word s = some rest)
    (there : word[k]? = some letter) : ∃ c, s[k]? = some c ∧ isFormOf letter c = true := by
  induction word generalizing s k with
  | nil => simp at there
  | cons first word ih =>
    cases s with
    | nil => contradiction
    | cons c s =>
      rw [afterWord?] at found
      split at found
      · next form =>
        cases k with
        | zero =>
          rw [List.getElem?_cons_zero, Option.some.injEq] at there
          exact ⟨c, rfl, there ▸ form⟩
        | succ k =>
          rw [List.getElem?_cons_succ] at there ⊢
          exact ih found there
      · contradiction

/-- A word does not go on over a character that is no form of its letters, so what comes behind it is left as it is. -/
theorem afterWord?_append_stop {stop : Char} (foreign : ∀ letter ∈ word, isFormOf letter stop = false)
    (front rest : List Char) :
    afterWord? word (front ++ stop :: rest) = (afterWord? word (front ++ [stop])).map (· ++ rest) := by
  induction word generalizing front with
  | nil => simp
  | cons letter word ih =>
    obtain ⟨here, later⟩ := List.forall_mem_cons.mp foreign
    cases front with
    | nil => simp [here]
    | cons c front =>
      rw [List.cons_append, List.cons_append, afterWord?, afterWord?, ih later]
      split
      · rfl
      · rfl

theorem takeWhile_append (all : ∀ c ∈ part, isPart c = true) (stops : StopsAt isPart rest) :
    (part ++ rest).takeWhile isPart = part := by
  rw [List.takeWhile_append_of_pos all]
  cases rest with
  | nil => exact List.append_nil part
  | cons c rest =>
    rw [List.takeWhile_cons_of_neg (Bool.not_eq_true _ ▸ stopsAt_cons.mp stops), List.append_nil]

/-- A run that stops in front of a text is not made longer by it. -/
theorem takeWhile_append_of_stopsAt (stops : StopsAt isPart rest) (s : List Char) :
    (s ++ rest).takeWhile isPart = s.takeWhile isPart := by
  induction s with
  | nil =>
    have none : ([] ++ rest).takeWhile isPart = [] := takeWhile_append (List.forall_mem_nil _) stops
    rw [none, List.takeWhile_nil]
  | cons c s ih => rw [List.cons_append, List.takeWhile_cons, List.takeWhile_cons, ih]

theorem dropWhile_append (all : ∀ c ∈ part, isPart c = true) (stops : StopsAt isPart rest) :
    (part ++ rest).dropWhile isPart = rest := by
  have whole := List.takeWhile_append_dropWhile (p := isPart) (l := part ++ rest)
  rw [takeWhile_append all stops] at whole
  exact List.append_cancel_left whole

theorem run?_cons {c : Char} (here : isPart c = true) (s : List Char) :
    run? isPart (c :: s) = some (c :: s.takeWhile isPart) := by
  rw [run?, List.takeWhile_cons_of_pos here]

theorem run?_append (some : part ≠ []) (all : ∀ c ∈ part, isPart c = true) (stops : StopsAt isPart rest) :
    run? isPart (part ++ rest) = .some part := by
  rw [run?, takeWhile_append all stops]
  cases part with
  | nil => contradiction
  | cons => rfl

theorem run?_eq_some {isPart : Char → Bool} {s found : List Char} (runs : run? isPart s = some found) :
    found ≠ [] ∧ ∀ c ∈ found, isPart c = true := by
  unfold run? at runs
  split at runs
  · cases runs
  · next some =>
    cases runs
    exact ⟨some, fun c member => List.mem_takeWhile_imp member⟩

theorem prefix_of_run? {found : List Char} (runs : run? isPart s = some found) : found <+: s := by
  unfold run? at runs
  split at runs
  · cases runs
  · cases runs
    exact List.takeWhile_prefix isPart

theorem run?_append_of_stopsAt (stops : StopsAt isPart rest) (s : List Char) :
    run? isPart (s ++ rest) = run? isPart s := by
  rw [run?, run?, takeWhile_append_of_stopsAt stops]

theorem dropBlank_append (blank : ∀ c ∈ gap, isBlank c = true) (stops : StopsAt isBlank rest) :
    dropBlank (gap ++ rest) = rest := dropWhile_append blank stops

/-- A search goes on behind a text if it finds nothing at any place of it. -/
theorem findFirst?_append {read? : List Char → Option α}
    (apart : ∀ before here, skipped = before ++ here → here ≠ [] → read? (here ++ rest) = none) :
    findFirst? read? (skipped ++ rest) = findFirst? read? rest := by
  induction skipped with
  | nil => rfl
  | cons c skipped ih =>
    have here := apart [] (c :: skipped) rfl (List.cons_ne_nil _ _)
    rw [List.cons_append] at here ⊢
    rw [findFirst?, here]
    exact ih fun before there split => apart (c :: before) there (congrArg (c :: ·) split)

/-- A search finds in a text what it finds in its front, if it finds nothing behind it and reads no further. -/
theorem findFirst?_append_front {read? : List Char → Option α}
    (same : ∀ before here, skipped = before ++ here → here ≠ [] → read? (here ++ rest) = read? here)
    (none : findFirst? read? rest = read? []) : findFirst? read? (skipped ++ rest) = findFirst? read? skipped := by
  induction skipped with
  | nil => exact none
  | cons c skipped ih =>
    have here := same [] (c :: skipped) rfl (List.cons_ne_nil _ _)
    have later := ih fun before there split => same (c :: before) there (congrArg (c :: ·) split)
    rw [List.cons_append] at here ⊢
    rw [findFirst?, findFirst?, here, later]

/-- A search ends at a place where something is found. -/
theorem findFirst?_of_eq_some {read? : List Char → Option α} {found : α} (here : read? s = some found) :
    findFirst? read? s = some found := by
  cases s with
  | nil => exact here
  | cons c s => rw [findFirst?, here]

/-- What is found is found at some place. -/
theorem exists_of_findFirst? {read? : List Char → Option α} {found : α} (finds : findFirst? read? s = some found) :
    ∃ rest, rest <:+ s ∧ read? rest = some found := by
  induction s with
  | nil => exact ⟨[], List.suffix_rfl, finds⟩
  | cons c s ih =>
    rw [findFirst?] at finds
    split at finds
    · next here => exact ⟨c :: s, List.suffix_rfl, here.trans finds⟩
    · obtain ⟨rest, behind, read⟩ := ih finds
      exact ⟨rest, behind.trans (List.suffix_cons c s), read⟩

/-- What finds something wherever another reader does finds something in the same texts. -/
theorem isSome_findFirst? {α β : Type} {first? : List Char → Option α} {second? : List Char → Option β}
    (finds : ∀ s, (first? s).isSome = true → (second? s).isSome = true) {s : List Char}
    (found : (findFirst? first? s).isSome = true) : (findFirst? second? s).isSome = true := by
  induction s with
  | nil => exact finds [] found
  | cons c rest ih =>
    rw [findFirst?] at found ⊢
    cases there : second? (c :: rest) with
    | some _ => rfl
    | none =>
      cases here : first? (c :: rest) with
      | some _ => simpa [there] using finds (c :: rest) (by rw [here]; rfl)
      | none =>
        rw [here] at found
        exact ih found

/-- Where a reader finds something behind another one, that one finds something. -/
theorem isSome_findFirst?_of_bind {β : Type} {read? : List Char → Option α} (more? : α → Option β)
    (found : (findFirst? (fun s => (read? s).bind more?) s).isSome) : (findFirst? read? s).isSome := by
  induction s with
  | nil =>
    obtain ⟨b, here⟩ := Option.isSome_iff_exists.mp found
    obtain ⟨a, first, -⟩ := Option.bind_eq_some_iff.mp here
    exact Option.isSome_iff_exists.mpr ⟨a, first⟩
  | cons c s ih =>
    rw [findFirst?] at found ⊢
    cases here : read? (c :: s) with
    | some a => rfl
    | none =>
      rw [here] at found
      exact ih found

end Montage.Text
