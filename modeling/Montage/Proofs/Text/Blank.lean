import Mathlib.Data.List.DropRight
import Montage.Proofs.Text.Search

/-! # What trimming leaves

Trimming takes the blanks before and behind a text away and keeps everything between them.
-/

namespace Montage.Text

variable {s rest part gap : List Char} {drop : Char → Bool}

theorem strip_eq (s : List Char) : strip s = (dropBlank s).rdropWhile isBlank := rfl

theorem strip_infix (s : List Char) : strip s <:+: s :=
  (List.rdropWhile_prefix isBlank (dropBlank s)).isInfix.trans (List.dropWhile_suffix isBlank).isInfix

/-- What is left begins with what follows the first blanks. -/
theorem head?_strip (s : List Char) : (strip s).head? = (dropBlank s).head? := by
  cases tail : dropBlank s with
  | nil => rw [strip_eq, tail]; rfl
  | cons c rest =>
    have solid : isBlank c = false := by
      have first := List.head?_dropWhile_not isBlank s
      rw [show s.dropWhile isBlank = c :: rest from tail] at first
      exact first
    have front := List.rdropWhile_prefix isBlank (c :: rest)
    rw [strip_eq, tail]
    cases kept : (c :: rest).rdropWhile isBlank with
    | nil =>
      have blank := List.rdropWhile_eq_nil_iff.mp kept c List.mem_cons_self
      rw [solid] at blank
      contradiction
    | cons d kept' =>
      rw [kept] at front
      rw [(List.cons_prefix_cons.mp front).1]
      rfl

/-- Nothing is taken away in front of an end without blanks but what is blank in front of everything. -/
theorem strip_append (filled : rest ≠ []) (solid : ∀ c ∈ rest, isBlank c = false) (s : List Char) :
    strip (s ++ rest) = dropBlank s ++ rest := by
  have stays : rest.dropWhile isBlank = rest := by
    cases rest with
    | nil => contradiction
    | cons c rest => rw [List.dropWhile_cons_of_neg (by simp [solid c List.mem_cons_self])]
  have front : dropBlank (s ++ rest) = dropBlank s ++ rest := by
    unfold dropBlank
    rw [List.dropWhile_append, stays]
    split
    · next empty => rw [List.isEmpty_iff.mp empty, List.nil_append]
    · rfl
  rw [strip_eq, front, List.rdropWhile_eq_self_iff]
  intro some
  rw [List.getLast_append_of_ne_nil _ filled, solid _ (List.getLast_mem filled)]
  exact Bool.false_ne_true

/-- What is trimmed of characters around it that it does not hold itself. -/
theorem stripWhere_append {front back : List Char} (before : ∀ c ∈ front, drop c = true)
    (behind : ∀ c ∈ back, drop c = true) (solid : ∀ c ∈ part, drop c = false) :
    stripWhere drop (front ++ (part ++ back)) = part := by
  unfold stripWhere
  rw [List.dropWhile_append_of_pos before]
  have turned : ∀ c ∈ back.reverse, drop c = true := by simpa using behind
  cases part with
  | nil => rw [List.nil_append, List.dropWhile_eq_nil_iff.mpr behind]; rfl
  | cons c part =>
    have first : drop c = false := solid c List.mem_cons_self
    rw [List.cons_append, List.dropWhile_cons_of_neg (Bool.not_eq_true _ ▸ first), ← List.cons_append,
      List.reverse_append, List.dropWhile_append_of_pos turned]
    have last : StopsAt drop (c :: part).reverse := by
      intro d member
      exact solid d (List.mem_reverse.mp (List.mem_of_mem_head? member))
    have stays : ([] ++ (c :: part).reverse).dropWhile drop = (c :: part).reverse :=
      dropWhile_append (List.forall_mem_nil _) last
    rw [List.nil_append] at stays
    rw [stays, List.reverse_reverse]

/-- Only blanks are taken away. -/
theorem exists_of_strip (s : List Char) :
    ∃ front back, (∀ c ∈ front ++ back, isBlank c = true) ∧ s = front ++ (strip s ++ back) := by
  have before := List.takeWhile_append_dropWhile (p := isBlank) (l := s)
  have behind := List.takeWhile_append_dropWhile (p := isBlank) (l := (dropBlank s).reverse)
  refine ⟨s.takeWhile isBlank, ((dropBlank s).reverse.takeWhile isBlank).reverse, ?_, ?_⟩
  · rw [List.forall_mem_append]
    exact ⟨fun c member => List.mem_takeWhile_imp member,
      fun c member => List.mem_takeWhile_imp (List.mem_reverse.mp member)⟩
  · have whole : strip s ++ ((dropBlank s).reverse.takeWhile isBlank).reverse = dropBlank s := by
      rw [strip_eq, List.rdropWhile, ← List.reverse_append, behind, List.reverse_reverse]
    rw [whole]
    exact before.symm

/-- A text without blanks around it. -/
structure IsTrimmed (s : List Char) : Prop where
  first : ∀ c ∈ s.head?, isBlank c = false
  last : ∀ c ∈ s.getLast?, isBlank c = false

theorem IsTrimmed.strip_eq (trimmed : IsTrimmed s) : strip s = s := by
  have front : dropBlank ([] ++ s) = s := dropBlank_append (List.forall_mem_nil _) trimmed.first
  rw [List.nil_append] at front
  rw [Text.strip_eq, front, List.rdropWhile_eq_self_iff]
  intro some
  rw [trimmed.last _ (List.getLast?_eq_some_getLast some)]
  exact Bool.false_ne_true

/-- A text without blanks around it is what trimming leaves as it is. -/
theorem isTrimmed_iff : IsTrimmed s ↔ strip s = s := by
  refine ⟨IsTrimmed.strip_eq, fun same => ⟨?_, ?_⟩⟩
  · have first := List.head?_dropWhile_not isBlank s
    intro c member
    rw [← same, head?_strip] at member
    unfold dropBlank at member
    rw [member] at first
    exact first
  · intro c member
    rw [← same, strip_eq] at member
    obtain ⟨some, rfl⟩ := List.mem_getLast?_eq_getLast member
    simpa using List.rdropWhile_last_not isBlank _ some

instance : Decidable (IsTrimmed s) := decidable_of_iff _ isTrimmed_iff.symm

/-- Blanks behind a text are trimmed with it. -/
theorem strip_append_blank (blank : ∀ c ∈ gap, isBlank c = true) (s : List Char) : strip (s ++ gap) = strip s := by
  have turned : ∀ c ∈ gap.reverse, isBlank c = true := by simpa using blank
  have cut (s : List Char) : (s ++ gap).rdropWhile isBlank = s.rdropWhile isBlank := by
    rw [List.rdropWhile, List.reverse_append, List.dropWhile_append_of_pos turned, ← List.rdropWhile]
  rw [strip_eq, strip_eq, dropBlank, dropBlank, List.dropWhile_append]
  split
  · next empty =>
    rw [List.isEmpty_iff.mp empty, List.dropWhile_eq_nil_iff.mpr blank]
  · rw [cut]

end Montage.Text
