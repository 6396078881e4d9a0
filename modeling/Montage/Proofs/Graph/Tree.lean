import Mathlib.Data.List.Induction
import Mathlib.Data.List.Nodup
import Montage.Graph.Program

/-! # Programs that are trees

A program reads as a tree when every pad is produced once and read once, later, and every stream of
the engine is read once. Generated programs are shown to be trees by following what is open: a
statement takes what it reads out of the open pads and streams and puts its own pad there. Nothing
else is needed but that the names in play are distinct.
-/

namespace Montage.Graph

open scoped List

theorem Program.addAll_eq (p : Program) (statements : List Statement) :
    p.addAll statements = ⟨p.statements ++ statements,
      (statements.getLast?.map Statement.output).or p.outputPad⟩ := by
  induction statements using List.reverseRecOn with
  | nil => simp [Program.addAll]
  | append_singleton rest s ih =>
    have step : p.addAll (rest ++ [s]) = (p.addAll rest).add s := by
      simp only [Program.addAll, List.foldl_append, List.foldl_cons, List.foldl_nil]
    simp [step, ih, Program.add]

/-- The pads and streams that the statements of a program read, in order. -/
def Program.readPads (p : Program) : List String := p.statements.flatMap Statement.inputs

/-- The shape that the checker asks for, with the streams of the engine that are read. -/
structure Program.IsTree (p : Program) (streams : List String) : Prop where
  produced_once : p.producedPads.Nodup
  produced_plain : ∀ pad ∈ p.producedPads, isSelector pad = false
  read_later : ∀ before s after, p.statements = before ++ s :: after →
    ∀ pad ∈ s.inputs, isSelector pad = false → pad ∈ before.map Statement.output
  read_once : ∀ pad ∈ p.producedPads, p.outputPad ≠ some pad → p.readPads.count pad = 1
  output_last : ∃ last, p.statements.getLast? = some last ∧ p.outputPad = some last.output
  stream_once : ∀ stream ∈ streams, p.readPads.count stream = 1
  stream_known : ∀ pad ∈ p.readPads, isSelector pad = true → pad ∈ streams

/-- Statements lead from what is open before them to what is open after them. -/
def Wired : List String → List Statement → List String → Prop
  | opened, [], left => opened ~ left
  | opened, s :: rest, left =>
    ∃ others, opened ~ s.inputs ++ others ∧ Wired (s.output :: others) rest left

namespace Wired

variable {opened middle left : List String} {first second : List Statement}

theorem of_perm {other : List String} (same : other ~ opened) (wired : Wired opened first left) :
    Wired other first left := by
  cases first with
  | nil => exact same.trans wired
  | cons s rest =>
    obtain ⟨others, split, tail⟩ := wired
    exact ⟨others, same.trans split, tail⟩

theorem to_perm {other : List String} (wired : Wired opened first left) (same : left ~ other) :
    Wired opened first other := by
  induction first generalizing opened with
  | nil => exact wired.trans same
  | cons s rest ih =>
    obtain ⟨others, split, tail⟩ := wired
    exact ⟨others, split, ih tail⟩

theorem append (here : Wired opened first middle) (there : Wired middle second left) :
    Wired opened (first ++ second) left := by
  induction first generalizing opened with
  | nil => exact there.of_perm here
  | cons s rest ih =>
    obtain ⟨others, split, tail⟩ := here
    exact ⟨others, split, ih tail⟩

/-- What statements do not touch stays open. -/
theorem frame (wired : Wired opened first left) (more : List String) :
    Wired (opened ++ more) first (left ++ more) := by
  induction first generalizing opened with
  | nil => exact List.Perm.append_right more wired
  | cons s rest ih =>
    obtain ⟨others, split, tail⟩ := wired
    refine ⟨others ++ more, ?_, ih tail⟩
    simpa only [List.append_assoc] using split.append_right more

/-- A single statement that reads all that is open. -/
theorem single (s : Statement) : Wired s.inputs [s] [s.output] :=
  ⟨[], by rw [List.append_nil], List.Perm.refl _⟩

/-- Statements that share nothing. -/
theorem beside {here there : List String} (wired : Wired opened first left)
    (other : Wired here second there) : Wired (opened ++ here) (first ++ second) (left ++ there) := by
  refine (wired.frame here).append ?_
  exact ((other.frame left).of_perm List.perm_append_comm).to_perm List.perm_append_comm

/-- Statements of which each reads only what is open at first. -/
theorem each (statements : List Statement) :
    Wired (statements.flatMap Statement.inputs) statements (statements.map Statement.output) := by
  induction statements with
  | nil => exact List.Perm.refl []
  | cons s rest ih => exact (single s).beside ih

/-- Groups of statements of which each builds one pad out of nothing. -/
theorem groups {α : Type} {items : List α} {build : α → List Statement} {pad : α → String}
    (group : ∀ item ∈ items, Wired [] (build item) [pad item]) :
    Wired [] (items.flatMap build) (items.map pad) := by
  induction items with
  | nil => exact List.Perm.refl []
  | cons item rest ih =>
    exact (group item List.mem_cons_self).beside
      (ih fun other member => group other (List.mem_cons_of_mem _ member))

/-- Statements read what was open or produced, except what they leave open. -/
theorem balance (wired : Wired opened first left) :
    first.flatMap Statement.inputs ++ left ~ opened ++ first.map Statement.output := by
  induction first generalizing opened with
  | nil => simpa using List.Perm.symm wired
  | cons s rest ih =>
    obtain ⟨others, split, tail⟩ := wired
    rw [List.flatMap_cons, List.map_cons, List.append_assoc]
    calc s.inputs ++ (rest.flatMap Statement.inputs ++ left)
      _ ~ s.inputs ++ (s.output :: others ++ rest.map Statement.output) := (ih tail).append_left _
      _ ~ s.inputs ++ (others ++ s.output :: rest.map Statement.output) :=
          List.perm_middle.symm.append_left _
      _ = s.inputs ++ others ++ s.output :: rest.map Statement.output := by rw [List.append_assoc]
      _ ~ opened ++ s.output :: rest.map Statement.output := split.symm.append_right _

/-- A statement reads only what was open at first or produced before it. -/
theorem mem_of_read (wired : Wired opened first left) {before after : List Statement}
    {s : Statement} (place : first = before ++ s :: after) {pad : String} (read : pad ∈ s.inputs) :
    pad ∈ opened ++ before.map Statement.output := by
  induction before generalizing opened first with
  | nil =>
    subst place
    obtain ⟨others, split, _⟩ := wired
    simpa using split.mem_iff.mpr (List.mem_append_left others read)
  | cons t rest ih =>
    subst place
    obtain ⟨others, split, tail⟩ := wired
    have found := ih tail rfl
    simp only [List.cons_append, List.mem_cons, List.mem_append, List.map_cons] at found ⊢
    rcases found with same | other | produced
    · exact .inr (.inl same)
    · exact .inl (split.mem_iff.mpr (List.mem_append_right _ other))
    · exact .inr (.inr produced)

end Wired

section Program

variable {p : Program} {streams : List String}

/-- Statements that lead from the streams to the output alone form a tree, if no two of the streams
and pads share a name and only the streams are named like streams. -/
theorem Wired.isTree {last : Statement} (wired : Wired streams p.statements [last.output])
    (ends : p.statements.getLast? = some last) (output : p.outputPad = some last.output)
    (distinct : (streams ++ p.producedPads).Nodup)
    (selectors : ∀ stream ∈ streams, isSelector stream = true)
    (pads : ∀ pad ∈ p.producedPads, isSelector pad = false) : p.IsTree streams := by
  have counted (pad : String) (present : pad ∈ streams ++ p.producedPads) (inner : pad ≠ last.output) :
      p.readPads.count pad = 1 := by
    have balance := wired.balance.count_eq pad
    rw [List.count_append, List.count_singleton, if_neg (by simpa using inner.symm)] at balance
    exact balance.trans (distinct.count.trans (if_pos present))
  have lastProduced : last.output ∈ p.producedPads :=
    List.mem_map_of_mem (List.mem_of_getLast? ends)
  refine ⟨(List.nodup_append.mp distinct).2.1, pads, ?_, ?_, ⟨last, ends, output⟩, ?_, ?_⟩
  · intro before s after place pad read plain
    rcases List.mem_append.mp (wired.mem_of_read place read) with stream | produced
    · rw [selectors pad stream] at plain
      contradiction
    · exact produced
  · intro pad produced inner
    refine counted pad (List.mem_append_right _ produced) ?_
    rintro rfl
    exact inner output
  · intro stream present
    refine counted stream (List.mem_append_left _ present) ?_
    rintro rfl
    exact (List.nodup_append.mp distinct).2.2 _ present _ lastProduced rfl
  · intro pad read selector
    obtain ⟨s, member, read⟩ := List.mem_flatMap.mp read
    obtain ⟨before, after, place⟩ := List.append_of_mem member
    rcases List.mem_append.mp (wired.mem_of_read place read) with stream | produced
    · exact stream
    · have plain := pads pad (by
        rw [Program.producedPads, place, List.map_append]
        exact List.mem_append_left _ produced)
      rw [selector] at plain
      contradiction

/-- A statement of a tree reads streams of the tree and pads of the program only. -/
theorem Program.IsTree.stream_or_pad (tree : p.IsTree streams) {s : Statement} {pad : String}
    (member : s ∈ p.statements) (read : pad ∈ s.inputs) : pad ∈ streams ∨ pad ∈ p.producedPads := by
  cases plain : isSelector pad with
  | true => exact .inl (tree.stream_known pad (List.mem_flatMap.mpr ⟨s, member, read⟩) plain)
  | false =>
    obtain ⟨before, after, place⟩ := List.append_of_mem member
    rw [Program.producedPads, place, List.map_append]
    exact .inr (List.mem_append_left _ (tree.read_later before s after place pad read plain))

/-- No pad of a tree is read twice. -/
theorem Program.IsTree.count_le_one (tree : p.IsTree streams) {pad : String}
    (plain : isSelector pad = false) : p.readPads.count pad ≤ 1 := by
  by_cases read : pad ∈ p.readPads
  · obtain ⟨s, member, read⟩ := List.mem_flatMap.mp read
    obtain ⟨before, after, place⟩ := List.append_of_mem member
    have produced := tree.read_later before s after place pad read plain
    refine Nat.le_of_eq (tree.read_once pad ?_ ?_)
    · rw [Program.producedPads, place, List.map_append]
      exact List.mem_append_left _ produced
    · intro output
      obtain ⟨last, ends, same⟩ := tree.output_last
      have later : last ∈ s :: after := by
        rw [place, List.getLast?_append_of_ne_nil _ (List.cons_ne_nil _ _)] at ends
        exact List.mem_of_getLast? ends
      have distinct := tree.produced_once
      rw [Program.producedPads, place, List.map_append] at distinct
      have apart := (List.nodup_append.mp distinct).2.2 pad produced last.output
        (List.mem_map_of_mem later)
      exact apart (Option.some.inj (output.symm.trans same))
  · rw [List.count_eq_zero_of_not_mem read]
    exact Nat.zero_le 1

end Program

end Montage.Graph
