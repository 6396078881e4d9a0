import Montage.Proofs.Graph.Tree

/-! # Unfolding programs

A program that is unfolded from a pad becomes a term over the streams of the engine: the pad is
replaced by the statement that produces it, and the same is done with what that statement reads. In a
tree, where a pad is produced once, every statement holds of the terms of its pads.
-/

namespace Montage.Graph

/-- What a pad shows: a stream of the engine, or the result of a chain of filters. -/
inductive Picture where
  | stream (selector : String)
  | filtered (chain : String) (inputs : List Picture)

/-- What a pad shows after statements, the latest of which comes first. -/
def unfoldAfter : List Statement → String → Picture
  | [], pad => .stream pad
  | s :: earlier, pad =>
    if s.output = pad then .filtered s.chain (s.inputs.map (unfoldAfter earlier))
    else unfoldAfter earlier pad

/-- What a pad of a program shows. -/
def Program.picture (p : Program) (pad : String) : Picture := unfoldAfter p.statements.reverse pad

/-- What a program shows, unfolded from its output. -/
def Program.unfold (p : Program) : Option Picture := p.outputPad.map p.picture

/-- Later statements leave a pad that they do not produce as it is. -/
theorem unfoldAfter_append {later earlier : List Statement} {pad : String}
    (other : pad ∉ later.map Statement.output) :
    unfoldAfter (later ++ earlier) pad = unfoldAfter earlier pad := by
  induction later with
  | nil => rfl
  | cons s rest ih =>
    simp only [List.map_cons, List.mem_cons, not_or] at other
    rw [List.cons_append, unfoldAfter, if_neg (Ne.symm other.1), ih other.2]

namespace Program.IsTree

variable {p : Program} {streams : List String}

/-- A stream shows itself. -/
theorem picture_stream (tree : p.IsTree streams) {stream : String}
    (selector : isSelector stream = true) : p.picture stream = .stream stream := by
  have other : stream ∉ p.statements.reverse.map Statement.output := by
    intro produced
    rw [List.map_reverse, List.mem_reverse] at produced
    have plain := tree.produced_plain stream produced
    rw [selector] at plain
    contradiction
  have untouched : unfoldAfter (p.statements.reverse ++ []) stream = unfoldAfter [] stream :=
    unfoldAfter_append other
  rwa [List.append_nil] at untouched

/-- A pad shows what its statement makes of the pads that it reads. -/
theorem picture_output (tree : p.IsTree streams) {s : Statement} (member : s ∈ p.statements) :
    p.picture s.output = .filtered s.chain (s.inputs.map p.picture) := by
  obtain ⟨before, after, place⟩ := List.append_of_mem member
  have distinct := tree.produced_once
  rw [producedPads, place, List.map_append, List.map_cons] at distinct
  obtain ⟨_, tail, apart⟩ := List.nodup_append.mp distinct
  have order : p.statements.reverse = after.reverse ++ s :: before.reverse := by simp [place]
  have fresh : s.output ∉ after.reverse.map Statement.output := by
    rw [List.map_reverse, List.mem_reverse]
    exact (List.nodup_cons.mp tail).1
  have inner (pad : String) (read : pad ∈ s.inputs) :
      unfoldAfter before.reverse pad = p.picture pad := by
    have other : pad ∉ (after.reverse ++ [s]).map Statement.output := by
      intro produced
      have later : pad ∈ (s :: after).map Statement.output := by
        simpa [or_comm] using produced
      cases selector : isSelector pad with
      | true =>
        have plain := tree.produced_plain pad (by
          rw [producedPads, place, List.map_append]
          exact List.mem_append_right _ later)
        rw [selector] at plain
        contradiction
      | false =>
        have earlier := tree.read_later before s after place pad read selector
        exact apart pad earlier pad later rfl
    rw [picture, order, List.append_cons, unfoldAfter_append other]
  rw [picture, order, unfoldAfter_append fresh, unfoldAfter, if_pos rfl, List.map_congr_left inner]

end Program.IsTree

end Montage.Graph
