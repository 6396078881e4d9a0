import Montage.Proofs.Graph.Tree
import Montage.Proofs.Result

/-! # The checker on trees

The checker keeps the pads produced and the pads read so far. On a tree every pad that a statement
reads is there and unread, so that a tree is refused only for the number of a stream that cannot be
read as an integer.
-/

namespace Montage.Graph

variable {p : Program} {streams : List String}

/-- The pads that the checker has noted after some statements and further reads. -/
structure Usage.Tracks (usage : Usage) (before : List Statement) (reads : List String) : Prop where
  produced : ∀ pad, pad ∈ usage.produced ↔ pad ∈ before.map Statement.output
  consumed : ∀ pad, pad ∈ usage.consumed ↔ isSelector pad = false ∧ pad ∈ reads

namespace Usage.Tracks

variable {usage : Usage} {before : List Statement} {reads : List String} {pad : String}

/-- A stream is read without being noted. -/
theorem read_stream (tracks : usage.Tracks before reads) (selector : isSelector pad = true) :
    usage.Tracks before (reads ++ [pad]) := by
  refine ⟨tracks.produced, fun other => (tracks.consumed other).trans ?_⟩
  simp only [List.mem_append, List.mem_singleton]
  constructor
  · exact fun ⟨plain, there⟩ => ⟨plain, .inl there⟩
  · rintro ⟨plain, there | rfl⟩
    · exact ⟨plain, there⟩
    · rw [selector] at plain
      contradiction

/-- Any other pad is noted as read. -/
theorem read_pad (tracks : usage.Tracks before reads) (plain : isSelector pad = false) :
    Usage.Tracks { usage with consumed := pad :: usage.consumed } before (reads ++ [pad]) := by
  refine ⟨tracks.produced, fun other => ?_⟩
  simp only [List.mem_cons, tracks.consumed, List.mem_append, List.not_mem_nil, or_false]
  constructor
  · rintro (rfl | ⟨other, there⟩)
    · exact ⟨plain, .inr rfl⟩
    · exact ⟨other, .inl there⟩
  · rintro ⟨other, there | same⟩
    · exact .inr ⟨other, there⟩
    · exact .inl same

/-- The pad that a statement produces is noted after those that it reads. -/
theorem produce (tracks : usage.Tracks before reads) (s : Statement) :
    Usage.Tracks { usage with produced := s.output :: usage.produced } (before ++ [s]) reads :=
  ⟨fun pad => by simp [tracks.produced, or_comm], tracks.consumed⟩

end Usage.Tracks

/-- A number of a stream that is refused as an integer. -/
def RefusedStream (streams : List String) (fault : Fault) : Prop :=
  ∃ stream ∈ streams, ∃ cause, readInteger (splitSelector stream).1 = .error cause ∧
    fault = .selector cause

/-- All streams belong to inputs that there are. -/
def Within (streams : List String) (inputs : Int) : Prop :=
  ∀ stream ∈ streams, ∀ input, readInteger (splitSelector stream).1 = .ok input → (input : Int) < inputs

/-- One more pad of a statement passes and is noted. -/
theorem Program.IsTree.readPad (tree : p.IsTree streams) {inputs : Int}
    (within : Within streams inputs) {number : Nat} {before after : List Statement} {s : Statement}
    (place : p.statements = before ++ s :: after) {taken rest : List String} {pad : String}
    (read : s.inputs = taken ++ pad :: rest) {usage : Usage}
    (tracks : usage.Tracks before (before.flatMap Statement.inputs ++ taken)) :
    Answers (RefusedStream streams)
      (Usage.Tracks · before (before.flatMap Statement.inputs ++ (taken ++ [pad])))
      (usage.readPad inputs number pad) := by
  have reads : p.readPads = (before.flatMap Statement.inputs ++ taken) ++
      pad :: (rest ++ after.flatMap Statement.inputs) := by
    simp [Program.readPads, place, read]
  rw [Usage.readPad]
  cases selector : isSelector pad with
  | true =>
    have known : pad ∈ streams := tree.stream_known pad (by simp [reads]) selector
    cases number : readInteger (splitSelector pad).1 with
    | error cause => exact ⟨pad, known, cause, number, rfl⟩
    | ok input =>
      have inside := within pad known input number
      simp only [↓reduceIte, if_neg (Int.not_le.mpr inside)]
      rw [← List.append_assoc]
      exact tracks.read_stream selector
  | false =>
    have produced : usage.produced.contains pad = true := by
      rw [List.contains_iff_mem, tracks.produced]
      exact tree.read_later before s after place pad (by simp [read]) selector
    have unread : usage.consumed.contains pad = false := by
      rw [← Bool.not_eq_true, List.contains_iff_mem, tracks.consumed]
      rintro ⟨_, earlier⟩
      have once := tree.count_le_one selector
      have twice := List.count_pos_iff.mpr earlier
      rw [reads, List.count_append, List.count_cons_self] at once
      omega
    simp only [produced, unread, Bool.not_true, Bool.false_eq_true, ↓reduceIte]
    rw [← List.append_assoc]
    exact tracks.read_pad selector

/-- One more statement passes and is noted. -/
theorem Program.IsTree.check (tree : p.IsTree streams) {inputs : Int}
    (within : Within streams inputs) {number : Nat} {before after : List Statement} {s : Statement}
    (place : p.statements = before ++ s :: after) {usage : Usage}
    (tracks : usage.Tracks before (before.flatMap Statement.inputs)) :
    Answers (RefusedStream streams)
      (Usage.Tracks · (before ++ [s]) ((before ++ [s]).flatMap Statement.inputs))
      (usage.check inputs (s, number)) := by
  have reading : Answers (RefusedStream streams)
      (Usage.Tracks · before (before.flatMap Statement.inputs ++ s.inputs))
      (s.inputs.foldlM (Usage.readPad inputs number) usage) := by
    refine Answers.foldlM (fun taken usage =>
      Usage.Tracks usage before (before.flatMap Statement.inputs ++ taken)) ?_ ?_
    · intro taken pad rest usage read tracks
      exact tree.readPad within place read tracks
    · simpa using tracks
  refine reading.bind fun usage tracks => ?_
  have fresh : usage.produced.contains s.output = false := by
    rw [← Bool.not_eq_true, List.contains_iff_mem, tracks.produced]
    intro earlier
    have distinct := tree.produced_once
    rw [Program.producedPads, place, List.map_append] at distinct
    exact (List.nodup_append.mp distinct).2.2 _ earlier _ List.mem_cons_self rfl
  simp only [fresh, Bool.false_eq_true, ↓reduceIte]
  rw [List.flatMap_append, List.flatMap_singleton]
  exact tracks.produce s

/-- The statements of a tree pass one after the other, unless the number of a stream is refused as an
integer. -/
theorem Program.IsTree.follow (tree : p.IsTree streams) {inputs : Int}
    (within : Within streams inputs) :
    Answers (RefusedStream streams) (Usage.Tracks · p.statements p.readPads)
      (p.statements.zipIdx.foldlM (Usage.check inputs) {}) := by
  have all : Answers (RefusedStream streams) (fun usage => Usage.Tracks usage
      (p.statements.zipIdx.map Prod.fst)
      ((p.statements.zipIdx.map Prod.fst).flatMap Statement.inputs))
      (p.statements.zipIdx.foldlM (Usage.check inputs) {}) := by
    refine Answers.foldlM (fun taken usage => Usage.Tracks usage (taken.map Prod.fst)
      ((taken.map Prod.fst).flatMap Statement.inputs)) ?_ ⟨by simp, by simp⟩
    intro before ⟨s, number⟩ after usage place tracks
    have split : p.statements = before.map Prod.fst ++ s :: after.map Prod.fst := by
      simpa using congrArg (List.map Prod.fst) place
    simpa using tree.check within split tracks
  simpa [Program.readPads] using all

/-- A tree is refused only while its statements are followed, not at its end. -/
theorem Program.IsTree.validate_eq (tree : p.IsTree streams) {inputs : Int}
    (within : Within streams inputs) :
    p.validate inputs =
      p.statements.zipIdx.foldlM (Usage.check inputs) {} >>= fun _ => Except.ok () := by
  have follow := tree.follow within
  rw [Program.validate]
  cases followed : p.statements.zipIdx.foldlM (Usage.check inputs) {} with
  | error fault => rfl
  | ok usage =>
    rw [followed] at follow
    have tracks : usage.Tracks p.statements p.readPads := follow
    obtain ⟨last, ends, output⟩ := tree.output_last
    have nothing : (usage.produced.filter fun pad =>
        !usage.consumed.contains pad && pad != last.output) = [] := by
      rw [List.filter_eq_nil_iff]
      intro pad produced
      rw [tracks.produced] at produced
      by_cases inner : pad = last.output
      · simp [inner]
      · have once := tree.read_once pad produced fun same =>
          inner (Option.some.inj (same.symm.trans output))
        have read : pad ∈ p.readPads := List.count_pos_iff.mp (by omega)
        have consumed := (tracks.consumed pad).mpr ⟨tree.produced_plain pad produced, read⟩
        simp [consumed]
    simp only [bind, Except.bind, ends, output, ne_eq, not_true_eq_false, ↓reduceIte, nothing]

/-- A tree over the streams of the inputs that there are passes, unless the number of a stream is
refused as an integer. -/
theorem Program.IsTree.validate (tree : p.IsTree streams) {inputs : Int}
    (within : Within streams inputs) :
    Answers (RefusedStream streams) (fun _ => True) (p.validate inputs) := by
  rw [tree.validate_eq within]
  exact (tree.follow within).bind fun _ _ => trivial

/-- The checker looks at what a statement reads and produces, not at its chain. -/
theorem foldlM_check_map (change : Statement → Statement)
    (inputs_eq : ∀ s, (change s).inputs = s.inputs) (output_eq : ∀ s, (change s).output = s.output)
    (inputs : Int) (usage : Usage) (statements : List Statement) :
    (statements.map change).zipIdx.foldlM (Usage.check inputs) usage =
      statements.zipIdx.foldlM (Usage.check inputs) usage := by
  rw [List.zipIdx_map, List.foldlM_map]
  unfold Usage.check
  simp only [Prod.map, inputs_eq, output_eq, id]

/-- A statement that reads no stream is not refused for the number of one. -/
theorem Usage.check_ne_selector {usage : Usage} {inputs : Int} {s : Statement} {number : Nat}
    {fault : Fault} (plain : ∀ pad ∈ s.inputs, isSelector pad = false)
    (refused : usage.check inputs (s, number) = .error fault) (cause : IntegerFault) :
    fault ≠ .selector cause := by
  have reading : Answers (fun fault => fault ≠ .selector cause) (fun _ => True)
      (s.inputs.foldlM (Usage.readPad inputs number) usage) := by
    refine Answers.foldlM (fun _ _ => True) ?_ trivial
    intro before pad after usage place _
    have other : isSelector pad = false := plain pad (by simp [place])
    unfold Usage.readPad
    rw [other]
    simp only [Bool.false_eq_true, ↓reduceIte]
    split
    · exact nofun
    · split
      · exact nofun
      · trivial
  have checked : Answers (fun fault => fault ≠ .selector cause) (fun _ => True)
      (usage.check inputs (s, number)) := by
    refine reading.bind fun usage _ => ?_
    split
    · exact nofun
    · trivial
  rw [refused] at checked
  exact checked

end Montage.Graph
