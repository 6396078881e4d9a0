import Mathlib.Algebra.Group.Nat.Defs
import Montage.Processing.Compose
import Montage.Proofs.Composition.Tree
import Montage.Proofs.Graph.Validation

/-! # Compositions pass the check

Whatever a scene holds, the check of its program never finds anything wrong with the graph.
-/

namespace Montage.Composition

open Montage.Graph

variable {assets : AssetResolver} {settings : Settings} {scene : Scene} {kind : MediaKind}

theorem streams_within (scene : Scene) : Within (streams scene) (2 + scene.stickers.length) := by
  intro stream member number read
  obtain ⟨input, bound, rfl⟩ := List.mem_map.mp member
  rw [readInteger_videoStream] at read
  split at read
  · contradiction
  · obtain rfl := Except.ok.inj read
    have below := List.mem_range.mp bound
    omega

/-- A stream of a scene is refused only if its number has too many digits. -/
theorem length_of_refusedStream {fault : Fault} (refused : RefusedStream (streams scene) fault) :
    ∃ digits, fault = .selector (.tooLong digits) ∧
      10 ^ integerDigitLimit ≤ scene.stickers.length + 1 := by
  obtain ⟨stream, member, cause, read, rfl⟩ := refused
  obtain ⟨input, bound, rfl⟩ := List.mem_map.mp member
  rw [readInteger_videoStream] at read
  split at read
  · next long =>
    refine ⟨_, congrArg Fault.selector (Except.error.inj read).symm, ?_⟩
    have limit := Nat.length_toDigits_le_iff (n := input) (by decide : 1 < 10)
      (by decide : 0 < integerDigitLimit)
    have below := List.mem_range.mp bound
    omega
  · contradiction

/-- The check of a composition fails for no reason but a stream whose number is too long. -/
theorem compile_graph_fault {fault : Fault}
    (refused : compile assets settings scene kind = .error (.graph fault)) :
    ∃ digits, fault = .selector (.tooLong digits) ∧
      10 ^ integerDigitLimit ≤ scene.stickers.length + 1 := by
  obtain ⟨stickers, fonts, program, resolved, built, failed⟩ := compile_eq_graph_error refused
  have answers := (programOf_isTree built).validate (streams_within scene)
  rw [← (resolveAssets_length resolved).1, failed] at answers
  exact length_of_refusedStream answers

/-- The fault of a refused asset is never one of the graph. -/
theorem asset_kind_ne (fault : AssetFault) (cause : ServiceFault)
    (job : fault.toJob = .service cause) : cause.kind ≠ .unsoundGraph := by
  cases fault <;> cases job <;> simp [ServiceFault.invalidAssetName, ServiceFault.ofMessage,
    ServiceFault.make]

/-- Composing a scene never ends in the fault of an unsound graph; its check does not fail at all,
unless the scene has so many stickers that the number of a stream is refused as an integer. Every
composition is a tree over the canvas, the main medium and the stickers. -/
theorem compile_isTree (assets : AssetResolver) (settings : Settings) (scene : Scene)
    (kind : MediaKind) :
    (∀ fault, compile assets settings scene kind = .error fault →
      ∀ cause, fault.toJob = .service cause → cause.kind ≠ .unsoundGraph) ∧
    (∀ fault, compile assets settings scene kind = .error (.graph fault) →
      ∃ digits, fault = .selector (.tooLong digits) ∧
        10 ^ integerDigitLimit ≤ scene.stickers.length + 1) ∧
    ∀ c, compile assets settings scene kind = .ok c → c.program.IsTree (streams scene) := by
  refine ⟨?_, fun fault => compile_graph_fault, ?_⟩
  · intro fault refused cause job
    cases fault with
    | asset fault => exact asset_kind_ne fault cause job
    | range fault => cases fault <;> cases job
    | graph fault =>
      obtain ⟨digits, rfl, _⟩ := compile_graph_fault refused
      cases job
  · intro c composed
    obtain ⟨stickers, fonts, program, source, _, built, _, _, rfl⟩ := compile_eq_ok.mp composed
    exact programOf_isTree built

end Montage.Composition
