import Montage.Proofs.Composition.Parts

/-! # Compositions are trees

The pads of a composition are all different, and every part of it reads just what the parts before it
left open: each sticker reads its own stream, each caption only pads of its own, and each overlay what
is below it and one layer. Sorting the layers changes the order in which they are read, not which.
-/

namespace Montage.Composition

open Montage.Graph
open scoped List

variable {settings : Settings} {scene : Scene} {kind : MediaKind} {fontPaths : List String}
  {parts : Parts}

theorem captionStatements_outputs (renderer : Caption.Renderer) (caption : Caption)
    (layout : Caption.Layout) (text : String) (index : Nat) :
    (captionStatements renderer caption layout text index).map Statement.output =
      (captionPads caption index).map Pad.name := by
  cases turned : isTurned caption <;> simp [captionStatements, captionPads, turned]

theorem captionStatements_wired (renderer : Caption.Renderer) (caption : Caption)
    (layout : Caption.Layout) (text : String) (index : Nat) :
    Wired [] (captionStatements renderer caption layout text index)
      [(captionPad caption index).name] := by
  have drawn : Wired [] [⟨[], renderer.sourceFilter layout, (Pad.canvas index).name⟩,
      ⟨[(Pad.canvas index).name], text, (Pad.text index).name⟩] [(Pad.text index).name] :=
    (Wired.single ⟨[], _, (Pad.canvas index).name⟩).append (Wired.single ⟨[_], _, _⟩)
  cases turned : isTurned caption with
  | false => simpa [captionStatements, captionPad, turned] using drawn
  | true =>
    simpa [captionStatements, captionPad, turned] using drawn.append (Wired.single ⟨[_], _, _⟩)

/-- The pads of all captions. -/
def allCaptionPads (scene : Scene) (fontPaths : List String) : List Pad :=
  (captionItems scene fontPaths).flatMap fun item => captionPads item.1.1 item.2

theorem captions_outputs (of : parts.Of settings scene kind fontPaths) :
    (parts.captions.flatMap Prod.fst).map Statement.output =
      (allCaptionPads scene fontPaths).map Pad.name := by
  have taken := of.captions
  rw [allCaptionPads]
  generalize captionItems scene fontPaths = items, parts.captions = captions at taken ⊢
  induction taken with
  | nil => rfl
  | cons first _ ih =>
    obtain ⟨layout, text, _, _, rfl⟩ := captionLayer_eq_ok.mp first
    simp only [List.flatMap_cons, List.map_append, captionStatements_outputs, ih]

theorem captions_wired (of : parts.Of settings scene kind fontPaths) :
    Wired [] (parts.captions.flatMap Prod.fst) (parts.captions.map fun c => c.2.pad) := by
  refine Wired.groups fun c member => ?_
  obtain ⟨item, _, taken⟩ := exists_of_mem_right of.captions member
  obtain ⟨layout, text, _, _, rfl⟩ := captionLayer_eq_ok.mp taken
  exact captionStatements_wired _ _ _ _ _

/-- The pad that statements end with, or another one if there are none. -/
def endPad (current : String) (statements : List Statement) : String :=
  (statements.getLast?.map Statement.output).getD current

theorem endPad_cons (current : String) (s : Statement) (rest : List Statement) :
    endPad current (s :: rest) = endPad s.output rest := by
  cases rest <;> simp [endPad, List.getLast?_eq_some_getLast]

/-- Stacked overlays read what is below them and each layer once, and leave the composite open. -/
theorem stack_wired {shortest : Bool} {current : String} {index : Nat} {layers : List Layer}
    {statements : List Statement} (stacked : stack shortest current index layers = .ok statements) :
    Wired (current :: layers.map Layer.pad) statements [endPad current statements] := by
  induction layers generalizing current index statements with
  | nil =>
    obtain rfl : [] = statements := Except.ok.inj stacked
    exact List.Perm.refl [current]
  | cons layer rest ih =>
    obtain ⟨chain, others, _, above, rfl⟩ := stack_cons_eq_ok.mp stacked
    rw [endPad_cons]
    exact ⟨rest.map Layer.pad, List.Perm.refl _, ih above⟩

theorem stack_outputs {shortest : Bool} {current : String} {index : Nat} {layers : List Layer}
    {statements : List Statement} (stacked : stack shortest current index layers = .ok statements) :
    statements.map Statement.output =
      ((List.range' index layers.length).map Pad.layer).map Pad.name := by
  induction layers generalizing current index statements with
  | nil =>
    obtain rfl : [] = statements := Except.ok.inj stacked
    rfl
  | cons layer rest ih =>
    obtain ⟨chain, others, _, above, rfl⟩ := stack_cons_eq_ok.mp stacked
    simp only [List.map_cons, ih above, List.length_cons, List.range'_succ]

theorem stickers_outputs (scene : Scene) :
    ((stickerLayers scene).map Prod.fst).map Statement.output =
      ((List.range scene.stickers.length).map Pad.sticker).map Pad.name := by
  simp only [stickerLayers, List.map_map, List.range_eq_range', ← List.zipIdx_map_snd 0 scene.stickers]
  rfl

theorem stickers_wired (scene : Scene) :
    Wired ((List.range scene.stickers.length).map fun index => videoStream (index + 2))
      ((stickerLayers scene).map Prod.fst) ((stickerLayers scene).map fun s => s.2.pad) := by
  have streams : ((stickerLayers scene).map Prod.fst).flatMap Statement.inputs =
      (List.range scene.stickers.length).map fun index => videoStream (index + 2) := by
    rw [stickerLayers, List.map_map, List.flatMap_map, List.range_eq_range',
      ← List.zipIdx_map_snd 0 scene.stickers, List.map_map, List.map_eq_flatMap]
    rfl
  have pads : ((stickerLayers scene).map Prod.fst).map Statement.output =
      (stickerLayers scene).map fun s => s.2.pad := by
    simp only [stickerLayers, List.map_map]
    rfl
  rw [← streams, ← pads]
  exact Wired.each _

/-- The streams that a scene reads: those of the canvas and the main medium, and one a sticker. -/
def streams (scene : Scene) : List String := (List.range (2 + scene.stickers.length)).map videoStream

theorem streams_eq (scene : Scene) :
    streams scene = videoStream 0 :: videoStream 1 ::
      (List.range scene.stickers.length).map fun index => videoStream (index + 2) := by
  rw [streams, List.range_add, List.map_append, List.map_map]
  simp only [Function.comp_def, Nat.add_comm 2]
  rfl

theorem main_wired (of : parts.Of settings scene kind fontPaths) :
    Wired [videoStream 0, videoStream 1] [parts.main, parts.base] [Pad.base.name] := by
  obtain ⟨crop, _, main⟩ := mainStatement_eq_ok.mp of.main
  obtain ⟨chain, _, base⟩ := baseStatement_eq_ok.mp of.base
  rw [main, base]
  exact ⟨[videoStream 0], List.Perm.swap _ _ _, [], List.Perm.swap _ _ _, List.Perm.refl _⟩

theorem length_overlays (of : parts.Of settings scene kind fontPaths) :
    parts.overlays.length = (parts.layers scene).length := by
  have outputs := congrArg List.length (stack_outputs of.overlays)
  simpa [Layer.inOrder] using outputs

/-- All statements up to the last overlay lead from the streams to the composite alone. -/
theorem built_wired (of : parts.Of settings scene kind fontPaths) :
    Wired (streams scene) (parts.built scene) [endPad Pad.base.name parts.overlays] := by
  have opened := (main_wired of).beside ((stickers_wired scene).beside (captions_wired of))
  rw [List.append_nil] at opened
  have layers : (stickerLayers scene).map (fun s => s.2.pad) ++ parts.captions.map (fun c => c.2.pad) ~
      (Layer.inOrder (parts.layers scene)).map Layer.pad := by
    have order := (List.mergeSort_perm (parts.layers scene) fun a b => decide (a.depth ≤ b.depth)).map
      Layer.pad
    simpa only [Layer.inOrder, Parts.layers, List.map_append, List.map_map, Function.comp_def]
      using order.symm
  have stacked : stack (endsWithShortest kind) Pad.base.name 0 (Layer.inOrder (parts.layers scene)) =
      .ok parts.overlays := of.overlays
  have whole := opened.append ((stack_wired stacked).of_perm (layers.cons Pad.base.name))
  rw [streams_eq]
  simpa only [Parts.built, List.cons_append, List.nil_append, List.append_assoc] using whole

/-- The composite is the pad of the last overlay, or the canvas if there is nothing to lay on it. -/
theorem lastPad_built (of : parts.Of settings scene kind fontPaths) :
    lastPad (parts.built scene) = endPad Pad.base.name parts.overlays := by
  have same := length_overlays of
  cases overlays : parts.overlays with
  | nil =>
    obtain ⟨chain, _, base⟩ := baseStatement_eq_ok.mp of.base
    simp only [overlays, List.length_nil, Parts.layers, List.length_append, List.length_map] at same
    have stickers : stickerLayers scene = [] := List.length_eq_zero_iff.mp (by omega)
    have captions : parts.captions = [] := List.length_eq_zero_iff.mp (by omega)
    simp [Parts.built, overlays, stickers, captions, base, lastPad, endPad]
  | cons s rest =>
    simp [Parts.built, overlays, lastPad, endPad, List.getLast?_cons, List.getLast?_append]

theorem exists_last {statements : List Statement} (nonempty : statements ≠ []) :
    ∃ last, statements.getLast? = some last ∧ last.output = lastPad statements := by
  refine ⟨statements.getLast nonempty, List.getLast?_eq_some_getLast nonempty, ?_⟩
  simp [lastPad, List.getLast?_eq_some_getLast nonempty]

/-- All statements lead from the streams to the pad of the last one. -/
theorem statements_wired (of : parts.Of settings scene kind fontPaths) :
    ∃ last, (parts.statements settings scene kind).getLast? = some last ∧
      Wired (streams scene) (parts.statements settings scene kind) [last.output] := by
  have wired := built_wired of
  rw [← lastPad_built of] at wired
  cases rate : frameRateOf settings kind with
  | none =>
    have nonempty : parts.built scene ≠ [] := List.cons_ne_nil _ _
    obtain ⟨last, ends, output⟩ := exists_last nonempty
    refine ⟨last, ?_, ?_⟩
    · simpa [Parts.statements, rate, lockStatements] using ends
    · simpa [Parts.statements, rate, lockStatements, output] using wired
  | some frames =>
    refine ⟨⟨[lastPad (parts.built scene)], s!"fps={frames}", Pad.final.name⟩, ?_, ?_⟩
    · simp [Parts.statements, rate, lockStatements, Pad.name]
    · simpa [Parts.statements, rate, lockStatements, Pad.name] using
        wired.append (Wired.single ⟨[lastPad (parts.built scene)], s!"fps={frames}", Pad.final.name⟩)

/-- The pads of a composition, in the order in which they are produced. -/
def allPads (settings : Settings) (scene : Scene) (kind : MediaKind) (fontPaths : List String)
    (parts : Parts) : List Pad :=
  .main :: .base :: ((List.range scene.stickers.length).map .sticker ++
    (allCaptionPads scene fontPaths ++ ((List.range' 0 (parts.layers scene).length).map .layer ++
      if (frameRateOf settings kind).isSome then [.final] else [])))

theorem statements_outputs (of : parts.Of settings scene kind fontPaths) :
    (parts.statements settings scene kind).map Statement.output =
      (allPads settings scene kind fontPaths parts).map Pad.name := by
  obtain ⟨crop, _, main⟩ := mainStatement_eq_ok.mp of.main
  obtain ⟨chain, _, base⟩ := baseStatement_eq_ok.mp of.base
  have overlays := stack_outputs of.overlays
  rw [Layer.inOrder, List.length_mergeSort] at overlays
  have lock (current : String) : (lockStatements current (frameRateOf settings kind)).map
      Statement.output = (if (frameRateOf settings kind).isSome then [Pad.final] else []).map
        Pad.name := by
    cases frameRateOf settings kind <;> rfl
  simp only [Parts.statements, Parts.built, allPads, List.map_append, List.map_cons,
    stickers_outputs, captions_outputs of, overlays, lock, main, base, List.cons_append,
    List.append_assoc]

/-- The part of a composition that a pad belongs to, counted in the order of production. -/
def Pad.stage : Pad → Nat
  | main => 0
  | base => 1
  | sticker _ => 2
  | canvas _ | text _ | turned _ => 3
  | layer _ => 4
  | final => 5

theorem nodup_append_of_stage (stage : Nat) {pads rest : List Pad} (distinct : pads.Nodup)
    (here : ∀ pad ∈ pads, pad.stage = stage)
    (later : rest.Nodup ∧ ∀ pad ∈ rest, stage + 1 ≤ pad.stage) :
    (pads ++ rest).Nodup ∧ ∀ pad ∈ pads ++ rest, stage ≤ pad.stage := by
  refine ⟨List.nodup_append.mpr ⟨distinct, later.1, ?_⟩, ?_⟩
  · rintro pad member other after rfl
    have bound := later.2 pad after
    rw [here pad member] at bound
    omega
  · intro pad member
    rcases List.mem_append.mp member with member | member
    · exact Nat.le_of_eq (here pad member).symm
    · exact Nat.le_of_succ_le (later.2 pad member)

theorem stage_of_mem_captionPads {caption : Caption} {index : Nat} {pad : Pad}
    (member : pad ∈ captionPads caption index) : pad.stage = 3 := by
  cases turned : isTurned caption <;> simp [captionPads, turned] at member
  · rcases member with rfl | rfl <;> rfl
  · rcases member with rfl | rfl | rfl <;> rfl

theorem allCaptionPads_nodup (scene : Scene) (fontPaths : List String) :
    (allCaptionPads scene fontPaths).Nodup := by
  refine List.nodup_flatMap.mpr ⟨?_, ?_⟩
  · intro item _
    cases turned : isTurned item.1.1 <;> simp [captionPads, turned]
  · refine (pairwise_index (scene.captions.zip fontPaths)).imp fun {a b} before => ?_
    cases first : isTurned a.1.1 <;> cases second : isTurned b.1.1 <;>
      simp [Function.onFun, captionPads, first, second, Nat.ne_of_gt before]

/-- No pad is produced twice. -/
theorem allPads_nodup : (allPads settings scene kind fontPaths parts).Nodup := by
  have lock : (if (frameRateOf settings kind).isSome then [Pad.final] else []).Nodup ∧
      ∀ pad ∈ if (frameRateOf settings kind).isSome then [Pad.final] else [], 5 ≤ pad.stage := by
    split <;> simp [Pad.stage]
  have numbers : (List.range' 0 (parts.layers scene).length).Nodup := List.nodup_range'
  have indices : (List.range scene.stickers.length).Nodup := List.nodup_range
  have layers := nodup_append_of_stage 4
    (numbers.map fun _ _ => Pad.layer.inj) (by simp [Pad.stage]) lock
  have captions := nodup_append_of_stage 3 (allCaptionPads_nodup scene fontPaths)
    (fun pad member => by
      obtain ⟨item, _, member⟩ := List.mem_flatMap.mp member
      exact stage_of_mem_captionPads member) layers
  have stickers := nodup_append_of_stage 2
    (indices.map fun _ _ => Pad.sticker.inj) (by simp [Pad.stage]) captions
  have base := nodup_append_of_stage 1 (List.nodup_singleton Pad.base)
    (by simp [Pad.stage]) stickers
  exact (nodup_append_of_stage 0 (List.nodup_singleton Pad.main)
    (by simp [Pad.stage]) base).1

/-- The streams and the pads of a composition have different names. -/
theorem names_nodup :
    (streams scene ++ (allPads settings scene kind fontPaths parts).map Pad.name).Nodup := by
  refine List.nodup_append.mpr ⟨List.nodup_range.map videoStream_injective,
    allPads_nodup.map Pad.name_injective, ?_⟩
  rintro stream member pad present rfl
  obtain ⟨input, _, selector⟩ := List.mem_map.mp member
  obtain ⟨role, _, name⟩ := List.mem_map.mp present
  have plain := Pad.isSelector_name role
  rw [name, ← selector, isSelector_videoStream] at plain
  contradiction

/-- The program of a scene is a tree over the streams of the scene. -/
theorem programOf_isTree {p : Program}
    (built : programOf settings scene kind fontPaths = .ok p) : p.IsTree (streams scene) := by
  obtain ⟨parts, of, rfl⟩ := programOf_eq_ok.mp built
  obtain ⟨last, ends, wired⟩ := statements_wired of
  have outputs := statements_outputs of
  rw [Program.addAll_eq, List.nil_append]
  refine Wired.isTree wired ends ?_ ?_ ?_ ?_
  · rw [ends]
    rfl
  · rw [Program.producedPads, outputs]
    exact names_nodup
  · intro stream member
    obtain ⟨input, _, rfl⟩ := List.mem_map.mp member
    exact isSelector_videoStream input
  · intro pad member
    rw [Program.producedPads, outputs] at member
    obtain ⟨role, _, rfl⟩ := List.mem_map.mp member
    exact Pad.isSelector_name role

end Montage.Composition
