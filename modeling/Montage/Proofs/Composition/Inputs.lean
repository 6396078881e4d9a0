import Montage.Proofs.Composition.Range
import Montage.Proofs.Composition.Rank
import Montage.Proofs.Composition.Unfolding

/-! # The inputs of a composition

The engine numbers its inputs in the order in which the arguments declare them, and the program reads them
by these numbers. The arguments are read here as the engine reads them, and both sides are put together: an
input is what the one statement that reads it takes it for, whatever the order of the layers and however
often a name occurs.
-/

namespace Montage

open Montage.Graph

/-- An input of the engine: the options given for it, and where it is read from. -/
structure EngineInput where
  options : List (String × String) := []
  source : String
  deriving DecidableEq

/-- The inputs that arguments declare. Options are gathered until a source closes an input, and the switch
that has no value belongs to none. -/
def EngineInput.read (options : List (String × String)) : List String → List EngineInput
  | [] | [_] => []
  | argument :: value :: rest =>
    if argument = "-y" then read options (value :: rest)
    else if argument = "-i" then ⟨options, value⟩ :: read [] rest
    else read (options ++ [(argument, value)]) rest

/-- The statements that read a pad or a stream. -/
def Graph.Program.readers (p : Program) (pad : String) : List Statement :=
  p.statements.filter fun statement => statement.inputs.contains pad

/-- What is read at most once is read by the one statement that is known to read it. -/
theorem Graph.Program.readers_eq {p : Program} {s : Statement} {pad : String}
    (once : p.readPads.count pad ≤ 1) (member : s ∈ p.statements) (read : pad ∈ s.inputs) :
    p.readers pad = [s] := by
  obtain ⟨before, after, place⟩ := List.append_of_mem member
  have here : 1 ≤ s.inputs.count pad := List.one_le_count_iff.mpr read
  rw [readPads, place, List.flatMap_append, List.flatMap_cons, List.count_append,
    List.count_append] at once
  have nobody {others : List Statement} (none : (others.flatMap Statement.inputs).count pad = 0) :
      others.filter (fun statement => statement.inputs.contains pad) = [] := by
    refine List.filter_eq_nil_iff.mpr fun other present reads => ?_
    refine List.count_eq_zero.mp none (List.mem_flatMap.mpr ⟨other, present, ?_⟩)
    simpa using reads
  rw [readers, place, List.filter_append, List.filter_cons_of_pos (by simpa using read),
    nobody (by omega), nobody (by omega)]
  rfl

namespace Composition

variable {settings : Settings} {scene : Scene} {kind : MediaKind} {fontPaths : List String}
  {parts : Parts} {assets : AssetResolver}

/-! ## Arguments -/

/-- The options of a sticker's input: in moving pictures it is repeated at the frame rate. -/
def stickerOptions (settings : Settings) : MediaKind → List (String × String)
  | .image => []
  | .video => [("-loop", "1"), ("-framerate", toString settings.targetRate)]

theorem inputArgs_eq (settings : Settings) {c : Composition} (kept : c.kind = kind)
    (rate : c.frameRate = frameRateOf settings kind) (mainInput : String) :
    c.inputArgs mainInput = ["-y", "-f", "lavfi", "-i", c.canvasSource, "-i", mainInput] ++
      c.stickerPaths.flatMap fun path =>
        (stickerOptions settings kind).flatMap (fun option => [option.1, option.2]) ++ ["-i", path] := by
  have each : c.stickerArgs = fun path =>
      (stickerOptions settings kind).flatMap (fun option => [option.1, option.2]) ++ ["-i", path] := by
    funext path
    rw [stickerArgs, kept, rate]
    cases kind <;> rfl
  rw [inputArgs, each]

/-- The engine reads one input for each sticker, with its options. -/
theorem read_stickers (settings : Settings) (kind : MediaKind) (paths : List String) :
    EngineInput.read [] (paths.flatMap fun path =>
        (stickerOptions settings kind).flatMap (fun option => [option.1, option.2]) ++ ["-i", path]) =
      paths.map fun path => ⟨stickerOptions settings kind, path⟩ := by
  induction paths with
  | nil => rfl
  | cons path rest ih =>
    rw [List.map_cons, ← ih]
    cases kind <;> simp [stickerOptions, EngineInput.read]

/-! ## Statements -/

/-- The pad that the layer of a place is laid on, when layers are laid on a pad. -/
def padBelow (ground : String) (index : Nat) : Nat → String
  | 0 => ground
  | before + 1 => (Pad.layer (index + before)).name

/-- Every layer is laid once, on what is below it. -/
theorem stack_getElem? {shortest : Bool} {ground : String} {index : Nat} {layers : List Layer}
    {statements : List Statement} (stacked : stack shortest ground index layers = .ok statements)
    {place : Nat} {layer : Layer} (found : layers[place]? = some layer) :
    ∃ chain, overlayFilter layer.x layer.y shortest = .ok chain ∧
      statements[place]? = some ⟨[padBelow ground index place, layer.pad], chain,
        (Pad.layer (index + place)).name⟩ := by
  induction layers generalizing ground index statements place with
  | nil => contradiction
  | cons first rest ih =>
    obtain ⟨chain, others, overlay, above, rfl⟩ := stack_cons_eq_ok.mp stacked
    cases place with
    | zero =>
      obtain rfl := Option.some.inj found
      exact ⟨chain, overlay, rfl⟩
    | succ place =>
      replace found : rest[place]? = some layer := found
      obtain ⟨chain, overlay, there⟩ := ih above found
      refine ⟨chain, overlay, ?_⟩
      rw [List.getElem?_cons_succ, there]
      cases place with
      | zero => rfl
      | succ before => simp only [padBelow, Nat.add_assoc, Nat.add_comm 1]

/-- The depths of all layers in the order of their declaration, stickers first. -/
def depthsOf (scene : Scene) : List Int :=
  scene.stickers.map Sticker.depth ++ scene.captions.map Caption.depth

theorem layers_depth (of : parts.Of settings scene kind fontPaths)
    (fonts : fontPaths.length = scene.captions.length) :
    (parts.layers scene).map Layer.depth = depthsOf scene := by
  have stickers : ((stickerLayers scene).map Prod.snd).map Layer.depth =
      scene.stickers.map Sticker.depth := by
    have each : (Layer.depth ∘ Prod.snd) ∘ (fun item : Sticker × Nat =>
        stickerLayer scene.canvas item.1 item.2) = Sticker.depth ∘ Prod.fst := rfl
    rw [stickerLayers, List.map_map, List.map_map, each, ← List.map_map, List.zipIdx_map_fst]
  have captions : (parts.captions.map Prod.snd).map Layer.depth =
      (captionItems scene fontPaths).map fun item => item.1.1.depth := by
    have taken := of.captions
    generalize captionItems scene fontPaths = items, parts.captions = built at taken ⊢
    induction taken with
    | nil => rfl
    | cons first _ ih =>
      obtain ⟨layout, text, _, _, rfl⟩ := captionLayer_eq_ok.mp first
      simp only [List.map_cons, ih]
  have items : (captionItems scene fontPaths).map (fun item => item.1.1.depth) =
      scene.captions.map Caption.depth := by
    have each : (fun item : (Caption × String) × Nat => item.1.1.depth) =
        (Caption.depth ∘ Prod.fst) ∘ Prod.fst := rfl
    rw [captionItems, each, ← List.map_map, List.zipIdx_map_fst, ← List.map_map,
      List.map_fst_zip (Nat.le_of_eq fonts.symm)]
  rw [Parts.layers, List.map_append, stickers, captions, items, depthsOf]

theorem mem_statements {s : Statement} (member : s ∈ parts.built scene) :
    s ∈ parts.statements settings scene kind := List.mem_append_left _ member

theorem getElem?_stickerLayers {index : Nat} {sticker : Sticker}
    (declared : scene.stickers[index]? = some sticker) :
    (stickerLayers scene)[index]? = some (stickerLayer scene.canvas sticker index) := by
  rw [stickerLayers, List.getElem?_map, List.getElem?_zipIdx, declared]
  simp

/-- A sticker is laid at its own place, at the rank that its depth and its index give it. -/
theorem overlay_mem (of : parts.Of settings scene kind fontPaths)
    (fonts : fontPaths.length = scene.captions.length) {index : Nat} {sticker : Sticker}
    (declared : scene.stickers[index]? = some sticker) :
    ∃ chain, overlayFilter (clampCoordinate (some sticker.position.x) scene.canvas.width)
        (clampCoordinate (some sticker.position.y) scene.canvas.height) (endsWithShortest kind) = .ok chain ∧
      ⟨[padBelow Pad.base.name 0 (Layer.rank (depthsOf scene) index sticker.depth), (Pad.sticker index).name],
        chain, (Pad.layer (Layer.rank (depthsOf scene) index sticker.depth)).name⟩ ∈ parts.overlays := by
  have layer : (parts.layers scene)[index]? = some (stickerLayer scene.canvas sticker index).2 := by
    have known : index < ((stickerLayers scene).map Prod.snd).length := by
      rw [List.length_map]
      exact (List.getElem?_eq_some_iff.mp (getElem?_stickerLayers declared)).1
    rw [Parts.layers, List.getElem?_append_left known, List.getElem?_map, getElem?_stickerLayers declared]
    rfl
  have ranked := Layer.getElem?_inOrder layer
  rw [layers_depth of fonts] at ranked
  obtain ⟨chain, overlay, there⟩ := stack_getElem? of.overlays ranked
  rw [Nat.zero_add] at there
  exact ⟨chain, overlay, List.mem_of_getElem? there⟩

/-- The files of the stickers are those that their names stand for, one for each sticker. -/
theorem resolveAssets_stickers {paths fonts : List String}
    (resolved : resolveAssets assets settings scene = .ok (paths, fonts)) :
    List.Forall₂ (fun sticker path => assets.sticker sticker.name = .ok path) scene.stickers paths := by
  simp only [resolveAssets, bind_eq_ok, pure_eq_ok, mapM_eq_ok, Prod.mk.injEq] at resolved
  obtain ⟨_, files, _, _, rfl, _⟩ := resolved
  exact files

/-- The inputs that the engine is given for a scene are what the program takes them for. -/
structure Aligned (assets : AssetResolver) (settings : Settings) (scene : Scene) (kind : MediaKind)
    (mainInput : String) (c : Composition) : Prop where
  /-- The canvas comes first, then the main medium, then the stickers as they are declared. -/
  arguments : c.inputArgs mainInput = ["-y", "-f", "lavfi", "-i", c.canvasSource, "-i", mainInput] ++
    c.stickerPaths.flatMap fun path =>
      (stickerOptions settings kind).flatMap (fun option => [option.1, option.2]) ++ ["-i", path]
  /-- The engine reads one input from each of them. -/
  inputs : EngineInput.read [] (c.inputArgs mainInput) =
    ⟨[("-f", "lavfi")], c.canvasSource⟩ :: ⟨[], mainInput⟩ ::
      c.stickerPaths.map fun path => ⟨stickerOptions settings kind, path⟩
  /-- Every stream that the program reads is the picture of one of these inputs. -/
  streams : ∀ pad ∈ c.program.readPads, isSelector pad = true →
    ∃ input < 2 + c.stickerPaths.length, pad = videoStream input
  /-- The canvas of the scene is read by the statement that lays the main medium on it. -/
  canvas : canvasSourceOf scene.canvas scene.backgroundColor (frameRateOf settings kind) =
      .ok c.canvasSource ∧
    ∃ base, baseStatement scene.content scene.canvas (endsWithShortest kind) = .ok base ∧
      c.program.readers (videoStream 0) = [base]
  /-- The main medium is read by its own statement. -/
  main : ∃ main, mainStatement scene.content scene.canvas = .ok main ∧
    c.program.readers (videoStream 1) = [main]
  /-- The inputs of the stickers are the files that their names stand for. -/
  files : List.Forall₂ (fun sticker path => assets.sticker sticker.name = .ok path)
    scene.stickers c.stickerPaths
  /-- The input of a sticker is read by the statement with the filters of that sticker. -/
  filters : ∀ index sticker, scene.stickers[index]? = some sticker →
    c.program.readers (videoStream (index + 2)) =
      [⟨[videoStream (index + 2)], ",".intercalate (stickerFilters sticker scene.canvas),
        (Pad.sticker index).name⟩]
  /-- The pad of a sticker is laid once, at the place of that sticker, above all layers that are lower and
  all stickers of the same depth declared before it. -/
  place : ∀ index sticker, scene.stickers[index]? = some sticker →
    ∃ chain, overlayFilter (clampCoordinate (some sticker.position.x) scene.canvas.width)
        (clampCoordinate (some sticker.position.y) scene.canvas.height) (endsWithShortest kind) = .ok chain ∧
      c.program.readers (Pad.sticker index).name =
        [⟨[padBelow Pad.base.name 0 (Layer.rank (depthsOf scene) index sticker.depth),
          (Pad.sticker index).name], chain,
          (Pad.layer (Layer.rank (depthsOf scene) index sticker.depth)).name⟩]

/-- However many stickers a scene has, whatever their depths and however often a name occurs, the program
reads for each of them the input that the arguments give it. -/
theorem compile_aligned {c : Composition} (composed : compile assets settings scene kind = .ok c)
    (mainInput : String) : c.Aligned assets settings scene kind mainInput := by
  obtain ⟨paths, fontPaths, program, source, resolved, built, canvas, _, rfl⟩ := compile_eq_ok.mp composed
  have tree := programOf_isTree built
  obtain ⟨stickers, fonts⟩ := resolveAssets_length resolved
  obtain ⟨parts, of, same⟩ := programOf_eq_ok.mp built
  have statements : program.statements = parts.statements settings scene kind := by
    rw [same, Program.addAll_eq]
    rfl
  let c : Composition := ⟨kind, scene.canvas, source, program, paths, frameRateOf settings kind⟩
  have arguments := inputArgs_eq settings (rfl : c.kind = kind) rfl mainInput
  -- A stream of the scene is read once, and so is every pad.
  have ofStream {s : Statement} {input : Nat} (member : s ∈ parts.built scene)
      (bound : input < 2 + scene.stickers.length) (read : videoStream input ∈ s.inputs) :
      program.readers (videoStream input) = [s] := by
    have known : videoStream input ∈ streams scene := List.mem_map_of_mem (List.mem_range.mpr bound)
    refine Program.readers_eq (Nat.le_of_eq (tree.stream_once _ known)) ?_ read
    exact statements ▸ mem_statements member
  have ofPad {s : Statement} {pad : Pad} (member : s ∈ parts.built scene) (read : pad.name ∈ s.inputs) :
      program.readers pad.name = [s] :=
    Program.readers_eq (tree.count_le_one (Pad.isSelector_name pad))
      (statements ▸ mem_statements member) read
  refine ⟨arguments, ?_, ?_, ⟨canvas, parts.base, of.base, ?_⟩, ⟨parts.main, of.main, ?_⟩,
    resolveAssets_stickers resolved, ?_, ?_⟩
  · rw [arguments, ← read_stickers]
    rfl
  · intro pad read selector
    obtain ⟨input, bound, rfl⟩ := List.mem_map.mp (tree.stream_known pad read selector)
    exact ⟨input, by rw [stickers]; exact List.mem_range.mp bound, rfl⟩
  · obtain ⟨chain, _, base⟩ := baseStatement_eq_ok.mp of.base
    refine ofStream (.tail _ (.head _)) (by omega) ?_
    rw [base]
    exact List.mem_cons_self
  · obtain ⟨crop, _, main⟩ := mainStatement_eq_ok.mp of.main
    refine ofStream (.head _) (by omega) ?_
    rw [main]
    exact List.mem_cons_self
  · intro index sticker declared
    have bound := (List.getElem?_eq_some_iff.mp declared).1
    have member := List.mem_map_of_mem (f := Prod.fst)
      (List.mem_of_getElem? (getElem?_stickerLayers declared))
    refine ofStream (.tail _ (.tail _ (List.mem_append_left _ (List.mem_append_left _ member))))
      (by omega) List.mem_cons_self
  · intro index sticker declared
    obtain ⟨chain, overlay, member⟩ := overlay_mem of fonts declared
    exact ⟨chain, overlay, ofPad (.tail _ (.tail _ (List.mem_append_right _ member)))
      (.tail _ (.head _))⟩

/-- Two stickers of one name, the upper one declared first, around a caption. -/
def twins : Scene where
  stickers := [{ name := "star", depth := 3 }, { name := "star", depth := -1, opacity := 0 },
    { name := "heart", depth := 3, rotation := 45 }]
  captions := [{
    text := "Hi"
    x := none
    y := none
    width := none
    height := none
    fontFamily := "Inter"
    color := none }]

/-- Each of the twins is read from its own input. -/
theorem twins_aligned :
    ∃ c, compile fullShelf {} twins .video = .ok c ∧ c.Aligned fullShelf {} twins .video "clip.mp4" := by
  have resolved : resolveAssets fullShelf {} twins =
      .ok (["star", "star", "heart"], ["Inter-Medium.ttf"]) := by decide +kernel
  have plain : ∀ caption ∈ twins.captions,
      caption.width = none ∧ caption.color = none ∧ caption.backgroundColor = none :=
    List.forall_mem_singleton.mpr ⟨rfl, rfl, rfl⟩
  obtain ⟨c, composed⟩ : ∃ c, compile fullShelf {} twins .video = .ok c :=
    compile_of_plain resolved (.inl rfl) rfl rfl plain (by decide)
  exact ⟨c, composed, compile_aligned composed "clip.mp4"⟩

end Composition

end Montage
