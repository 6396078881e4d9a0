import Montage.Proofs.Composition.Soundness
import Montage.Proofs.Composition.Unfolding

/-! # Still and moving pictures

The same scene is composed as a still picture and as a moving one by the same computation: whatever
refuses the one refuses the other. The moving picture has the statements of the still one, in which
overlays end with their shortest input and sources carry the frame rate, and one statement more.
-/

namespace Montage.Composition

open Montage.Graph

variable {settings : Settings} {scene : Scene} {fontPaths : List String} {rate : Int}

/-- The name of the first filter of a statement's chain. -/
def filterName (s : Statement) : List Char := s.chain.toList.takeWhile (· ≠ '=')

/-- What is appended to a statement's chain in a moving picture. -/
def motionParameter (rate : Int) (s : Statement) : String :=
  if filterName s = "overlay".toList then ":shortest=1"
  else if filterName s = "color".toList then s!":r={rate}"
  else ""

/-- What becomes of a statement of a still picture in a moving one. -/
def inMotion (rate : Int) (s : Statement) : Statement :=
  { s with chain := s.chain ++ motionParameter rate s }

theorem inMotion_overlay {s : Statement} (name : filterName s = "overlay".toList) :
    inMotion rate s = { s with chain := s.chain ++ ":shortest=1" } := by
  rw [inMotion, motionParameter, if_pos name]

theorem inMotion_color {s : Statement} (name : filterName s = "color".toList) :
    inMotion rate s = { s with chain := s.chain ++ s!":r={rate}" } := by
  have other : "color".toList ≠ "overlay".toList := by decide
  rw [inMotion, motionParameter, name, if_neg other, if_pos rfl]

/-- All other statements are the same in still and moving pictures. -/
theorem inMotion_other {s : Statement} {name : List Char} (here : filterName s = name)
    (plain : name ≠ "overlay".toList ∧ name ≠ "color".toList) : inMotion rate s = s := by
  rw [inMotion, motionParameter, here, if_neg plain.1, if_neg plain.2, String.append_empty]

theorem toString_text (text : String) : toString text = text := rfl

/-! ## Overlays -/

theorem overlayFilter_shortest (x y : Rat) :
    overlayFilter x y true = (· ++ ":shortest=1") <$> overlayFilter x y false := by
  simp only [overlayFilter, map_bind, map_pure, ↓reduceIte, Bool.false_eq_true, String.append_empty]

theorem filterName_overlay {x y : Rat} {shortest : Bool} {s : Statement}
    (overlay : overlayFilter x y shortest = .ok s.chain) : filterName s = "overlay".toList := by
  simp only [overlayFilter, bind_eq_ok, pure_eq_ok] at overlay
  obtain ⟨x, _, y, _, chain⟩ := overlay
  simp [filterName, toString_text, ← chain]

theorem baseStatement_inMotion (rate : Int) (content : Content) (canvas : Canvas) :
    baseStatement content canvas true = inMotion rate <$> baseStatement content canvas false := by
  simp only [baseStatement, overlayFilter_shortest, bind_map_left]
  refine bind_eq_map fun chain overlay => ?_
  rw [map_pure, inMotion_overlay (filterName_overlay overlay)]

theorem stack_inMotion (rate : Int) (current : String) (index : Nat) (layers : List Layer) :
    stack true current index layers =
      List.map (inMotion rate) <$> stack false current index layers := by
  induction layers generalizing current index with
  | nil => rfl
  | cons layer rest ih =>
    rw [stack, overlayFilter_shortest, bind_map_left]
    refine bind_eq_map fun chain overlay => ?_
    have motion : inMotion rate ⟨[current, layer.pad], chain, s!"layer{index}"⟩ =
        ⟨[current, layer.pad], chain ++ ":shortest=1", s!"layer{index}"⟩ :=
      inMotion_overlay (filterName_overlay overlay)
    simp only [ih, bind_map_left, map_bind, map_pure, List.map_cons, motion]

/-! ## The main medium and the stickers -/

/-- Cutting is the first filter of a chain, if there is anything to cut. -/
theorem cropFilters_cases {crop : Option Crop} {filters : List String}
    (cropped : cropFilters crop = .ok filters) :
    filters = [] ∨ ∃ numbers, filters = ["crop=" ++ numbers] := by
  unfold cropFilters at cropped
  split at cropped
  · exact .inl (Except.ok.inj cropped).symm
  · split at cropped
    · simp only [bind_eq_ok, pure_eq_ok, String.append_assoc] at cropped
      obtain ⟨width, _, height, _, x, _, y, _, rfl⟩ := cropped
      exact .inr ⟨_, rfl⟩
    · exact .inl (Except.ok.inj cropped).symm

theorem scaleFilters_cons (content : Content) (canvas : Canvas) :
    ∃ numbers others, scaleFilters content canvas = ("scale=" ++ numbers) :: others := by
  unfold scaleFilters
  split <;> simp only [String.append_assoc] <;> exact ⟨_, _, rfl⟩

/-- The main medium is cut, turned or scaled first. -/
theorem filterName_main {content : Content} {canvas : Canvas} {s : Statement}
    (main : mainStatement content canvas = .ok s) :
    filterName s ∈ ["crop".toList, "rotate".toList, "scale".toList] := by
  obtain ⟨crop, cropped, rfl⟩ := mainStatement_eq_ok.mp main
  obtain ⟨numbers, others, scale⟩ := scaleFilters_cons content canvas
  rcases cropFilters_cases cropped with rfl | ⟨numbers, rfl⟩
  · by_cases level : content.rotation.isZero = true
    · simp [filterName, level, scale]
    · simp [filterName, level, Caption.rotateFilter, toString_text]
  · simp [filterName]

theorem mainStatement_inMotion {content : Content} {canvas : Canvas} {s : Statement}
    (main : mainStatement content canvas = .ok s) : inMotion rate s = s := by
  have plain : ∀ name ∈ ["crop".toList, "rotate".toList, "scale".toList],
      name ≠ "overlay".toList ∧ name ≠ "color".toList := by decide
  exact inMotion_other rfl (plain _ (filterName_main main))

theorem filterName_stickerLayer (canvas : Canvas) (sticker : Sticker) (index : Nat) :
    filterName (stickerLayer canvas sticker index).1 = "format".toList := by
  simp [filterName, stickerLayer, stickerFilters, String.toList_intercalate, List.intercalate,
    toString_text]

theorem stickerLayer_inMotion (canvas : Canvas) (sticker : Sticker) (index : Nat) :
    inMotion rate (stickerLayer canvas sticker index).1 = (stickerLayer canvas sticker index).1 :=
  inMotion_other (filterName_stickerLayer canvas sticker index) (by decide)

/-! ## Captions -/

/-- The same renderer for moving pictures. -/
def rendererInMotion (rate : Int) (renderer : Caption.Renderer) : Caption.Renderer :=
  { renderer with frameRate := some rate }

theorem filterName_drawFilter {renderer : Caption.Renderer} {caption : Caption}
    {prepared : Caption.Prepared} {layout : Caption.Layout} {fontPath : String} {s : Statement}
    (drawn : renderer.drawFilter caption prepared layout fontPath = .ok s.chain) :
    filterName s = "drawtext".toList := by
  obtain ⟨color, box, _, _, chain⟩ := drawFilter_eq_ok drawn
  simp [filterName, chain]

theorem filterName_rotateFilter (degrees : Binary64) (rest : String) (inputs : List String)
    (output : String) :
    filterName ⟨inputs, Caption.rotateFilter degrees ++ rest, output⟩ = "rotate".toList := by
  simp [filterName, Caption.rotateFilter, toString_text]

theorem filterName_sourceFilter (renderer : Caption.Renderer) (layout : Caption.Layout)
    (inputs : List String) (output : String) :
    filterName ⟨inputs, renderer.sourceFilter layout, output⟩ = "color".toList := by
  unfold Caption.Renderer.sourceFilter
  simp [filterName, toString_text]

theorem rateParameter_of_ne (moves : rate ≠ 0) (key : String) :
    Caption.rateParameter key (some rate) = s!":{key}={rate}" := by
  unfold Caption.rateParameter
  split
  · contradiction
  · next zero => exact absurd (Option.some.inj zero) moves
  · next same => rw [Option.some.inj same]

theorem sourceFilter_inMotion (moves : rate ≠ 0) {renderer : Caption.Renderer}
    (still : renderer.frameRate = none) (layout : Caption.Layout) (inputs : List String)
    (output : String) :
    (⟨inputs, (rendererInMotion rate renderer).sourceFilter layout, output⟩ : Statement) =
      inMotion rate ⟨inputs, renderer.sourceFilter layout, output⟩ := by
  rw [inMotion_color (filterName_sourceFilter ..)]
  unfold Caption.Renderer.sourceFilter
  have carried : (rendererInMotion rate renderer).frameRate = some rate := rfl
  rw [carried, still, rateParameter_of_ne moves]
  simp only [Caption.rateParameter, String.append_empty]
  rfl

/-- The canvas of a caption carries the frame rate, and nothing else of the caption changes. -/
theorem captionLayer_inMotion (moves : rate ≠ 0) (renderer : Caption.Renderer)
    (still : renderer.frameRate = none) (caption : Caption) (fontPath : String) (index : Nat) :
    captionLayer (rendererInMotion rate renderer) caption fontPath index =
      Prod.map (List.map (inMotion rate)) id <$> captionLayer renderer caption fontPath index := by
  simp only [captionLayer, Caption.Renderer.statements, bind_assoc]
  refine bind_eq_map fun layout laid => bind_eq_map fun text drawn => ?_
  have source := sourceFilter_inMotion moves still layout [] s!"tc{index}"
  have words : inMotion rate ⟨[s!"tc{index}"], text, s!"tt{index}"⟩ =
      ⟨[s!"tc{index}"], text, s!"tt{index}"⟩ := inMotion_other (filterName_drawFilter drawn) (by decide)
  have turned (degrees : Binary64) : inMotion rate ⟨[s!"tt{index}"],
      Caption.rotateFilter degrees ++ ":c=black@0", s!"tr{index}"⟩ =
        ⟨[s!"tt{index}"], Caption.rotateFilter degrees ++ ":c=black@0", s!"tr{index}"⟩ :=
    inMotion_other (filterName_rotateFilter ..) (by decide)
  cases level : (caption.rotation.getD .zero).isZero <;>
    simp only [↓reduceIte, Bool.false_eq_true, pure_bind, map_pure, source, List.cons_append,
      List.nil_append, Prod.map, List.map_cons, List.map_nil, words, turned, id] <;> rfl

/-! ## Programs -/

/-- What becomes of a program for a still picture in a moving one: its statements in motion, and then
the lock on the frame rate. -/
def programInMotion (rate : Int) (p : Program) : Program :=
  ({} : Program).addAll
    (p.statements.map (inMotion rate) ++ lockStatements (lastPad p.statements) (some rate))

theorem lastPad_inMotion (rate : Int) (statements : List Statement) :
    lastPad (statements.map (inMotion rate)) = lastPad statements := by
  rw [lastPad, lastPad, List.getLast?_map, Option.map_map]
  rfl

theorem stickers_inMotion (rate : Int) (scene : Scene) :
    ((stickerLayers scene).map Prod.fst).map (inMotion rate) = (stickerLayers scene).map Prod.fst := by
  simp only [stickerLayers, List.map_map]
  refine List.map_congr_left ?_
  rintro ⟨sticker, index⟩ _
  exact stickerLayer_inMotion scene.canvas sticker index

/-- The program of a moving picture is that of the still one, set in motion. -/
theorem programOf_video (scene : Scene) (fontPaths : List String)
    (moves : settings.targetRate ≠ 0) :
    programOf settings scene .video fontPaths =
      programInMotion settings.targetRate <$> programOf settings scene .image fontPaths := by
  let renderer : Caption.Renderer := ⟨scene.canvas, settings.captionPadding, none⟩
  have captioned : ((scene.captions.zip fontPaths).zipIdx.mapM fun x => captionLayer
      (rendererInMotion settings.targetRate renderer) x.1.1 x.1.2 x.2) =
      List.map (Prod.map (List.map (inMotion settings.targetRate)) id) <$>
        ((scene.captions.zip fontPaths).zipIdx.mapM fun x => captionLayer renderer x.1.1 x.1.2 x.2) :=
    mapM_eq_map fun item _ => captionLayer_inMotion moves renderer rfl item.1.1 item.1.2 item.2
  simp only [programOf, endsWithShortest, frameRateOf]
  refine bind_eq_map fun main hmain => ?_
  rw [baseStatement_inMotion settings.targetRate, bind_map_left]
  refine bind_eq_map fun base _ => ?_
  simp only [renderer, rendererInMotion] at captioned
  rw [captioned, bind_map_left]
  refine bind_eq_map fun captions _ => ?_
  have layers : (captions.map (Prod.map (List.map (inMotion settings.targetRate)) id)).map Prod.snd =
      captions.map Prod.snd := by rw [List.map_map]; rfl
  rw [layers, stack_inMotion settings.targetRate, bind_map_left]
  refine bind_eq_map fun overlays _ => ?_
  have built : (main :: base :: ((stickerLayers scene).map Prod.fst ++ captions.flatMap Prod.fst ++
        overlays)).map (inMotion settings.targetRate) =
      main :: inMotion settings.targetRate base :: ((stickerLayers scene).map Prod.fst ++
        (captions.map (Prod.map (List.map (inMotion settings.targetRate)) id)).flatMap Prod.fst ++
        overlays.map (inMotion settings.targetRate)) := by
    simp only [List.map_cons, List.map_append, mainStatement_inMotion hmain, stickers_inMotion,
      List.map_flatMap, List.flatMap_map]
    rfl
  rw [stickerLayers] at built
  rw [map_pure, ← built, lastPad_inMotion, programInMotion]
  simp only [lockStatements, List.append_nil, Program.addAll_eq, List.nil_append]

/-- A moving picture passes the check exactly if the still one does, and for the same reason. -/
theorem validate_inMotion {p : Program} (built : programOf settings scene .image fontPaths = .ok p)
    (moved : programOf settings scene .video fontPaths =
      .ok (programInMotion settings.targetRate p)) :
    (programInMotion settings.targetRate p).validate (2 + scene.stickers.length) =
      p.validate (2 + scene.stickers.length) := by
  have still := programOf_isTree built
  have moving := programOf_isTree moved
  have within := streams_within scene
  obtain ⟨last, ends, output⟩ := still.output_last
  have lock : lastPad p.statements = last.output := by simp [lastPad, ends]
  have plain : isSelector last.output = false :=
    still.produced_plain _ (List.mem_map_of_mem (List.mem_of_getLast? ends))
  have statements : (programInMotion settings.targetRate p).statements =
      p.statements.map (inMotion settings.targetRate) ++
        [⟨[last.output], s!"fps={settings.targetRate}", "vout"⟩] := by
    simp only [programInMotion, Program.addAll_eq, List.nil_append, lock, lockStatements]
  -- Both programs are followed alike up to the lock. The lock could only be refused for what it reads,
  -- but it reads a pad, and a tree is refused for its selectors at most.
  have follow := moving.follow within
  rw [moving.validate_eq within, still.validate_eq within]
  rw [statements, List.zipIdx_append, List.foldlM_append,
    foldlM_check_map (inMotion settings.targetRate) (fun _ => rfl) (fun _ => rfl)] at follow ⊢
  cases followed : p.statements.zipIdx.foldlM (Usage.check (2 + scene.stickers.length)) {} with
  | error fault => rfl
  | ok usage =>
    simp only [followed, List.zipIdx_cons, List.zipIdx_nil, List.foldlM_cons, List.foldlM_nil,
      bind_pure] at follow ⊢
    simp only [bind, Except.bind] at follow ⊢
    split
    · next fault checked =>
      rw [checked] at follow
      obtain ⟨_, _, cause, _, rfl⟩ := follow
      refine absurd rfl (Usage.check_ne_selector ?_ checked cause)
      simpa using plain
    · rfl

/-- The canvas is refused for its colour, whether or not it carries a frame rate. -/
theorem canvasSourceOf_rate (canvas : Canvas) (color : Option String) (rate : Option Int) :
    ∃ carry, canvasSourceOf canvas color rate = carry <$> canvasSourceOf canvas color none := by
  cases resolved : Color.resolveText color with
  | error fault => exact ⟨id, by simp only [canvasSourceOf, resolved]; rfl⟩
  | ok name =>
    refine ⟨fun _ => s!"color=size={canvas.width}x{canvas.height}" ++
      Caption.rateParameter "rate" rate ++ s!":color={name}", ?_⟩
    simp only [canvasSourceOf, resolved]
    rfl

/-- What becomes of the composition of a still picture in a moving one, with another canvas. -/
def setInMotion (rate : Int) (carry : String → String) (c : Composition) : Composition :=
  ⟨.video, c.canvas, carry c.canvasSource, programInMotion rate c.program, c.stickerPaths, some rate⟩

theorem compile_eq_map (assets : AssetResolver) (scene : Scene) (moves : settings.targetRate ≠ 0) :
    ∃ carry, compile assets settings scene .video =
      setInMotion settings.targetRate carry <$> compile assets settings scene .image := by
  obtain ⟨carry, source⟩ :=
    canvasSourceOf_rate scene.canvas scene.backgroundColor (some settings.targetRate)
  refine ⟨carry, ?_⟩
  simp only [compile]
  refine bind_eq_map fun files found => ?_
  obtain ⟨stickers, fonts⟩ := files
  have count := (resolveAssets_length (mapError_eq_ok.mp found)).1
  simp only [compileWith, frameRateOf]
  have programs := programOf_video scene fonts moves
  rw [programs, mapError_map, bind_map_left]
  refine bind_eq_map fun program built => ?_
  have built := mapError_eq_ok.mp built
  rw [built] at programs
  rw [source, mapError_map, bind_map_left]
  refine bind_eq_map fun still _ => ?_
  rw [count, validate_inMotion built programs]
  refine bind_eq_map fun _ _ => ?_
  rfl

end Montage.Composition
