import Montage.Proofs.Composition.Motion
import Montage.Proofs.Graph.PlainText

/-! # Captions stay within their quotes

The text of a caption and the path of its font are the only parts of a program that are not made of plain
characters, and both stand between quotes. Quoting a text leaves the quotes only to write a quote and
takes them up again at once, so whatever a caption says, the engine reads the program as the
statements that it was composed of. A path with a quote in it would end its quotes.
-/

namespace Montage.Caption

open Montage.Graph Montage.Graph.Lexer

/-- A text whose characters are written one by one stays where it begins, if each of them does. -/
theorem through_flatMap {mode : Mode} {write : Char → List Char} {s : List Char}
    (each : ∀ c ∈ s, mode.through (write c) = some mode) : mode.through (s.flatMap write) = some mode := by
  induction s with
  | nil => rfl
  | cons c rest ih =>
    obtain ⟨here, others⟩ := List.forall_mem_cons.mp each
    rw [List.flatMap_cons, Mode.through_append, here, Option.bind_some, ih others]

theorem through_escapeChar (c : Char) : Mode.quoted.through (escapeChar c) = some .quoted := by
  unfold escapeChar
  split_ifs with backslash percent colon quote
  · decide
  · decide
  · decide
  · decide
  · simp [Mode.through, Mode.breaks, Mode.next, quote]

/-- A quoted text stays between its quotes. -/
theorem through_escapeText (s : List Char) : Mode.quoted.through (escapeText s) = some .quoted :=
  through_flatMap fun c _ => through_escapeChar c

theorem through_escapePathChar {c : Char} (plain : c ≠ '\'') :
    Mode.quoted.through (escapePathChar c) = some .quoted := by
  unfold escapePathChar
  split_ifs with backslash colon
  · decide
  · decide
  · simp [Mode.through, Mode.breaks, Mode.next, plain]

/-- A quoted path without a quote stays between its quotes. -/
theorem through_escapePath {s : List Char} (unquoted : '\'' ∉ s) :
    Mode.quoted.through (escapePath s) = some .quoted :=
  through_flatMap fun _ member => through_escapePathChar fun same => unquoted (same ▸ member)

/-- A text between quotes, after an opening that ends with a quote, is inert. -/
theorem inert_quoted {opening : String} {s : List Char}
    (opens : Mode.plain.through opening.toList = some .quoted)
    (stays : Mode.quoted.through s = some .quoted) : IsInert (opening ++ String.ofList s ++ "'") := by
  have closes : Mode.quoted.through "'".toList = some .plain := by decide
  rw [IsInert, String.toList_append, String.toList_append, String.toList_ofList, Mode.through_append,
    Mode.through_append, opens, Option.bind_some, stays, Option.bind_some, closes]

end Montage.Caption

namespace Montage.Composition

open Montage.Graph

variable {settings : Settings} {scene : Scene} {kind : MediaKind} {fontPaths : List String}
  {parts : Parts}

theorem isChain_of_plain {text : String} (nonempty : text ≠ "") (plain : IsPlain text) :
    IsChain text :=
  ⟨nonempty, plain.inert⟩

/-- The chain of a statement whose first filter has a name is not empty. -/
theorem chain_ne_empty {s : Statement} {name : List Char} (first : filterName s = name)
    (named : name ≠ []) : s.chain ≠ "" := by
  intro empty
  rw [filterName, empty] at first
  exact named first.symm

theorem overlayFilter_isChain {x y : Rat} {shortest : Bool} {chain : String}
    (overlay : overlayFilter x y shortest = .ok chain) : IsChain chain := by
  simp only [overlayFilter, bind_eq_ok, pure_eq_ok] at overlay
  obtain ⟨x, placedX, y, placedY, rfl⟩ := overlay
  have ends : IsPlain (if shortest = true then ":shortest=1" else "") := by split <;> decide
  refine isChain_of_plain (by simp [toString_text]) ?_
  simp only [toString_text, isPlain_append, isPlain_placeText placedX, isPlain_placeText placedY, ends]
  decide

theorem isPlain_rotateFilter (degrees : Binary64) : IsPlain (Caption.rotateFilter degrees) := by
  simp only [Caption.rotateFilter, toString_text, isPlain_append, Binary64.isPlain_plainText]
  decide

theorem isPlain_cropFilters {crop : Option Crop} {filters : List String}
    (cropped : cropFilters crop = .ok filters) : ∀ filter ∈ filters, IsPlain filter := by
  unfold cropFilters at cropped
  split at cropped
  · obtain rfl := Except.ok.inj cropped
    exact List.forall_mem_nil _
  · split at cropped
    · simp only [bind_eq_ok, pure_eq_ok] at cropped
      obtain ⟨width, _, height, _, x, _, y, _, rfl⟩ := cropped
      simp only [List.mem_singleton, forall_eq, toString_text, isPlain_append, isPlain_int]
      decide
    · obtain rfl := Except.ok.inj cropped
      exact List.forall_mem_nil _

theorem isPlain_scaleFilters (content : Content) (canvas : Canvas) :
    ∀ filter ∈ scaleFilters content canvas, IsPlain filter := by
  unfold scaleFilters
  split
  · simp only [List.mem_singleton, forall_eq, toString_text, isPlain_append, isPlain_int]
    decide
  · simp only [List.mem_cons, List.not_mem_nil, or_false, forall_eq_or_imp, forall_eq, toString_text,
      isPlain_append, isPlain_nat]
    decide

/-- The main medium goes through plain filters only, unless it is filtered as asked. -/
theorem mainStatement_isChain {content : Content} {canvas : Canvas} {s : Statement}
    (main : mainStatement content canvas = .ok s)
    (blank : Text.isBlankText content.rawFilter = true) : IsChain s.chain := by
  have named := filterName_main main
  obtain ⟨crop, cropped, rfl⟩ := mainStatement_eq_ok.mp main
  refine ⟨chain_ne_empty rfl ?_, IsInert.intercalate (by decide) ?_⟩
  · rintro unnamed
    rw [unnamed] at named
    revert named
    decide
  · intro filter member
    simp only [blank, ↓reduceIte, List.append_nil, List.mem_append] at member
    rcases member with (crop | rotate) | scale
    · exact (isPlain_cropFilters cropped filter crop).inert
    · split at rotate
      · contradiction
      · obtain rfl := List.mem_singleton.mp rotate
        exact (isPlain_rotateFilter _).inert
    · exact (isPlain_scaleFilters _ _ filter scale).inert

theorem isPlain_stickerFilters (sticker : Sticker) (canvas : Canvas) :
    ∀ filter ∈ stickerFilters sticker canvas, IsPlain filter := by
  intro filter member
  simp only [stickerFilters, List.mem_append, List.mem_cons] at member
  rcases member with (rfl | rfl | rotate) | fade
  · decide
  · split
    · simp only [toString_text, isPlain_append, isPlain_int]
      decide
    · have factor : IsPlain (if sticker.scale.isZero then "1" else sticker.scale.plainText) := by
        split
        · decide
        · exact Binary64.isPlain_plainText _
      simp only [toString_text, isPlain_append, factor]
      decide
  · split at rotate
    · contradiction
    · obtain rfl := List.mem_singleton.mp rotate
      exact isPlain_append.mpr ⟨isPlain_rotateFilter _, by decide⟩
  · split at fade
    · obtain rfl := List.mem_singleton.mp fade
      simp only [toString_text, isPlain_append, Binary64.isPlain_plainText]
      decide
    · contradiction

theorem stickerLayer_isChain (canvas : Canvas) (sticker : Sticker) (index : Nat) :
    IsChain (stickerLayer canvas sticker index).1.chain := by
  have name := filterName_stickerLayer canvas sticker index
  refine ⟨chain_ne_empty name (by decide), IsInert.intercalate (by decide) ?_⟩
  exact fun filter member => (isPlain_stickerFilters sticker canvas filter member).inert

theorem isPlain_rateParameter {key : String} (plain : IsPlain key) (rate : Option Int) :
    IsPlain (Caption.rateParameter key rate) := by
  unfold Caption.rateParameter
  split
  · decide
  · decide
  · simp only [toString_text, isPlain_append, isPlain_int, plain]
    decide

theorem sourceFilter_isChain (renderer : Caption.Renderer) (layout : Caption.Layout) :
    IsChain (renderer.sourceFilter layout) := by
  refine isChain_of_plain (chain_ne_empty (filterName_sourceFilter renderer layout [] "") (by decide)) ?_
  unfold Caption.Renderer.sourceFilter
  simp only [toString_text, isPlain_append, isPlain_int,
    isPlain_rateParameter (by decide : IsPlain "r")]
  decide

/-- A drawn text is inert whatever the caption says and whatever colours it asks for. -/
theorem drawFilter_isChain {renderer : Caption.Renderer} {caption : Caption}
    {layout : Caption.Layout} {fontPath text : String}
    (drawn : renderer.drawFilter caption (Caption.prepare caption.text) layout fontPath = .ok text)
    (unquoted : '\'' ∉ fontPath.toList) : IsChain text := by
  have name : filterName ⟨[], text, ""⟩ = "drawtext".toList := filterName_drawFilter drawn
  refine ⟨chain_ne_empty name (by decide), ?_⟩
  obtain ⟨color, box, resolved, boxed, rfl⟩ := drawFilter_eq_ok drawn
  -- Only the font and the words are quoted. What else is written is plain by itself.
  have font : IsInert ("drawtext=fontfile='" ++
      String.ofList (Caption.escapePath fontPath.toList) ++ "'") :=
    Caption.inert_quoted (by decide) (Caption.through_escapePath unquoted)
  have words : IsInert ("text='" ++ (Caption.prepare caption.text).escaped ++ "'") :=
    Caption.inert_quoted (by decide) (Caption.through_escapeText _)
  have numbers : ∀ parameter ∈ [
      s!"fontsize={layout.fontSize}",
      s!"fontcolor={color}",
      "x=(w-text_w)/2",
      s!"y=(h - (({layout.fontSize} * {layout.lines}) + ({layout.lineSpacing} * ({layout.lines} - 1)))) / 2",
      s!"line_spacing={layout.lineSpacing}"], IsPlain parameter := by
    simp only [List.forall_mem_cons, toString_text, isPlain_append, isPlain_int,
      Color.isPlain_resolveText resolved]
    exact ⟨by decide, by decide, by decide, by decide, by decide, List.forall_mem_nil _⟩
  have frame : ∀ parameter ∈ box, IsPlain parameter := by
    rcases boxed with rfl | ⟨asked, background, found, rfl⟩
    · exact List.forall_mem_nil _
    · simp only [List.forall_mem_cons, toString_text, isPlain_append, isPlain_int,
        Color.isPlain_resolveText found]
      exact ⟨by decide, by decide, by decide, List.forall_mem_nil _⟩
  refine IsInert.intercalate (by decide) (List.forall_mem_append.mpr ⟨?_, ?_⟩)
  · refine List.forall_mem_cons.mpr ⟨font, List.forall_mem_cons.mpr ⟨words, ?_⟩⟩
    exact fun parameter member => (numbers parameter member).inert
  · exact fun parameter member => (frame parameter member).inert

/-! ## Programs -/

theorem captionStatements_isChain {renderer : Caption.Renderer} {caption : Caption}
    {layout : Caption.Layout} {text : String} {index : Nat} (written : IsChain text) :
    ∀ s ∈ captionStatements renderer caption layout text index, IsChain s.chain := by
  have rotated : IsChain (Caption.rotateFilter (caption.rotation.getD .zero) ++ ":c=black@0") :=
    isChain_of_plain
      (chain_ne_empty (filterName_rotateFilter (caption.rotation.getD .zero) ":c=black@0" [] "")
        (by decide))
      (isPlain_append.mpr ⟨isPlain_rotateFilter _, by decide⟩)
  simp only [captionStatements, List.forall_mem_append, List.forall_mem_cons, sourceFilter_isChain,
    written, true_and]
  refine ⟨List.forall_mem_nil _, ?_⟩
  split
  · exact List.forall_mem_singleton.mpr rotated
  · exact List.forall_mem_nil _

theorem captions_isChain (of : parts.Of settings scene kind fontPaths)
    (unquoted : ∀ path ∈ fontPaths, '\'' ∉ path.toList) :
    ∀ s ∈ parts.captions.flatMap Prod.fst, IsChain s.chain := by
  intro s member
  obtain ⟨built, present, member⟩ := List.mem_flatMap.mp member
  obtain ⟨item, listed, taken⟩ := exists_of_mem_right of.captions present
  obtain ⟨layout, text, _, drawn, rfl⟩ := captionLayer_eq_ok.mp taken
  have font : item.1.2 ∈ fontPaths :=
    (List.of_mem_zip (List.fst_mem_of_mem_zipIdx listed)).2
  exact captionStatements_isChain (drawFilter_isChain drawn (unquoted _ font)) s member

theorem stack_isChain {shortest : Bool} {current : String} {index : Nat} {layers : List Layer}
    {statements : List Statement} (stacked : stack shortest current index layers = .ok statements) :
    ∀ s ∈ statements, IsChain s.chain := by
  intro s member
  obtain ⟨layer, -, laid⟩ := exists_layer_of_stack stacked s member
  exact overlayFilter_isChain laid

theorem lockStatements_isChain (current : String) (rate : Option Int) :
    ∀ s ∈ lockStatements current rate, IsChain s.chain := by
  cases rate with
  | none => exact List.forall_mem_nil _
  | some rate =>
    refine List.forall_mem_singleton.mpr (isChain_of_plain (by simp [toString_text]) ?_)
    simp only [toString_text, isPlain_append, isPlain_int]
    decide

/-- Every chain of a program is inert, if the main medium is not filtered as asked and no font's path
has a quote in it. -/
theorem statements_isChain (of : parts.Of settings scene kind fontPaths)
    (blank : Text.isBlankText scene.content.rawFilter = true)
    (unquoted : ∀ path ∈ fontPaths, '\'' ∉ path.toList) :
    ∀ s ∈ parts.statements settings scene kind, IsChain s.chain := by
  have base : IsChain parts.base.chain := by
    obtain ⟨chain, overlay, base⟩ := baseStatement_eq_ok.mp of.base
    rw [base]
    exact overlayFilter_isChain overlay
  have stickers : ∀ s ∈ (stickerLayers scene).map Prod.fst, IsChain s.chain := by
    simp only [stickerLayers, List.map_map, List.forall_mem_map]
    exact fun item _ => stickerLayer_isChain scene.canvas item.1 item.2
  simp only [Parts.statements, Parts.built, List.forall_mem_append, List.forall_mem_cons]
  exact ⟨⟨mainStatement_isChain of.main blank, base,
    ⟨stickers, captions_isChain of unquoted⟩, stack_isChain of.overlays⟩,
    lockStatements_isChain _ _⟩

theorem Pad.bracket_notMem (pad : Pad) : ']' ∉ pad.name.toList := by
  rw [name_toList, List.mem_append]
  rintro (letter | digit)
  · cases pad <;> simp [stem] at letter
  · have bracket := isDigit_of_mem_digits digit
    contradiction

theorem bracket_notMem_videoStream (input : Nat) : ']' ∉ (videoStream input).toList := by
  rw [videoStream_toList, List.mem_append]
  rintro (digit | letter)
  · have bracket := Nat.isDigit_of_mem_toDigits (by decide) (by decide) digit
    contradiction
  · revert letter
    decide

/-- Every statement of a program can be told from its neighbours. -/
theorem programOf_isReadable {p : Program} (built : programOf settings scene kind fontPaths = .ok p)
    (blank : Text.isBlankText scene.content.rawFilter = true)
    (unquoted : ∀ path ∈ fontPaths, '\'' ∉ path.toList) : ∀ s ∈ p.statements, s.IsReadable := by
  have tree := programOf_isTree built
  obtain ⟨parts, of, rfl⟩ := programOf_eq_ok.mp built
  have written := statements_isChain of blank unquoted
  have outputs := statements_outputs of
  rw [Program.addAll_eq, List.nil_append] at tree ⊢
  have produced : ∀ pad ∈ (parts.statements settings scene kind).map Statement.output,
      ']' ∉ pad.toList := by
    rw [outputs, List.forall_mem_map]
    exact fun pad _ => pad.bracket_notMem
  intro s member
  refine ⟨fun pad read => ?_, written s member, produced _ (List.mem_map_of_mem member)⟩
  rcases tree.stream_or_pad member read with stream | pad
  · obtain ⟨input, _, rfl⟩ := List.mem_map.mp stream
    exact bracket_notMem_videoStream input
  · exact produced _ pad

/-- Whatever texts, colours and names a scene holds, the engine reads its program as the statements that
it was composed of, each with its own pads and chain, if the main medium is not filtered as asked and
no font's path has a quote in it. -/
theorem compile_readStatements (assets : AssetResolver) (settings : Settings) (scene : Scene)
    (kind : MediaKind) {c : Composition} {fontPaths : List String}
    (composed : compile assets settings scene kind = .ok c)
    (resolved : resolveAssets assets settings scene = .ok (c.stickerPaths, fontPaths))
    (blank : Text.isBlankText scene.content.rawFilter = true)
    (unquoted : ∀ path ∈ fontPaths, '\'' ∉ path.toList) :
    readStatements? c.program.render = some c.program.statements := by
  obtain ⟨stickers, fonts, program, source, found, built, _, _, rfl⟩ := compile_eq_ok.mp composed
  obtain ⟨-, rfl⟩ := Prod.mk.inj (Except.ok.inj (found.symm.trans resolved))
  obtain ⟨last, ends, _⟩ := (programOf_isTree built).output_last
  have nonempty : program.statements ≠ [] := by
    intro empty
    simp [empty] at ends
  exact Program.readStatements?_render nonempty (programOf_isReadable built blank unquoted)

/-- A greeting that tries to end its quotes and to go on with statements of its own. -/
def intruder : Scene :=
  { greeting with captions := greeting.captions.map fun caption =>
      { caption with
        text := "'; [base0] null [main], \\' <br/> [0:v][1:v] overlay"
        color := some "[']" } }

/-- The intruder is composed, and all that it says stays between quotes. -/
theorem intruder_readStatements :
    ∃ c, compile fullShelf {} intruder .video = .ok c ∧
      resolveAssets fullShelf {} intruder = .ok (c.stickerPaths, ["Inter-Medium.ttf"]) ∧
      Text.isBlankText intruder.content.rawFilter = true ∧
      (∀ path ∈ ["Inter-Medium.ttf"], '\'' ∉ path.toList) ∧
      readStatements? c.program.render = some c.program.statements := by
  have composes : (compile fullShelf {} intruder .video).toOption.isSome = true := by
    decide +kernel
  have resolves : resolveAssets fullShelf {} intruder = .ok ([], ["Inter-Medium.ttf"]) := by
    decide +kernel
  have blank : Text.isBlankText intruder.content.rawFilter = true := by decide
  have unquoted : ∀ path ∈ ["Inter-Medium.ttf"], '\'' ∉ path.toList := by decide
  cases composed : compile fullShelf {} intruder .video with
  | error fault => simp [composed, Except.toOption] at composes
  | ok c =>
    have resolved : resolveAssets fullShelf {} intruder = .ok (c.stickerPaths, ["Inter-Medium.ttf"]) := by
      obtain ⟨stickers, fonts, _, _, found, _, _, _, rfl⟩ := compile_eq_ok.mp composed
      obtain ⟨rfl, -⟩ := Prod.mk.inj (Except.ok.inj (found.symm.trans resolves))
      exact resolves
    exact ⟨c, rfl, resolved, blank, unquoted,
      compile_readStatements fullShelf {} intruder .video composed resolved blank unquoted⟩

end Montage.Composition
