import Montage.Caption.Drawing
import Montage.Proofs.Caption.Layout
import Montage.Proofs.Caption.Quoting
import Montage.Proofs.Composition.Parts
import Montage.Proofs.Number.Places
import Montage.Proofs.Number.Rounding

/-! # A caption fills its box

The canvas of a caption, the text on it and the place of the text are written apart from each other. All of them go by
the lines of the text that is drawn: the canvas has room for the lines, the spaces between them and a padding around
both, and the formula for the upper edge of the text comes to that padding.
-/

namespace Montage.Caption

/-! ## Formulas -/

/-- A piece of a formula. The height of the picture is the one quantity that a formula names. -/
inductive Token where
  | number (value : Nat)
  | height
  | plus
  | minus
  | times
  | over
  | opening
  | closing
  deriving DecidableEq, Repr

/-- The piece that a character stands for; a blank stands for none. -/
def piece? : Char → Option (List Token)
  | ' ' => some []
  | 'h' => some [.height]
  | '+' => some [.plus]
  | '-' => some [.minus]
  | '*' => some [.times]
  | '/' => some [.over]
  | '(' => some [.opening]
  | ')' => some [.closing]
  | _ => none

/-- The pieces of a text that follows the digits of a number, or no digits. -/
def tokensAfter? : Option Nat → List Char → Option (List Token)
  | pending, [] => some (pending.toList.map .number)
  | pending, c :: rest =>
    if c.isDigit then tokensAfter? (some (10 * pending.getD 0 + (c.toNat - 48))) rest
    else do
      let here ← piece? c
      let others ← tokensAfter? none rest
      return pending.toList.map .number ++ here ++ others

/-- What has been read of a formula behind a parenthesis: what the sum makes of the next term, and the term of the next
factor. -/
structure Frame where
  sum : Rat → Rat := id
  term : Rat → Rat := id

/-- What a formula comes to behind an operator, or behind a term if there is one. The formula stands in `outer`
parentheses, the innermost one first. -/
def evaluate? (h : Rat) (frame : Frame) (outer : List Frame) : Option Rat → List Token → Option Rat
  | none, .number value :: rest => evaluate? h frame outer (some (frame.term value)) rest
  | none, .height :: rest => evaluate? h frame outer (some (frame.term h)) rest
  | none, .opening :: rest => evaluate? h {} (frame :: outer) none rest
  | some term, .times :: rest => evaluate? h { frame with term := (term * ·) } outer none rest
  | some term, .over :: rest => evaluate? h { frame with term := (term / ·) } outer none rest
  | some term, .plus :: rest => evaluate? h { sum := (frame.sum term + ·) } outer none rest
  | some term, .minus :: rest => evaluate? h { sum := (frame.sum term - ·) } outer none rest
  | some term, .closing :: rest =>
    match outer with
    | [] => none
    | around :: outer => evaluate? h around outer (some (around.term (frame.sum term))) rest
  | some term, [] => if outer.isEmpty then some (frame.sum term) else none
  | _, _ => none

/-- What a formula comes to in a picture of a height. -/
def formulaAt? (h : Rat) (formula : String) : Option Rat := (tokensAfter? none formula.toList).bind (evaluate? h {} [] none)

example : formulaAt? 100 "(h - ((24 * 2) + (19 * (2 - 1)))) / 2" = some (33 / 2) := by decide +kernel

theorem tokensAfter?_digits {digits : List Char} (plain : ∀ c ∈ digits, c.isDigit = true) (n : Nat) (rest : List Char) :
    tokensAfter? (some n) (digits ++ rest) = tokensAfter? (some (Nat.ofDigitChars 10 digits n)) rest := by
  induction digits generalizing n with
  | nil => rfl
  | cons c others ih =>
    obtain ⟨here, later⟩ := List.forall_mem_cons.mp plain
    rw [List.cons_append, tokensAfter?, if_pos here, ih later, Nat.ofDigitChars_cons]
    rfl

/-- A numeral is read as the number that it denotes. -/
theorem tokensAfter?_toDigits (n : Nat) (rest : List Char) :
    tokensAfter? none (Nat.toDigits 10 n ++ rest) = tokensAfter? (some n) rest := by
  have plain := isDigit_decimalDigits n
  have value : Nat.ofDigitChars 10 (decimalDigits n) 0 = n := Nat.ofDigitChars_ten_toDigits
  rw [← decimalDigits]
  cases digits : decimalDigits n with
  | nil => exact absurd digits Nat.toDigits_ne_nil
  | cons c others =>
    rw [digits] at plain value
    obtain ⟨here, later⟩ := List.forall_mem_cons.mp plain
    rw [Nat.ofDigitChars_cons] at value
    rw [List.cons_append, tokensAfter?, if_pos here, tokensAfter?_digits later]
    exact congrArg (fun k => tokensAfter? (some k) rest) value

/-- Half of what the lines leave of the height. -/
theorem formulaAt?_place (h : Rat) (size spacing lines : Nat) :
    formulaAt? h ("(h - ((" ++ toString size ++ " * " ++ toString lines ++ ") + (" ++ toString spacing ++ " * (" ++
      toString lines ++ " - 1)))) / 2") = some ((h - (size * lines + spacing * (lines - 1))) / 2) := by
  have tokens : tokensAfter? none ("(h - ((" ++ toString size ++ " * " ++ toString lines ++ ") + (" ++
      toString spacing ++ " * (" ++ toString lines ++ " - 1)))) / 2").toList =
      some [.opening, .height, .minus, .opening, .opening, .number size, .times, .number lines, .closing, .plus,
        .opening, .number spacing, .times, .opening, .number lines, .minus, .number 1, .closing, .closing, .closing,
        .closing, .over, .number 2] := by
    simp [tokensAfter?, tokensAfter?_toDigits, piece?]
  rw [formulaAt?, tokens]
  rfl

/-! ## Measures -/

open Binary64

/-- Letters of any size leave no less than nothing between two lines. -/
theorem lineSpacing_nonneg {letters spacing : Int} (nonneg : 0 ≤ letters) (spaced : lineSpacing letters = .ok spacing) :
    0 ≤ spacing := by
  obtain ⟨x, exact, floored⟩ := bind_eq_ok.mp spaced
  obtain ⟨rfl, finite⟩ := eq_ofInt_of_ofInt? exact
  obtain ⟨size, value⟩ := isFinite_iff.mp finite
  obtain ⟨space, product, rfl⟩ := floor_eq_ok_iff.mp floored
  have whole : (0 : Rat) ≤ letters := by exact_mod_cast nonneg
  have share : (ofRat (4 / 5)).toRat? = some (3602879701896397 / 4503599627370496) := by decide +kernel
  rw [ofInt, mul_ofRat value share whole (by norm_num)] at product
  have least : 0 ≤ space :=
    nonneg_of_ofRat (mul_nonneg (nonneg_of_ofRat whole value) (by norm_num)) product
  exact Rat.le_floor_iff.mpr (by exact_mod_cast least)

/-- The measures of a caption with some lines. -/
structure Layout.IsMeasured (measured : Layout) (lines padding : Int) : Prop where
  letters : 8 ≤ measured.fontSize
  spacing : 0 ≤ measured.lineSpacing
  count : measured.lines = lines
  width : 1 + padding * 2 ≤ measured.boxWidth
  height : measured.boxHeight =
    measured.fontSize * lines + measured.lineSpacing * (lines - 1) + padding * 2

theorem isMeasured_layout {caption : Caption} {canvas : Canvas} {lines padding : Int} {measured : Layout}
    (laid : layout caption canvas lines padding = .ok measured) : measured.IsMeasured lines padding := by
  simp only [layout, bind_eq_ok, pure_eq_ok] at laid
  obtain ⟨left, _, top, _, asked, _, width, _, letters, sized, spacing, spaced, rfl⟩ := laid
  have least : 8 ≤ letters := by
    simp only [fontSize, bind_eq_ok, pure_eq_ok, minFontSize] at sized
    obtain ⟨_, _, _, _, size, _, rfl⟩ := sized
    exact le_max_left 8 size
  exact {
    letters := least
    spacing := lineSpacing_nonneg (by omega) spaced
    count := rfl
    width := by dsimp only; omega
    height := rfl }

/-- The upper edge of a text in its box is at the padding. -/
theorem centred_of_isMeasured {measured : Layout} {breaks : Nat} {padding : Int}
    (measures : measured.IsMeasured (breaks + 1 : Nat) padding) :
    formulaAt? measured.boxHeight ("(h - ((" ++ toString measured.fontSize ++ " * " ++ toString measured.lines ++
      ") + (" ++ toString measured.lineSpacing ++ " * (" ++ toString measured.lines ++ " - 1)))) / 2") =
      some (padding : Rat) := by
  obtain ⟨size, letters⟩ := Int.eq_ofNat_of_zero_le (by have least := measures.letters; omega : 0 ≤ measured.fontSize)
  obtain ⟨space, spacing⟩ := Int.eq_ofNat_of_zero_le measures.spacing
  have height := measures.height
  rw [letters, spacing] at height
  rw [letters, spacing, measures.count, height]
  refine (formulaAt?_place _ size space (breaks + 1)).trans ?_
  push_cast
  congr 1
  ring

/-! ## What is written -/

theorem ofList_quoted (s : List Char) : String.ofList (quoted s) = "'" ++ String.ofList s ++ "'" := by
  rw [quoted, ← List.singleton_append, String.ofList_append, String.ofList_append, String.append_assoc]

/-- What stands in the filters of a caption: the measures of its canvas, and the font, text, letters, colour, upper edge
and spacing of what is drawn on it, with the options of a box behind the text. -/
structure Print where
  width : Int
  height : Int
  path : List Char
  words : List Char
  size : Int
  color : String
  edge : String
  spacing : Int
  box : List String

namespace Print

/-- The filter of the canvas. -/
def canvasFilter (print : Print) (rate : Option Int) : String :=
  s!"color=c=black@0:s={print.width}x{print.height}" ++ rateParameter "r" rate

/-- The filter of the text. -/
def textFilter (print : Print) : String :=
  ":".intercalate ([
    "drawtext=fontfile='" ++ String.ofList print.path ++ "'",
    "text=" ++ String.ofList (quoted print.words),
    s!"fontsize={print.size}",
    s!"fontcolor={print.color}",
    "x=(w-text_w)/2",
    "y=" ++ print.edge,
    s!"line_spacing={print.spacing}"] ++ print.box)

/-- The text that is drawn fits its canvas and stands in the middle of it. -/
structure Fits (print : Print) (padding : Int) (shown : List Char) : Prop where
  drawn : read? (quoted print.words) = some shown
  letters : 8 ≤ print.size
  height : print.height = (shown.count '\n' + 1) * print.size + shown.count '\n' * print.spacing + 2 * padding
  width : 1 + 2 * padding ≤ print.width
  centred : formulaAt? print.height print.edge = some (padding : Rat)

/-- What a caption is written with that has been laid out. -/
def ofLayout (layout : Layout) (path words : List Char) (color : String) (box : List String) : Print where
  width := layout.boxWidth
  height := layout.boxHeight
  path := path
  words := words
  size := layout.fontSize
  color := color
  edge := "(h - ((" ++ toString layout.fontSize ++ " * " ++ toString layout.lines ++ ") + (" ++
    toString layout.lineSpacing ++ " * (" ++ toString layout.lines ++ " - 1)))) / 2"
  spacing := layout.lineSpacing
  box := box

/-- A text that is drawn is written with its layout. -/
theorem exists_textFilter {renderer : Renderer} {caption : Caption} {layout : Layout} {fontPath text : String}
    (drawn : renderer.drawFilter caption (prepare caption.text) layout fontPath = .ok text) :
    ∃ color box, text =
      (ofLayout layout (escapePath fontPath.toList) (escapeText (breakLines caption.text.toList)) color box).textFilter := by
  obtain ⟨color, box, -, -, rfl⟩ := Composition.drawFilter_eq_ok drawn
  refine ⟨color, box, ?_⟩
  have words : "text='" ++ (prepare caption.text).escaped ++ "'" =
      "text=" ++ String.ofList (quoted (escapeText (breakLines caption.text.toList))) := by
    rw [ofList_quoted, ← String.append_assoc, ← String.append_assoc]
    rfl
  have edge : toString "y=(h - ((" = "y=" ++ "(h - ((" := rfl
  simp only [textFilter, ofLayout, words, edge, String.append_assoc]
  rfl

theorem fits_ofLayout {caption : Caption} {measured : Layout} {padding : Int} (path : List Char) (color : String)
    (box : List String) (measures : measured.IsMeasured (prepare caption.text).lines padding) :
    (ofLayout measured path (escapeText (breakLines caption.text.toList)) color box).Fits padding
      (breakLines caption.text.toList) where
  drawn := read?_escapeText _
  letters := measures.letters
  height := by
    have height := measures.height
    simp only [prepare] at height
    simp only [ofLayout, height]
    push_cast
    ring
  width := by
    have width := measures.width
    simp only [ofLayout]
    omega
  centred := centred_of_isMeasured measures

end Print

/-- The canvas of a caption has room for the lines of the text that is drawn, for the spaces between them and for a
padding around them, and the text stands in the middle of it. -/
theorem statements_fit {renderer : Renderer} {caption : Caption} {index : Nat} {fontPath : String}
    {drawn : List Graph.Statement} {measured : Layout}
    (built : renderer.statements caption index fontPath = .ok (drawn, measured)) :
    ∃ (print : Print) (rest : List Graph.Statement),
      drawn = ⟨[], print.canvasFilter renderer.frameRate, s!"tc{index}"⟩ ::
        ⟨[s!"tc{index}"], print.textFilter, s!"tt{index}"⟩ :: rest ∧
      print.path = escapePath fontPath.toList ∧ print.Fits renderer.padding (breakLines caption.text.toList) := by
  simp only [Renderer.statements, bind_eq_ok] at built
  obtain ⟨layout, laid, text, filter, shape⟩ := built
  obtain ⟨color, box, rfl⟩ := Print.exists_textFilter filter
  have fits := Print.fits_ofLayout (escapePath fontPath.toList) color box (isMeasured_layout laid)
  split at shape
  · obtain ⟨rfl, -⟩ := Prod.mk.inj (pure_eq_ok.mp shape)
    exact ⟨Print.ofLayout layout _ _ color box, [], rfl, rfl, fits⟩
  · obtain ⟨rfl, -⟩ := Prod.mk.inj (pure_eq_ok.mp shape)
    exact ⟨Print.ofLayout layout _ _ color box, [_], rfl, rfl, fits⟩

/-- Two lines in a box that is half as wide as its frame. -/
def twoLines : Caption where
  text := "Hello<br/>world"
  x := none
  y := none
  width := some (ofRat (1 / 2))
  height := none
  fontFamily := "Inter"

/-- Two lines as they are drawn with a padding of ten. -/
def twoLinesDrawn : List Graph.Statement := [
  ⟨[], "color=c=black@0:s=560x109", "tc0"⟩,
  ⟨["tc0"], "drawtext=fontfile='f.ttf':text='Hello\nworld':fontsize=32:fontcolor=0xFFFFFF@1:x=(w-text_w)/2:" ++
    "y=(h - ((32 * 2) + (25 * (2 - 1)))) / 2:line_spacing=25", "tt0"⟩]

theorem statements_fit_twoLines :
    (⟨.reel, 10, none⟩ : Renderer).statements twoLines 0 "f.ttf" =
        .ok (twoLinesDrawn, ⟨0, 0, 560, 109, 32, 25, 2⟩) ∧
      ∃ (print : Print) (rest : List Graph.Statement),
        twoLinesDrawn = ⟨[], print.canvasFilter none, "tc0"⟩ :: ⟨["tc0"], print.textFilter, "tt0"⟩ :: rest ∧
        print.path = "f.ttf".toList ∧ print.Fits 10 "Hello\nworld".toList := by
  have built : (⟨.reel, 10, none⟩ : Renderer).statements twoLines 0 "f.ttf" =
      .ok (twoLinesDrawn, ⟨0, 0, 560, 109, 32, 25, 2⟩) := by decide +kernel
  exact ⟨built, statements_fit built⟩

end Montage.Caption
