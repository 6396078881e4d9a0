import Montage.Graph.Program

/-! # Reading a program back

The engine takes the text of a program apart before it looks at any filter. Between single quotes every
character stands for itself, and so does the one after a backslash outside of them; otherwise a
semicolon ends a statement and square brackets enclose the name of a pad. A program is read back as the
statements that it consists of if their chains keep semicolons and opening brackets between quotes.
-/

namespace Montage.Graph

/-- A piece of a statement: the name of a pad in brackets, or a text outside of them. -/
inductive Piece where
  | label (pad : List Char)
  | text (characters : List Char)
  deriving DecidableEq, Repr

namespace Lexer

/-- Where the next character stands: in the open, between quotes, after a backslash, or in brackets. -/
inductive Mode where
  | plain
  | quoted
  | escaped
  | label
  deriving DecidableEq, Repr

/-- Where the character after this one stands. -/
def Mode.next : Mode → Char → Mode
  | .plain, c =>
    if c = '\'' then .quoted else if c = '\\' then .escaped else if c = '[' then .label else .plain
  | .quoted, c => if c = '\'' then .plain else .quoted
  | .escaped, _ => .plain
  | .label, c => if c = ']' then .plain else .label

/-- Whether a character ends a statement or opens a label. -/
def Mode.breaks (mode : Mode) (c : Char) : Bool := mode = .plain && (c = ';' || c = '[')

/-- Puts a piece in front of the first statement. -/
def addPiece (piece : Piece) : List (List Piece) → List (List Piece)
  | [] => [[piece]]
  | pieces :: statements => (piece :: pieces) :: statements

/-- Puts a character in front of the text that the first statement starts with. -/
def extendText (c : Char) : List (List Piece) → List (List Piece)
  | (.text characters :: pieces) :: statements => (.text (c :: characters) :: pieces) :: statements
  | statements => addPiece (.text [c]) statements

/-- Puts a character in front of the label that the first statement starts with. -/
def extendLabel (c : Char) : List (List Piece) → List (List Piece)
  | (.label pad :: pieces) :: statements => (.label (c :: pad) :: pieces) :: statements
  | statements => statements

/-- The statements of a text in pieces; none if a quote, a backslash or a bracket is left open. -/
def lex : Mode → List Char → Option (List (List Piece))
  | .plain, [] => some [[]]
  | _, [] => none
  | .plain, c :: rest =>
    if c = ';' then ([] :: ·) <$> lex .plain rest
    else if c = '[' then lex .label rest
    else extendText c <$> lex (Mode.next .plain c) rest
  | .label, c :: rest =>
    if c = ']' then addPiece (.label []) <$> lex .plain rest else extendLabel c <$> lex .label rest
  | mode, c :: rest => extendText c <$> lex (mode.next c) rest

/-- Where the text after this one stands, if no statement ends in it and no label is opened. -/
def Mode.through : Mode → List Char → Option Mode
  | mode, [] => some mode
  | mode, c :: rest => if mode.breaks c then none else (mode.next c).through rest

theorem Mode.through_append (mode : Mode) (first second : List Char) :
    mode.through (first ++ second) = (mode.through first).bind fun after => after.through second := by
  induction first generalizing mode with
  | nil => rfl
  | cons c rest ih =>
    simp only [List.cons_append, through]
    split
    · rfl
    · exact ih _

/-- Outside of brackets a character that breaks nothing belongs to a text, and so does the next one. -/
theorem lex_character {mode : Mode} {c : Char} (outside : mode ≠ .label)
    (goesOn : mode.breaks c = false) (rest : List Char) :
    mode.next c ≠ .label ∧ lex mode (c :: rest) = extendText c <$> lex (mode.next c) rest := by
  cases mode with
  | plain =>
    simp only [Mode.breaks, decide_true, Bool.true_and, Bool.or_eq_false_iff, decide_eq_false_iff_not]
      at goesOn
    refine ⟨?_, by rw [lex, if_neg goesOn.1, if_neg goesOn.2]⟩
    simp only [Mode.next, goesOn.2, ↓reduceIte]
    split
    · exact Mode.noConfusion
    · split <;> exact Mode.noConfusion
  | quoted =>
    refine ⟨?_, rfl⟩
    simp only [Mode.next]
    split <;> simp
  | escaped => exact ⟨Mode.noConfusion, rfl⟩
  | label => contradiction

/-- A text in which nothing breaks is put in front of what follows it, character by character. -/
theorem lex_text {mode after : Mode} {text : List Char} (outside : mode ≠ .label)
    (inert : mode.through text = some after) (rest : List Char) :
    lex mode (text ++ rest) = (fun statements => text.foldr extendText statements) <$> lex after rest := by
  -- Quotes may open and close on the way, so the induction is over all modes outside of brackets.
  induction text generalizing mode with
  | nil =>
    obtain rfl := Option.some.inj inert
    simp
  | cons c text ih =>
    simp only [Mode.through] at inert
    split at inert
    · contradiction
    · next goesOn =>
      obtain ⟨stays, here⟩ := lex_character outside (Bool.eq_false_iff.mpr goesOn) (text ++ rest)
      rw [List.cons_append, here, ih stays inert]
      simp [Function.comp_def]

theorem foldr_extendText {text : List Char} (nonempty : text ≠ []) (pad : List Char)
    (pieces : List Piece) (statements : List (List Piece)) :
    text.foldr extendText ((.label pad :: pieces) :: statements) =
      (.text text :: .label pad :: pieces) :: statements := by
  induction text with
  | nil => contradiction
  | cons c rest ih =>
    cases rest with
    | nil => rfl
    | cons d rest => rw [List.foldr_cons, ih (List.cons_ne_nil d rest)]; rfl

/-- A name in brackets is read as a label. -/
theorem lex_label {pad : List Char} (closed : ']' ∉ pad) (rest : List Char) :
    lex .label (pad ++ ']' :: rest) = addPiece (.label pad) <$> lex .plain rest := by
  induction pad with
  | nil => rfl
  | cons c pad ih =>
    simp only [List.mem_cons, not_or] at closed
    rw [List.cons_append, lex, if_neg (Ne.symm closed.1), ih closed.2]
    cases lex .plain rest with
    | none => rfl
    | some statements => cases statements <;> rfl

end Lexer

/-- A text that opens no statement and no label, and leaves neither a quote nor a backslash open. -/
def IsInert (text : String) : Prop := Lexer.Mode.plain.through text.toList = some .plain

instance (text : String) : Decidable (IsInert text) := inferInstanceAs (Decidable (_ = _))

theorem IsInert.append {first second : String} (here : IsInert first) (there : IsInert second) :
    IsInert (first ++ second) := by
  rw [IsInert] at here there ⊢
  rw [String.toList_append, Lexer.Mode.through_append, here, Option.bind_some, there]

theorem IsInert.intercalate {separator : String} (between : IsInert separator) {texts : List String}
    (inert : ∀ text ∈ texts, IsInert text) : IsInert (separator.intercalate texts) := by
  induction texts with
  | nil => rfl
  | cons text rest ih =>
    have first := inert text List.mem_cons_self
    have others := ih fun other member => inert other (List.mem_cons_of_mem _ member)
    cases rest with
    | nil => simpa using first
    | cons next rest =>
      rw [String.intercalate_cons_cons]
      exact (first.append between).append others

/-- A text that can stand between labels. -/
structure IsChain (text : String) : Prop where
  nonempty : text ≠ ""
  inert : IsInert text

/-- A statement that can be told from its neighbours: its pads keep within their brackets, and its
chain opens nothing. -/
structure Statement.IsReadable (s : Statement) : Prop where
  inputs : ∀ pad ∈ s.inputs, ']' ∉ pad.toList
  chain : IsChain s.chain
  output : ']' ∉ s.output.toList

/-- The pieces that a statement is written in. -/
def Statement.pieces (s : Statement) : List Piece :=
  s.inputs.map (Piece.label ·.toList) ++ [.text s.chain.toList, .label s.output.toList]

/-- The labels that a statement starts with, and the other pieces. -/
def leadingLabels : List Piece → List String × List Piece
  | .label pad :: pieces => ((String.ofList pad :: (leadingLabels pieces).1), (leadingLabels pieces).2)
  | pieces => ([], pieces)

/-- The statement that is written in pieces: any labels, a text and one more label. -/
def Statement.ofPieces? (pieces : List Piece) : Option Statement :=
  match leadingLabels pieces with
  | (inputs, [.text chain, .label output]) =>
    some ⟨inputs, String.ofList chain, String.ofList output⟩
  | _ => none

/-- The statements of a program's text; none if the text is no program. -/
def readStatements? (text : String) : Option (List Statement) :=
  (Lexer.lex .plain text.toList).bind fun statements => statements.mapM Statement.ofPieces?

open Lexer

theorem Statement.ofPieces?_pieces (s : Statement) : ofPieces? s.pieces = some s := by
  have split : leadingLabels s.pieces = (s.inputs, [.text s.chain.toList, .label s.output.toList]) := by
    obtain ⟨inputs, chain, output⟩ := s
    simp only [pieces]
    induction inputs with
    | nil => rfl
    | cons pad inputs ih => simp [leadingLabels, ih]
  simp [ofPieces?, split]

theorem toList_label (pad : String) : (label pad).toList = '[' :: (pad.toList ++ [']']) := by
  simp [label]

theorem lex_inputs {inputs : List String} (closed : ∀ pad ∈ inputs, ']' ∉ pad.toList)
    (rest : List Char) (pieces : List Piece) (statements : List (List Piece))
    (after : lex .plain rest = some (pieces :: statements)) :
    lex .plain ((String.join (inputs.map label)).toList ++ rest) =
      some ((inputs.map (Piece.label ·.toList) ++ pieces) :: statements) := by
  induction inputs with
  | nil => simpa using after
  | cons pad inputs ih =>
    have others := ih fun other member => closed other (List.mem_cons_of_mem _ member)
    have here := lex_label (closed pad List.mem_cons_self)
      ((String.join (inputs.map label)).toList ++ rest)
    rw [others] at here
    simpa [toList_label, lex, addPiece] using here

/-- A readable statement is read as its pieces, up to where the next one starts. -/
theorem lex_statement {s : Statement} (readable : s.IsReadable) {rest : List Char}
    {statements : List (List Piece)} (after : lex .plain rest = some ([] :: statements)) :
    lex .plain (s.render.toList ++ rest) = some (s.pieces :: statements) := by
  have output : lex .plain ((label s.output).toList ++ rest) =
      some ([.label s.output.toList] :: statements) := by
    have here := lex_label readable.output rest
    rw [after] at here
    simpa [toList_label, lex, addPiece] using here
  have chain : lex .plain (s.chain.toList ++ ((label s.output).toList ++ rest)) =
      some ([.text s.chain.toList, .label s.output.toList] :: statements) := by
    have characters : s.chain.toList ≠ [] := by simpa using readable.chain.nonempty
    rw [lex_text Mode.noConfusion readable.chain.inert, output]
    exact congrArg some (foldr_extendText characters _ [] statements)
  have whole := lex_inputs readable.inputs _ _ _ chain
  simpa [Statement.render, Statement.pieces] using whole

theorem lex_render {statements : List Statement} (nonempty : statements ≠ [])
    (readable : ∀ s ∈ statements, s.IsReadable) :
    lex .plain (";".intercalate (statements.map Statement.render)).toList =
      some (statements.map Statement.pieces) := by
  induction statements with
  | nil => contradiction
  | cons s rest ih =>
    have first := readable s List.mem_cons_self
    cases rest with
    | nil =>
      have last : lex .plain (s.render.toList ++ []) = some [s.pieces] := lex_statement first rfl
      simpa using last
    | cons next rest =>
      -- A statement ends at its semicolon, after which a shorter program is read.
      have others := ih (List.cons_ne_nil _ _) fun t member =>
        readable t (List.mem_cons_of_mem _ member)
      have after : lex .plain (';' :: (";".intercalate ((next :: rest).map Statement.render)).toList) =
          some ([] :: (next :: rest).map Statement.pieces) := by
        rw [lex, if_pos rfl, others]
        rfl
      have whole := lex_statement first after
      simpa using whole

/-- A program of readable statements is read back as its statements. -/
theorem Program.readStatements?_render {p : Program} (nonempty : p.statements ≠ [])
    (readable : ∀ s ∈ p.statements, s.IsReadable) : readStatements? p.render = some p.statements := by
  rw [readStatements?, Program.render, lex_render nonempty readable, Option.bind_some]
  generalize p.statements = statements
  induction statements with
  | nil => rfl
  | cons s rest ih => simp [Statement.ofPieces?_pieces, ih]

example : readStatements? "[0:v]drawtext=text='a;[b]'\\''c'[out];[out]null[end]" = some [
    ⟨["0:v"], "drawtext=text='a;[b]'\\''c'", "out"⟩, ⟨["out"], "null", "end"⟩] := by decide

end Montage.Graph
