import Mathlib.Data.List.Basic
import Montage.Caption.Text

/-! # Quoted values are read back

An option of the engine is read twice. The quotes of its value go first: what stands between them is taken as it is, and
outside of them a backslash makes the next character stand for itself. After that every backslash gives way to the
character behind it. A text in quotes is read back whatever it says. A path in quotes is read back unless it has a quote
in it: the quote is written as if a backslash protected it there, ends the quotes instead, and the last quote opens them
again.
-/

namespace Montage.Caption

/-! ## Reading -/

/-- Where a character of a value stands: outside of the quotes, between them, or behind a backslash outside of them. -/
inductive Standing where
  | outside
  | between
  | escaped
  deriving DecidableEq, Repr

namespace Standing

/-- Where the character after this one stands. -/
def next : Standing → Char → Standing
  | .outside, c => if c = '\'' then .between else if c = '\\' then .escaped else .outside
  | .between, c => if c = '\'' then .outside else .between
  | .escaped, _ => .outside

/-- Whether a character is taken as it is: quotes around a text are not, nor are backslashes outside of them. -/
def takes : Standing → Char → Bool
  | .outside, c => c ≠ '\'' && c ≠ '\\'
  | .between, c => c ≠ '\''
  | .escaped, _ => true

/-- What is taken of a text, and where the text after it stands. -/
def scan : Standing → List Char → List Char × Standing
  | standing, [] => ([], standing)
  | standing, c :: rest =>
    let (taken, last) := (standing.next c).scan rest
    (if standing.takes c then c :: taken else taken, last)

theorem scan_append (standing : Standing) (first second : List Char) : standing.scan (first ++ second) =
    ((standing.scan first).1 ++ ((standing.scan first).2.scan second).1,
      ((standing.scan first).2.scan second).2) := by
  induction first generalizing standing with
  | nil => rfl
  | cons c rest ih =>
    rw [List.cons_append, scan, scan, ih]
    cases standing.takes c <;> rfl

end Standing

/-- A value without its quotes; none if a quote or a backslash is left open. -/
def unquote? (value : List Char) : Option (List Char) :=
  match Standing.outside.scan value with
  | (taken, .outside) => some taken
  | _ => none

/-- A text with the second character in place of every pair of a backslash and a character. -/
def unescape : List Char → List Char
  | '\\' :: c :: rest => c :: unescape rest
  | c :: rest => c :: unescape rest
  | [] => []

/-- What the engine makes of a value. -/
def read? (value : List Char) : Option (List Char) := (unquote? value).map unescape

/-- A text between quotes. -/
def quoted (s : List Char) : List Char := '\'' :: (s ++ ['\''])

theorem scan_quoted (s : List Char) : (Standing.outside.scan (quoted s)).2 =
    (Standing.between.scan s).2.next '\'' := by
  have opens : Standing.outside.next '\'' = .between := rfl
  rw [quoted, Standing.scan, opens, Standing.scan_append]
  rfl

/-- A text that ends between the quotes around it is taken as it is there. -/
theorem unquote?_quoted_of_between {s taken : List Char} (inside : Standing.between.scan s = (taken, .between)) :
    unquote? (quoted s) = some taken := by
  have whole : Standing.outside.scan (quoted s) = (taken, .outside) := by
    have opens : Standing.outside.next '\'' = .between := rfl
    rw [quoted, Standing.scan, opens, Standing.scan_append, inside]
    simp [Standing.scan, Standing.next, Standing.takes]
  rw [unquote?, whole]

/-- The quote behind a text that has left the quotes around it is left open. -/
theorem unquote?_quoted_of_outside {s : List Char} (left : (Standing.between.scan s).2 = .outside) :
    unquote? (quoted s) = none := by
  have opened := scan_quoted s
  rw [left] at opened
  rw [unquote?]
  split
  · next taken scanned =>
    rw [scanned] at opened
    contradiction
  · rfl

/-- A text whose characters are written one by one is scanned one by one, if each of them ends where it begins. -/
theorem scan_flatMap {standing : Standing} {write keep : Char → List Char} {s : List Char}
    (each : ∀ c ∈ s, standing.scan (write c) = (keep c, standing)) :
    standing.scan (s.flatMap write) = (s.flatMap keep, standing) := by
  induction s with
  | nil => rfl
  | cons c rest ih =>
    obtain ⟨here, others⟩ := List.forall_mem_cons.mp each
    rw [List.flatMap_cons, Standing.scan_append, here, ih others, List.flatMap_cons]

/-! ## Backslashes -/

/-- A character behind a backslash, if it is a backslash itself or a mark. -/
def guarded (marks : List Char) (c : Char) : List Char := if c = '\\' ∨ c ∈ marks then ['\\', c] else [c]

theorem unescape_guarded (marks : List Char) (c : Char) (rest : List Char) :
    unescape (guarded marks c ++ rest) = c :: unescape rest := by
  unfold guarded
  split
  · rfl
  · next plain =>
    rw [List.singleton_append, unescape]
    rintro d others backslash -
    exact plain (.inl backslash)

/-- Backslashes in front of backslashes and marks give way to what is behind them. -/
theorem unescape_flatMap_guarded (marks s : List Char) : unescape (s.flatMap (guarded marks)) = s := by
  induction s with
  | nil => rfl
  | cons c rest ih => rw [List.flatMap_cons, unescape_guarded, ih]

/-! ## Texts -/

/-- A text in which another one is written for each occurrence of a character. -/
def rewritten (c : Char) (other s : List Char) : List Char := s.flatMap fun d => if d = c then other else [d]

/-- A text may be escaped one kind of character after the other, if the backslashes come first. -/
theorem escapeText_eq_rewritten (s : List Char) : escapeText s =
    rewritten '\'' ['\'', '\\', '\'', '\''] (rewritten ':' ['\\', ':'] (rewritten '%' ['\\', '%']
      (rewritten '\\' ['\\', '\\'] s))) := by
  simp only [escapeText, rewritten, List.flatMap_assoc]
  refine List.flatMap_congr fun c _ => ?_
  unfold escapeChar
  split_ifs with backslash percent colon quote
  all_goals simp_all

theorem escapeText_append (first second : List Char) :
    escapeText (first ++ second) = escapeText first ++ escapeText second := List.flatMap_append

theorem scan_escapeChar (c : Char) :
    Standing.between.scan (escapeChar c) = (guarded ['%', ':'] c, .between) := by
  unfold escapeChar guarded
  split_ifs with backslash percent colon quote
  all_goals simp_all [Standing.scan, Standing.next, Standing.takes]

theorem read?_escapeText (s : List Char) : read? (quoted (escapeText s)) = some s := by
  have inside := scan_flatMap (s := s) fun c _ => scan_escapeChar c
  rw [read?, escapeText, unquote?_quoted_of_between inside, Option.map_some, unescape_flatMap_guarded]

/-- Escaping rewrites one kind of character after the other, backslashes first, and a text of any characters in any
order is read back from between its quotes. So no two texts are escaped alike, and texts are escaped one after the
other. -/
theorem escapeText_isRead :
    (∀ s, escapeText s = rewritten '\'' ['\'', '\\', '\'', '\''] (rewritten ':' ['\\', ':']
      (rewritten '%' ['\\', '%'] (rewritten '\\' ['\\', '\\'] s)))) ∧
    (∀ s, read? (quoted (escapeText s)) = some s) ∧
    Function.Injective escapeText ∧
    ∀ first second, escapeText (first ++ second) = escapeText first ++ escapeText second := by
  refine ⟨escapeText_eq_rewritten, read?_escapeText, ?_, escapeText_append⟩
  intro first second same
  have read := read?_escapeText first
  rw [same, read?_escapeText] at read
  exact (Option.some.inj read).symm

/-! ## Paths -/

theorem scan_escapePathChar {c : Char} (plain : c ≠ '\'') :
    Standing.between.scan (escapePathChar c) = (guarded [':'] c, .between) := by
  unfold escapePathChar guarded
  split_ifs with backslash colon
  all_goals simp_all [Standing.scan, Standing.next, Standing.takes]

/-- Outside of quotes every character of a path is read back at once, quotes among them. -/
theorem scan_escapePathChar_outside (c : Char) : Standing.outside.scan (escapePathChar c) = ([c], .outside) := by
  unfold escapePathChar
  split_ifs with backslash colon quote
  all_goals simp_all [Standing.scan, Standing.next, Standing.takes]

/-- A path without a quote stays between its quotes. -/
theorem scan_escapePath {path : List Char} (unquoted : '\'' ∉ path) :
    Standing.between.scan (escapePath path) = (path.flatMap (guarded [':']), .between) :=
  scan_flatMap fun _ member => scan_escapePathChar fun same => unquoted (same ▸ member)

/-- The first quote in a path leaves its backslash behind and ends the quotes around the path. -/
theorem scan_escapePath_quote {front : List Char} (unquoted : '\'' ∉ front) (rest : List Char) :
    Standing.between.scan (escapePath (front ++ '\'' :: rest)) =
      (front.flatMap (guarded [':']) ++ '\\' :: rest, .outside) := by
  have inside := scan_escapePath unquoted
  have outside := scan_flatMap (s := rest) fun c _ => scan_escapePathChar_outside c
  have quote : Standing.between.scan (escapePathChar '\'') = (['\\'], .outside) := rfl
  rw [escapePath] at inside ⊢
  rw [List.flatMap_append, List.flatMap_cons, Standing.scan_append, inside, Standing.scan_append, quote, outside,
    List.flatMap_singleton']
  rfl

/-- A path leaves the quotes around it exactly if it has a quote in it, and is read back exactly if it does not. A path
that leaves them is never read to its end, since the quote behind it is open then. -/
theorem escapePath_isRead (path : List Char) :
    (Standing.between.scan (escapePath path)).2 = (if '\'' ∈ path then .outside else .between) ∧
    read? (quoted (escapePath path)) = if '\'' ∈ path then none else some path := by
  by_cases quote : '\'' ∈ path
  · rw [if_pos quote, if_pos quote]
    obtain ⟨front, rest, rfl, unquoted⟩ := List.eq_append_cons_of_mem quote
    have left : (Standing.between.scan (escapePath (front ++ '\'' :: rest))).2 = .outside := by
      rw [scan_escapePath_quote unquoted]
    exact ⟨left, by rw [read?, unquote?_quoted_of_outside left, Option.map_none]⟩
  · rw [if_neg quote, if_neg quote]
    have inside := scan_escapePath quote
    refine ⟨by rw [inside], ?_⟩
    rw [read?, unquote?_quoted_of_between inside, Option.map_some, unescape_flatMap_guarded]

/-- A path with a quote in it is not read back, though the same text is. -/
theorem apostrophePath_unread :
    read? (quoted (escapePath "it's.ttf".toList)) = none ∧
      read? (quoted (escapeText "it's.ttf".toList)) = some "it's.ttf".toList := by
  decide

end Montage.Caption
