import Montage.Form.Basic
import Montage.Number.Numeral

/-! # Values of forms

Numbers and booleans may also be written as text, and each may stand for the other where that makes
sense. Text stands for nothing but itself, and must hold no half of a character.
-/

namespace Montage.Form

/-- Whether a character is white space around a written number. -/
def isMargin (c : Char) : Bool := Text.isBlank c && !(28 ≤ c.toNat && c.toNat ≤ 31)

/-- A text without the white space around it. -/
def trimMargin (s : List Char) : List Char := Text.stripWhere isMargin s

/-- Whether two underscores follow each other. -/
def hasDoubleUnderscore : List Char → Bool
  | '_' :: '_' :: _ => true
  | _ :: rest => hasDoubleUnderscore rest
  | [] => false

/-- A text without its underscores, if they are single and not at its ends. -/
def dropSeparators? (s : List Char) : Option (List Char) :=
  if s.head? = some '_' ∨ s.getLast? = some '_' ∨ hasDoubleUnderscore s then none
  else some (s.filter (· != '_'))

/-- Reads text. -/
def text : FormReader String
  | .str s => .ok s
  | .broken _ => refuse .brokenText
  | _ => refuse .notText

/-- Reads text that is not empty. -/
def filledText : FormReader String
  | .str s => if s = "" then refuse .emptyText else .ok s
  | .broken _ => refuse .brokenText
  | _ => refuse .notText

/-- Reads text that has to be one of some choices. -/
def choice {α : Type} (choices : List (String × α)) (value : Json) : Except FormFault α :=
  let refused := refuse (.notAmong (choices.map Prod.fst))
  match value with
  | .str s =>
    match choices.lookup s with
    | some found => .ok found
    | none => refused
  | .broken _ => refuse .brokenText
  | _ => refused

/-- The number that a text stands for. -/
def writtenNumber? (s : List Char) : Option Binary64 :=
  match Numeral.readPlain (trimMargin s) with
  | some x => some x
  | none => (dropSeparators? s).bind Numeral.readPlain

/-- Reads a number. -/
def number : FormReader Binary64
  | .num x => .ok x
  | .int n =>
    match Binary64.ofInt? n with
    | .ok x => .ok x
    | .error _ => refuse .notNumber
  | .bool b => .ok (if b then 1 else 0)
  | .str s =>
    match writtenNumber? s.toList with
    | some x => .ok x
    | none => refuse .unreadableNumber
  | .broken _ => refuse .brokenText
  | _ => refuse .notNumber

/-- A text without a fraction of zeros at its end; the fraction has one zero at least. -/
def dropZeroFraction (s : List Char) : List Char :=
  let zeros := s.reverse.takeWhile (· == '0')
  match s.reverse.drop zeros.length with
  | '.' :: whole => if zeros = [] then s else whole.reverse
  | _ => s

/-- The text from the first digit that counts, with the sign that may stand before it; of nothing but
zeros the last. Underscores among the zeros are passed over. `last` is the character before. -/
def dropLeadingZeros (last : Char) : List Char → Option (List Char)
  | [] => some [last]
  | c :: rest =>
    if c = '0' ∨ c = '_' then dropLeadingZeros c rest
    else if c = '-' ∨ c.isDigit then some (c :: rest)
    else none

/-- The plain text of an integer that was written with margins, a plus sign, zeros at its start, a
fraction of zeros or underscores. -/
def plainInteger? (s : List Char) : Option (List Char) := do
  let trimmed := trimMargin s
  let unsigned ← match trimmed with
    | '+' :: '-' :: _ => none
    | '+' :: rest => some rest
    | other => some other
  let short ← match dropZeroFraction unsigned with
    | '0' :: rest => dropLeadingZeros '0' rest
    | c :: rest => if c = '-' ∨ c.isDigit then some (c :: rest) else none
    | [] => none
  return (dropSeparators? short).getD short

/-- The integer that a text is the plain writing of. The text counts as too long as soon as its sign
and digits are, whatever follows them. -/
def plainInteger (s : List Char) : Except FormFault Int :=
  let (sign, body) := match s with
    | '-' :: rest => (['-'], rest)
    | other => ([], other)
  let digits := body.takeWhile Char.isDigit
  if digits.head? = some '0' ∧ body ≠ ['0'] ∨ digits = [] then refuse .unreadableInteger
  else if integerDigitLimit < sign.length + digits.length then refuse .oversizedInteger
  else if digits ≠ body then refuse .unreadableInteger
  else
    let magnitude : Int := foldDigits 0 (digits.map Numeral.asciiValue)
    .ok (if sign = [] then magnitude else -magnitude)

/-- The integer that a text stands for: as it is, or else once it has been made plain. -/
def writtenInteger (s : List Char) : Except FormFault Int :=
  match plainInteger s, plainInteger? s with
  | .error { problem := .unreadableInteger, .. }, some plain => plainInteger plain
  | found, _ => found

/-- Whether an integer fits in a machine word with sign. -/
def isWord (n : Int) : Bool := -9223372036854775808 ≤ n && n ≤ 9223372036854775807

/-- The integer that a double is. The least machine word counts as too large. -/
def wholeNumber (x : Binary64) : Except FormFault Int :=
  match x.toRat? with
  | none => refuse .infiniteInteger
  | some r =>
    if r.den = 1 then (if isWord r.num && isWord (-r.num) then .ok r.num else refuse .oversizedInteger)
    else refuse .fractionalInteger

/-- Reads an integer. -/
def integer : FormReader Int
  | .int n => .ok n
  | .bool b => .ok (if b then 1 else 0)
  | .num x => wholeNumber x
  | .str s => writtenInteger s.toList
  | .broken _ => refuse .brokenText
  | _ => refuse .notInteger

/-- The words for the two truth values. -/
def truthWords : List (String × Bool) :=
  [("0", false), ("off", false), ("f", false), ("false", false), ("n", false), ("no", false),
    ("1", true), ("on", true), ("t", true), ("true", true), ("y", true), ("yes", true)]

/-- The truth value that an integer stands for. -/
def truthOfInteger (n : Int) : Except FormFault Bool :=
  if n = 0 then .ok false
  else if n = 1 then .ok true
  else if isWord n then refuse .unreadableBoolean
  else refuse .notBoolean

/-- Reads a truth value. -/
def boolean : FormReader Bool
  | .bool b => .ok b
  | .int n => truthOfInteger n
  | .num x =>
    match wholeNumber x with
    | .ok n => truthOfInteger n
    | .error _ => refuse .notBoolean
  | .str s =>
    match truthWords.lookup (String.ofList (s.toList.map Char.toLower)) with
    | some b => .ok b
    | none => refuse .unreadableBoolean
  | .broken _ => refuse .brokenText
  | _ => refuse .notBoolean

/-- The bounds of a number. The upper bound is checked first, and no number is within any bound if it is
not a number. -/
structure Bounds where
  above : Option Int := none
  least : Option Int := none
  most : Option Int := none
  deriving DecidableEq, Repr

/-- Refuses a value unless it is on the right side of a bound. -/
def checkBound {α : Type} (bound : Option Int) (isWithin : Int → Bool) (problem : Int → FormProblem)
    (value : α) : Except FormFault α :=
  match bound with
  | some bound => if isWithin bound then .ok value else refuse (problem bound)
  | none => .ok value

/-- Reads a number within bounds. -/
def boundedNumber (bounds : Bounds) : FormReader Binary64 := fun value => do
  let x ← number value
  let x ← checkBound bounds.most (fun bound => x.le (Binary64.ofInt bound)) .aboveBound x
  let x ← checkBound bounds.least (fun bound => (Binary64.ofInt bound).le x) .belowBound x
  checkBound bounds.above (fun bound => (Binary64.ofInt bound).lt x) .notAbove x

/-- Reads an integer within bounds. -/
def boundedInteger (bounds : Bounds) : FormReader Int := fun value => do
  let n ← integer value
  let n ← checkBound bounds.most (fun bound => n ≤ bound) .aboveBound n
  let n ← checkBound bounds.least (fun bound => bound ≤ n) .belowBound n
  checkBound bounds.above (fun bound => bound < n) .notAbove n

end Montage.Form
