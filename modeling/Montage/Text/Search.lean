/-! # Searching in a text -/

namespace Montage.Text

/-- The text after a given beginning. -/
def afterStart? : List Char → List Char → Option (List Char)
  | [], s => some s
  | _, [] => none
  | a :: start, c :: s => if a = c then afterStart? start s else none

/-- What a reader finds at the first place of a text where it finds anything. -/
def findFirst? {α : Type} (read? : List Char → Option α) : List Char → Option α
  | [] => read? []
  | c :: rest =>
    match read? (c :: rest) with
    | some found => some found
    | none => findFirst? read? rest

/-- Whether a word stands in a text. -/
def mentions (word : String) (s : List Char) : Bool :=
  (findFirst? (afterStart? word.toList) s).isSome

/-- A run of characters of a class in front of a text, at least one. -/
def run? (isPart : Char → Bool) (s : List Char) : Option (List Char) :=
  match s.takeWhile isPart with
  | [] => none
  | found => some found

end Montage.Text
