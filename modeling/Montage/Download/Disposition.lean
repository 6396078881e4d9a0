import Montage.Text.Blank
import Montage.Text.Letter
import Montage.Text.Percent
import Montage.Text.Search

/-! # File names in headers

A header may name the file in two ways: percent-coded with its character set, or plainly. The coded
name is preferred, as long as it can be decoded. A value ends at the next semicolon.
-/

namespace Montage.Download.Disposition

/-- The value that follows a word in either case, at the first place where there is one. -/
def valueAfter? (word : String) (header : List Char) : Option (List Char) :=
  Text.findFirst? (fun s =>
    (Text.afterWord? word.toList s).bind (Text.run? fun c => c != ';')) header

/-- The percent-coded name in a header. -/
def codedName? (header : List Char) : Option (List Char) :=
  (valueAfter? "filename*=utf-8''" header).bind Text.Percent.decode?

/-- The plain name in a header, without blanks and quotes around it. -/
def plainName? (header : List Char) : Option (List Char) :=
  (valueAfter? "filename=" header).map fun value =>
    Text.strip (Text.stripWhere (· == '"') (Text.strip value))

/-- The name in a header. -/
def name? (header : List Char) : Option (List Char) :=
  match codedName? header with
  | some name => some name
  | none => plainName? header

end Montage.Download.Disposition
