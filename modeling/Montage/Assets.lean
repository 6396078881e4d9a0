import Montage.Files.Tree
import Montage.Settings

/-! # Assets

Stickers and fonts have logical names, and a name is resolved to the one file that stands behind it.
Names are runs of letters, digits, underscores and dashes; a single line break at the end of a name
passes the check.
-/

namespace Montage

/-- Why an asset is refused. -/
inductive AssetFault where
  | invalidName (kind name : String)
  | missingSticker (name : String)
  | missingFont (file : String)
  | unreachable (fault : FileFault)
  deriving DecidableEq, Repr

/-- The wording of a refusal. -/
def AssetFault.message : AssetFault → String
  | .invalidName kind name => s!"Invalid {kind} name: {name}"
  | .missingSticker name => s!"Sticker not found: {name} (expected {name}.webp or {name}.png)"
  | .missingFont file => s!"Font not found: {file}"
  | .unreachable fault => fault.message

namespace AssetName

/-- The characters of asset names. -/
def isNameChar (c : Char) : Bool := c.isAlphanum || c = '_' || c = '-'

/-- A text without the line break at its end, if it has one. -/
def dropFinalBreak (s : List Char) : List Char := if s.getLast? = some '\n' then s.dropLast else s

/-- Whether a text passes as an asset name. -/
def isValid (name : String) : Bool :=
  let body := dropFinalBreak name.toList
  !body.isEmpty && body.all isNameChar

/-- Refuses a text that does not pass as the name of an asset of some kind. -/
def check (name kind : String) : Except AssetFault String :=
  if isValid name then .ok name else .error (.invalidName kind name)

end AssetName

/-- How the names of a scene are resolved to files. -/
structure AssetResolver where
  sticker : String → Except AssetFault String
  font : String → String → Except AssetFault String

/-- A font as clients name it. -/
structure FontName where
  family : String
  weight : String
  deriving DecidableEq, Repr

/-- The directories of a service's assets, and the files in them. -/
structure AssetLibrary where
  stickersDir : Path
  fontsDir : Path
  files : Files

namespace AssetLibrary

/-- The library that the settings point to. -/
def ofSettings (settings : Settings) (files : Files) : AssetLibrary :=
  ⟨settings.stickersDir, settings.fontsDir, files⟩

/-- The extensions of stickers, the preferred one first. -/
def stickerExtensions : List String := [".webp", ".png"]

/-- The extension of fonts. -/
def fontExtension : String := ".ttf"

/-- The weight of a font that is asked for without one. -/
def defaultWeight : String := "Medium"

/-- Whether a path leads to a file of the library. -/
def holds (library : AssetLibrary) (path : Path) : Except AssetFault Bool :=
  (library.files.isFile path).mapError .unreachable

/-- The file of a sticker. -/
def sticker (library : AssetLibrary) (name : String) : Except AssetFault String := do
  let _ ← AssetName.check name "sticker"
  let candidates := stickerExtensions.map fun extension => library.stickersDir / (name ++ extension)
  match ← candidates.findM? library.holds with
  | some path => .ok path.text
  | none => .error (.missingSticker name)

/-- The file of a font; a missing or empty weight is the default one. -/
def font (library : AssetLibrary) (family : Option String) (weight : Option String) :
    Except AssetFault String :=
  let weight := match weight with
    | none | some "" => defaultWeight
    | some weight => weight
  if AssetName.isValid (family.getD "") && AssetName.isValid weight then
    let file := family.getD "" ++ "-" ++ weight ++ fontExtension
    let path := library.fontsDir / file
    (library.holds path).bind fun found => if found then .ok path.text else .error (.missingFont file)
  else .error (.invalidName "font" (family.getD "None" ++ "-" ++ weight))

/-- The resolver that looks into the library. -/
def resolver (library : AssetLibrary) : AssetResolver where
  sticker := library.sticker
  font family weight := library.font (some family) (some weight)

/-- The elements of a list without their repetitions, in the order of their first appearance. -/
def distinct (names : List String) : List String :=
  names.foldl (fun seen name => if seen.contains name then seen else seen ++ [name]) []

/-- The names in a directory, none if it cannot be read. Only a path that no directory can have is
refused. -/
def listed (library : AssetLibrary) (directory : Path) : Except FileFault (List String) :=
  match library.files.list directory with
  | .error .holdsNull => .error .holdsNull
  | found => .ok (found.toOption.getD [])

/-- The names of the stickers, in the order of their files. -/
def stickers (library : AssetLibrary) : Except FileFault (List String) := do
  let names ← library.listed library.stickersDir
  return distinct (names.filterMap fun name =>
    if stickerExtensions.contains (FileName.extension name) then some (FileName.stem name) else none)

/-- The family and weight that a font file's stem stands for: its first two parts between dashes. -/
def fontName (stem : String) : FontName :=
  let parts := (Path.splitAt '-' stem.toList).map String.ofList
  let named (part : Option String) (missing : String) : String :=
    match part with
    | none | some "" => missing
    | some part => part
  ⟨named parts[0]? "Unknown", named parts[1]? "Regular"⟩

/-- The fonts, in the order of their files. -/
def fonts (library : AssetLibrary) : Except FileFault (List FontName) := do
  let names ← library.listed library.fontsDir
  return names.filterMap fun name =>
    if FileName.extension name = fontExtension then some (fontName (FileName.stem name)) else none

end AssetLibrary

end Montage
