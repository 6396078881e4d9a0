import Montage.Fault
import Montage.Files.Path
import Montage.Json.Reader
import Montage.Text.Blank

/-! # Settings

Everything about the service that its operator may choose, with the defaults.
-/

namespace Montage

/-- Where the service is run. -/
inductive Deployment where
  | development
  | staging
  | production
  deriving DecidableEq, Repr

/-- The encoder that videos are tried with first. -/
inductive VideoEncoder where
  | nvenc
  | x264
  deriving DecidableEq, Repr

/-- The settings of a service. -/
structure Settings where
  appName : String := "Scenepipe Media Processor API"
  appVersion : String := "0.1.0"
  environment : Deployment := .development
  debug : Bool := true
  logLevel : String := "INFO"
  originList : String := "*"
  enginePath : String := "ffmpeg"
  probePath : String := "ffprobe"
  assetsDir : String := "assets"
  outputDir : String := "outputs"
  downloadDir : String := "temp"
  targetRate : Int := 60
  captionPadding : Int := 28
  defaultFontFamily : String := "Poppins"
  defaultFontWeight : String := "Medium"
  videoEncoder : VideoEncoder := .x264
  nvencPreset : String := "p5"
  x264Preset : String := "medium"
  aacBitrate : String := "160k"
  engineTimeout : Binary64 := 600
  imageTimeout : Binary64 := 120
  heartbeatInterval : Binary64 := 30
  queueCapacity : Int := 256
  jobRetention : Binary64 := 3600
  downloadTimeout : Binary64 := 120
  maxDownloadMegabytes : Int := 500

/-- Why a list of origins is refused: an integer with too many digits, or too deep a nesting. -/
inductive OriginFault where
  | integerTooLong (digits : Nat)
  | tooDeep (kind : String)
  deriving DecidableEq, Repr

/-- A refused list of origins as a fault without a code. -/
def OriginFault.toJob : OriginFault → JobFault
  | .integerTooLong digits => .plain .value (IntegerFault.message (.tooLong digits))
  | .tooDeep kind =>
    .plain .depth
      s!"maximum recursion depth exceeded while decoding a JSON {kind} from a unicode string"

namespace Settings

/-- Where stickers are kept. -/
def stickersDir (s : Settings) : Path := Path.ofText s.assetsDir / "stickers"

/-- Where fonts are kept. -/
def fontsDir (s : Settings) : Path := Path.ofText s.assetsDir / "fonts"

/-- The pieces of a list of origins, without blanks around them and without empty ones. -/
def originPieces (separator : Char) (text : String) : List String :=
  ((Path.splitAt separator text.toList).map Text.strip).filterMap fun piece =>
    if piece = [] then none else some (String.ofList piece)

/-- The deepest nesting of a list of origins. -/
def originDepth : Nat := 980

/-- The allowed origins: a list in brackets that can be read, else the pieces of the text between
bars if it has any bar, else those between commas. A list that is too large to be read is refused. -/
def origins (s : Settings) : Except OriginFault Json :=
  let pieces (separator : Char) : Json := .arr ((originPieces separator s.originList).map .str)
  let split := pieces (if s.originList.toList.contains '|' then '|' else ',')
  if s.originList.toList.head? = some '[' then
    match Json.read originDepth s.originList.toList with
    | .ok found => .ok found
    | .error (.malformed _) => .ok split
    | .error (.integerTooLong digits) => .error (.integerTooLong digits)
    | .error .arrayTooDeep => .error (.tooDeep "array")
    | .error .objectTooDeep => .error (.tooDeep "object")
  else .ok split

/-- The greatest size of a download in bytes. -/
def maxDownloadBytes (s : Settings) : Int := s.maxDownloadMegabytes * 1024 * 1024

end Settings

end Montage
