import Montage.Geometry
import Montage.Settings

/-! # Encoding profiles

A profile is the part of an engine call that names the codec. Videos have an ordered list of profiles
to fall back on; still pictures have one.
-/

namespace Montage.Encoding

/-- The constant rate factor of software encoding, by three tiers of quality. -/
def softwareRate (quality : Binary64) : Int :=
  if (90 : Binary64).le quality then 18 else if (80 : Binary64).le quality then 20 else 23

/-- The constant quality of hardware encoding, by three tiers of quality. -/
def hardwareRate (quality : Binary64) : Int :=
  if (90 : Binary64).le quality then 19 else if (80 : Binary64).le quality then 21 else 24

/-- The scale of a still picture: 2 for the best quality, one more for every three points below 99. -/
def stillScale (quality : Binary64) : Except RangeFault Int :=
  let q := clamp quality 1 100
  (roundHalfUp ((100 - Binary64.min 99 q) / 3)).map (· + 2)

/-- The scale of a compressed picture: from 1 for the best quality to 31. -/
def compressionScale (quality : Binary64) : Except RangeFault Int :=
  (roundHalfUp ((100 - quality) * 31 / 100)).map fun n => max 1 (min 31 n)

/-- One way of encoding the output. -/
structure Profile where
  name : String
  args : List String
  hardware : Bool := false
  deriving DecidableEq, Repr

/-- Encoding by the graphics card, with the sound kept. -/
def hardwareProfile (quality : Binary64) (settings : Settings) : Profile where
  name := "nvenc"
  args := ["-c:v", "h264_nvenc", "-preset", settings.nvencPreset, "-rc", "vbr", "-cq",
    toString (hardwareRate quality), "-b:v", "0", "-c:a", "copy"]
  hardware := true

/-- Encoding by software, up to the sound. -/
def softwareArgs (quality : Binary64) (settings : Settings) : List String :=
  ["-c:v", "libx264", "-preset", settings.x264Preset, "-crf", toString (softwareRate quality)]

/-- The profiles of a video in the order in which they are tried. -/
def videoProfiles (quality : Binary64) (settings : Settings) : List Profile :=
  let software := softwareArgs quality settings
  let hardware := match settings.videoEncoder with
    | .nvenc => [hardwareProfile quality settings]
    | .x264 => []
  hardware ++ [
    { name := "x264-copy-audio", args := software ++ ["-c:a", "copy"] },
    { name := "x264-aac", args := software ++ ["-c:a", "aac", "-b:a", settings.aacBitrate] }]

/-- The profile of a still picture. -/
def imageProfile (quality : Binary64) : Except RangeFault Profile := do
  let scale ← stillScale quality
  return { name := "mjpeg", args := ["-frames:v", "1", "-q:v", toString scale] }

/-- What every video profile has in common, after the program's output. -/
def videoOutputArgs : List String :=
  ["-map", "1:a?", "-pix_fmt", "yuv420p", "-movflags", "+faststart", "-threads", "0",
    "-filter_threads", "2", "-shortest"]

/-- The arguments that make the engine report its progress. -/
def progressArgs : List String := ["-progress", "pipe:1"]

/-- An engine call: the executable with its inputs, a profile, and the output at the end. -/
def command (base : List String) (profile : Profile) (output : String) (progress : Bool) :
    List String :=
  base ++ profile.args ++ (if progress then progressArgs else []) ++ [output]

end Montage.Encoding
