import Montage.Encoding.Profile

/-! # Compression

The engine calls that make a video or a picture smaller, without a scene.
-/

namespace Montage.Encoding

/-- The bit rate of compressed videos in thousands per second when none is asked for. -/
def defaultBitrate : Binary64 := 500

/-- The call that compresses a video to at most 480 lines and a bit rate. -/
def compressVideoArgs (engine input output : String) (bitrate : Binary64) : List String :=
  [engine, "-i", input, "-c:v", "libx264", "-preset", "ultrafast", "-tune", "fastdecode",
    "-crf", "28",
    "-maxrate", bitrate.plainText ++ "k",
    "-bufsize", (bitrate * Binary64.ofRat (3 / 2)).plainText ++ "k",
    "-vf",
    "scale='min(854,iw)':'min(480,ih)':force_original_aspect_ratio=decrease:force_divisible_by=2",
    "-c:a", "aac", "-b:a", "96k", "-ac", "2", "-ar", "44100", "-movflags", "+faststart",
    "-threads", "0"] ++ progressArgs ++ ["-y", output]

/-- A bound on a side of a picture; zero counts as none. -/
def bound? (side : Option Int) : Option Int := side.filter fun n => n ≠ 0

/-- The filter that keeps a picture within bounds, if there are any. -/
def boundFilters (maxWidth maxHeight : Option Int) : List String :=
  match bound? maxWidth, bound? maxHeight with
  | none, none => []
  | width, height =>
    let width := width.getD (-1)
    let height := height.getD (-1)
    ["-vf", s!"scale='min({width},iw)':'min({height},ih)':force_original_aspect_ratio=decrease"]

/-- The call that compresses a picture to a quality, within optional bounds. -/
def compressImageArgs (engine input output : String) (quality : Binary64)
    (maxWidth maxHeight : Option Int) : Except RangeFault (List String) := do
  let scale ← compressionScale quality
  return [engine, "-i", input] ++ boundFilters maxWidth maxHeight ++
    ["-q:v", toString scale, "-frames:v", "1", "-update", "1", "-y", output]

end Montage.Encoding
