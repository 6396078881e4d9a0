import Montage.Form.Value
import Montage.Processing.Compress

/-! # Forms of compression jobs -/

namespace Montage.Form

/-- A request to compress a video; without a bit rate the default is taken. -/
structure VideoCompression where
  url : String
  bitrate : Option Binary64

/-- Reads a request to compress a video. -/
def videoCompression : FormReader VideoCompression :=
  form "CompressVideoRequest" fun fields => do
    let url ← required fields "url" filledText
    let bitrate ← withDefault fields "bitrate" none (nullable (boundedNumber { above := some 0 }))
    return { url := url, bitrate := bitrate }

/-- The job that a request to compress a video asks for. -/
def VideoCompression.job (request : VideoCompression) : CompressVideoJob where
  url := request.url
  bitrate := request.bitrate.getD Encoding.defaultBitrate

/-- Reads a request to compress a picture. -/
def imageCompression : FormReader CompressImageJob :=
  form "CompressImageRequest" fun fields => do
    let side := nullable (boundedInteger { least := some 1 })
    let url ← required fields "url" filledText
    let quality ← withDefault fields "quality" 80
      (boundedInteger { least := some 1, most := some 100 })
    let maxWidth ← withDefault fields ⟨"maxWidth", "max_width"⟩ none side
    let maxHeight ← withDefault fields ⟨"maxHeight", "max_height"⟩ none side
    return { url := url, quality := quality, maxWidth := maxWidth, maxHeight := maxHeight }

end Montage.Form
