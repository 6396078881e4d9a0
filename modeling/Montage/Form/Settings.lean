import Montage.Form.Value
import Montage.Settings

/-! # The form of settings -/

namespace Montage.Form

/-- The names of the deployments. -/
def deployments : List (String × Deployment) :=
  [("development", .development), ("staging", .staging), ("production", .production)]

/-- The names of the encoders. -/
def videoEncoders : List (String × VideoEncoder) := [("nvenc", .nvenc), ("x264", .x264)]

/-- Reads settings; those that are left out have their defaults. -/
def settings : FormReader Settings :=
  form "Settings" fun fields => do
    let base : Settings := {}
    let appName ← withDefault fields "app_name" base.appName text
    let appVersion ← withDefault fields "app_version" base.appVersion text
    let environment ← withDefault fields "environment" base.environment (choice deployments)
    let debug ← withDefault fields "debug" base.debug boolean
    let logLevel ← withDefault fields "log_level" base.logLevel text
    let originList ← withDefault fields "cors_origins_raw" base.originList text
    let enginePath ← withDefault fields "ffmpeg_path" base.enginePath text
    let probePath ← withDefault fields "ffprobe_path" base.probePath text
    let assetsDir ← withDefault fields "assets_dir" base.assetsDir text
    let outputDir ← withDefault fields "output_dir" base.outputDir text
    let downloadDir ← withDefault fields "download_dir" base.downloadDir text
    let targetRate ← withDefault fields "target_fps" base.targetRate integer
    let captionPadding ← withDefault fields "text_box_padding_px" base.captionPadding integer
    let defaultFontFamily ← withDefault fields "default_font_family" base.defaultFontFamily text
    let defaultFontWeight ← withDefault fields "default_font_weight" base.defaultFontWeight text
    let videoEncoder ← withDefault fields "video_encoder" base.videoEncoder (choice videoEncoders)
    let nvencPreset ← withDefault fields "nvenc_preset" base.nvencPreset text
    let x264Preset ← withDefault fields "x264_preset" base.x264Preset text
    let aacBitrate ← withDefault fields "aac_bitrate" base.aacBitrate text
    let engineTimeout ← withDefault fields "processing_timeout_s" base.engineTimeout number
    let imageTimeout ← withDefault fields "image_processing_timeout_s" base.imageTimeout number
    let heartbeatInterval ← withDefault fields "heartbeat_interval_s" base.heartbeatInterval number
    let queueCapacity ← withDefault fields "progress_queue_size" base.queueCapacity integer
    let jobRetention ← withDefault fields "job_retention_s" base.jobRetention number
    let downloadTimeout ← withDefault fields "download_timeout_s" base.downloadTimeout number
    let maxDownloadMegabytes ← withDefault fields "max_download_size_mb" base.maxDownloadMegabytes
      integer
    return {
      appName := appName, appVersion := appVersion, environment := environment, debug := debug,
      logLevel := logLevel, originList := originList, enginePath := enginePath,
      probePath := probePath, assetsDir := assetsDir, outputDir := outputDir,
      downloadDir := downloadDir, targetRate := targetRate, captionPadding := captionPadding,
      defaultFontFamily := defaultFontFamily, defaultFontWeight := defaultFontWeight,
      videoEncoder := videoEncoder, nvencPreset := nvencPreset, x264Preset := x264Preset,
      aacBitrate := aacBitrate, engineTimeout := engineTimeout, imageTimeout := imageTimeout,
      heartbeatInterval := heartbeatInterval, queueCapacity := queueCapacity,
      jobRetention := jobRetention, downloadTimeout := downloadTimeout,
      maxDownloadMegabytes := maxDownloadMegabytes }

/-- The name of a value among choices. -/
def choiceName {α : Type} [BEq α] (choices : List (String × α)) (value : α) : String :=
  ((choices.find? fun entry => entry.2 == value).map Prod.fst).getD ""

/-- The fields of settings under the names that the form reads. -/
def settingsFields (s : Settings) : List (String × Json) := [
  ("app_name", .str s.appName), ("app_version", .str s.appVersion),
  ("environment", .str (choiceName deployments s.environment)), ("debug", .bool s.debug),
  ("log_level", .str s.logLevel), ("cors_origins_raw", .str s.originList),
  ("ffmpeg_path", .str s.enginePath), ("ffprobe_path", .str s.probePath),
  ("assets_dir", .str s.assetsDir), ("output_dir", .str s.outputDir),
  ("download_dir", .str s.downloadDir), ("target_fps", .int s.targetRate),
  ("text_box_padding_px", .int s.captionPadding),
  ("default_font_family", .str s.defaultFontFamily),
  ("default_font_weight", .str s.defaultFontWeight),
  ("video_encoder", .str (choiceName videoEncoders s.videoEncoder)),
  ("nvenc_preset", .str s.nvencPreset), ("x264_preset", .str s.x264Preset),
  ("aac_bitrate", .str s.aacBitrate), ("processing_timeout_s", .num s.engineTimeout),
  ("image_processing_timeout_s", .num s.imageTimeout),
  ("heartbeat_interval_s", .num s.heartbeatInterval),
  ("progress_queue_size", .int s.queueCapacity), ("job_retention_s", .num s.jobRetention),
  ("download_timeout_s", .num s.downloadTimeout),
  ("max_download_size_mb", .int s.maxDownloadMegabytes)]

end Montage.Form
