namespace StreamRecorder

inductive VideoCodec where
  | h264
  | h265
  deriving DecidableEq

namespace VideoCodec

def ofHevc (hevc : Bool) : VideoCodec :=
  if hevc then .h265 else .h264

def tag : VideoCodec → String
  | .h264 => "H264"
  | .h265 => "H265"

def mediaType : VideoCodec → String
  | .h264 => "video/x-h264"
  | .h265 => "video/x-h265"

end VideoCodec

inductive AudioCodec where
  | aacEld
  | alac
  deriving DecidableEq

namespace AudioCodec

def losslessCompression : UInt8 := 2

def ofCompressionType (compressionType : UInt8) : AudioCodec :=
  if compressionType = losslessCompression then .alac else .aacEld

theorem ofCompressionType_eq_alac_iff (compressionType : UInt8) :
    ofCompressionType compressionType = .alac ↔ compressionType = 2 := by
  unfold ofCompressionType
  split <;> simp_all [losslessCompression]

def tag : AudioCodec → String
  | .aacEld => "AAC"
  | .alac => "ALAC"

def mediaType : AudioCodec → String
  | .aacEld => "audio/mpeg"
  | .alac => "audio/x-alac"

end AudioCodec

inductive Endpoint where
  | video
  | audio
  deriving DecidableEq

namespace Endpoint

def elementName : Endpoint → String
  | .video => "video_src"
  | .audio => "audio_src"

def label : Endpoint → String
  | .video => "Video"
  | .audio => "Audio"

def medium : Endpoint → String
  | .video => "video"
  | .audio => "audio"

end Endpoint

end StreamRecorder
