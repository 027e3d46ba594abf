import StreamRecorder.Codec
import StreamRecorder.CodecData.AacEld
import StreamRecorder.CodecData.Alac
import StreamRecorder.Text.Hex

namespace StreamRecorder

inductive StreamParams where
  | video (codec : VideoCodec)
  | audio (codec : AudioCodec) (sampleRate : UInt32) (channels : UInt16) (codecData : Array UInt8)
  deriving DecidableEq

namespace StreamParams

def ofFormat (codec : AudioCodec) (format : AudioFormat) : StreamParams :=
  .audio codec format.sampleRate format.channels <|
    match codec with
    | .aacEld => AacEld.codecData format
    | .alac => Alac.magicCookie format

/-- The item that tells AAC from older kinds of the same media type. -/
def versionItem : AudioCodec → String
  | .aacEld => ",mpegversion=4"
  | .alac => ""

def text : StreamParams → String
  | .video codec => codec.mediaType ++ ",stream-format=byte-stream,alignment=au"
  | .audio codec sampleRate channels codecData =>
      codec.mediaType ++ versionItem codec
        ++ ",channels=" ++ toString channels.toNat
        ++ ",rate=" ++ toString sampleRate.toNat
        ++ ",stream-format=raw,codec_data=" ++ String.ofList (Hex.encode codecData.toList)

end StreamParams

end StreamRecorder
