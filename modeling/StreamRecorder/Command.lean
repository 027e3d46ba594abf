import StreamRecorder.Studio

namespace StreamRecorder

inductive Command where
  | chooseAudio (codec : AudioCodec)
  | chooseVideo (hevc : Bool)
  | pushVideo (data : Payload) (timestamp : UInt64) (memory : Memory)
  | pushAudio (data : Payload) (timestamp : UInt64) (memory : Memory)
  | stop

namespace Studio

variable {σ : Type} [Engine σ]

def perform (studio : Studio σ) : Command → Studio σ
  | .chooseAudio codec => studio.chooseAudio codec
  | .chooseVideo hevc => studio.chooseVideo hevc
  | .pushVideo data timestamp memory => studio.pushVideo memory data timestamp
  | .pushAudio data timestamp memory => studio.pushAudio memory data timestamp
  | .stop => studio.stop

def run (studio : Studio σ) (commands : List Command) : Studio σ :=
  commands.foldl perform studio

end Studio

end StreamRecorder
