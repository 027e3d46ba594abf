import StreamRecorder.Codec

namespace StreamRecorder

structure Layout where
  video : Option VideoCodec := none
  audio : Option AudioCodec := none
  deriving DecidableEq

namespace Layout

def hasVideo (layout : Layout) : Bool := layout.video.isSome

def hasAudio (layout : Layout) : Bool := layout.audio.isSome

def isEmpty (layout : Layout) : Bool := layout.video.isNone && layout.audio.isNone

def endpoints (layout : Layout) : List Endpoint :=
  (if layout.hasVideo then [.video] else []) ++ (if layout.hasAudio then [.audio] else [])

end Layout

end StreamRecorder
