import StreamRecorder.Config
import StreamRecorder.Engine
import StreamRecorder.Timeline

namespace StreamRecorder

inductive Phase where
  | idle
  | running
  | stopped
  deriving DecidableEq

structure Session where
  graph : GraphId
  layout : Layout
  location : String
  timeline : Timeline := {}
  deriving DecidableEq

structure Recorder where
  config : Config
  phase : Phase := .idle
  session : Option Session := none
  /-- The number of builds attempted so far. -/
  counter : UInt32 := 0
  videoCodec : VideoCodec := .h264
  audioCodec : AudioCodec := .aacEld
  deriving DecidableEq

namespace Recorder

def ofConfig (config : Config) : Recorder :=
  { config := config.effective }

def outputPath (recorder : Recorder) : Option String :=
  recorder.session.map (·.location)

def layout (recorder : Recorder) : Option Layout :=
  recorder.session.map (·.layout)

def timeline (recorder : Recorder) : Option Timeline :=
  recorder.session.map (·.timeline)

def desiredLayout (recorder : Recorder) : Layout :=
  { video := if recorder.config.videoEnabled then some recorder.videoCodec else none
    audio := if recorder.config.audioEnabled then some recorder.audioCodec else none }

def carriesOtherAudio (recorder : Recorder) (codec : AudioCodec) : Bool :=
  recorder.layout.any (·.audio ≠ some codec)

def carriesOtherVideo (recorder : Recorder) (codec : VideoCodec) : Bool :=
  recorder.layout.any (·.video ≠ some codec)

def forgetCodecs (recorder : Recorder) : Recorder :=
  { recorder with videoCodec := .h264, audioCodec := .aacEld }

end Recorder

end StreamRecorder
