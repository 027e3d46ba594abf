import StreamRecorder.Config
import StreamRecorder.Engine
import StreamRecorder.Text.Duration
import StreamRecorder.Text.Quoted
import StreamRecorder.Timeline

namespace StreamRecorder

inductive Level where
  | debug
  | info
  | warn
  | error
  deriving DecidableEq

def Level.label : Level → String
  | .debug => "DEBUG"
  | .info => "INFO"
  | .warn => "WARN"
  | .error => "ERROR"

inductive Notice where
  | invalidConfig (fault : Config.Fault)
  | nothingEnabled
  | audioDisabled
  | videoDisabled
  | initialized (template : String)
  | audioCodecChanged (codec : AudioCodec)
  | videoCodecChanged (codec : VideoCodec)
  | videoCodecChosen (hevc : Bool)
  | alreadyRunning
  | planned (plan : Plan)
  | started (path : String)
  | buildFailed (fault : SinkError)
  | frameDropped (endpoint : Endpoint) (fault : SinkError)
  | beforeOrigin (timestamp origin : UInt64)
  | frameRefused (endpoint : Endpoint) (presentation : UInt64) (fault : SinkError)
  | silenceInserted (gap : UInt64) (size : Nat)
  | silenceDropped (fault : SinkError)
  | endOfStreamFailed (endpoint : Endpoint) (fault : SinkError)
  | drained
  | drainFailed (message : String)
  | drainTimedOut (timeout : UInt64)
  | stopped (path : String)
  | destroyed
  | configLoaded (name : String)
  | version
  deriving DecidableEq

namespace Notice

def level : Notice → Level
  | .invalidConfig _ | .buildFailed _ => .error
  | .frameDropped _ _ | .frameRefused _ _ _ | .silenceDropped _ | .endOfStreamFailed _ _
  | .drainFailed _ | .drainTimedOut _ => .warn
  | .nothingEnabled | .audioDisabled | .videoDisabled | .initialized _ | .started _ | .stopped _
  | .version => .info
  | .audioCodecChanged _ | .videoCodecChanged _ | .videoCodecChosen _ | .alreadyRunning
  | .planned _ | .beforeOrigin _ _ | .silenceInserted _ _ | .drained | .destroyed
  | .configLoaded _ => .debug

def message : Notice → String
  | .invalidConfig fault => "Invalid recorder config, recording disabled: " ++ fault.message
  | .nothingEnabled => "Both audio and video recording are disabled: nothing to record"
  | .audioDisabled => "Audio recording is disabled: video only will be recorded"
  | .videoDisabled => "Video recording is disabled: audio only will be recorded"
  | .initialized template => "Mux recorder initialized: " ++ template
  | .audioCodecChanged codec =>
      "Audio codec changed to " ++ codec.tag ++ ", recreating sink graph"
  | .videoCodecChanged codec =>
      "Video codec changed to " ++ codec.tag ++ ", recreating sink graph"
  | .videoCodecChosen hevc => "Mux recorder video codec: h265=" ++ toString hevc
  | .alreadyRunning => "Mux recorder already running"
  | .planned plan => "Created mux pipeline: " ++ plan.text
  | .started path => "Started recording to: " ++ path
  | .buildFailed fault => "Mux pipeline error: " ++ fault.message
  | .frameDropped endpoint fault =>
      "Dropping " ++ endpoint.medium ++ " frame: " ++ fault.message
  | .beforeOrigin timestamp origin =>
      "Timestamp " ++ toString timestamp.toNat ++ " precedes session origin "
        ++ toString origin.toNat ++ ", clamping to 0"
  | .frameRefused endpoint presentation fault =>
      "Dropping " ++ endpoint.medium ++ " frame at " ++ toString presentation.toNat ++ ": "
        ++ fault.message
  | .silenceInserted gap size =>
      "Inserted " ++ Duration.secondsOfNanoseconds gap ++ " seconds of silence ("
        ++ toString size ++ " bytes) before audio"
  | .silenceDropped fault => "Dropping silence padding: " ++ fault.message
  | .endOfStreamFailed endpoint fault =>
      "Failed to signal end-of-stream on " ++ endpoint.label ++ ": " ++ fault.message
  | .drained => "Sink graph drained"
  | .drainFailed message => "Sink graph reported an error while draining: " ++ message
  | .drainTimedOut timeout =>
      "Sink graph did not drain within " ++ Duration.ofMilliseconds timeout.toNat
        ++ ", forcing shutdown"
  | .stopped path => "Stopped recording: " ++ path
  | .destroyed => "Mux recorder destroyed"
  | .configLoaded name => "Loaded recorder config from " ++ Text.quoted name
  | .version => "Mirror recorder v0.1.0"

def line (notice : Notice) : String :=
  notice.level.label ++ " " ++ notice.message

def opening : List Notice :=
  [.version]

end Notice

def Timeline.notices (timeline : Timeline) (timestamp : UInt64) : List Notice :=
  (timeline.precededOrigin timestamp).toList.map (.beforeOrigin timestamp)

end StreamRecorder
