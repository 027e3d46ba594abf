import StreamRecorder.AudioFormat
import StreamRecorder.Text.Blank

namespace StreamRecorder

structure Config where
  outputTemplate : String := "recording"
  audioEnabled : Bool := true
  videoEnabled : Bool := true
  flushTimeout : UInt64 := 5000
  audioFormat : AudioFormat := {}
  deriving DecidableEq

namespace Config

inductive Fault where
  | blankTemplate
  | audioFormat (fault : AudioFormat.Fault)
  | stated (reason : String)
  deriving DecidableEq

namespace Fault

def reason : Fault → String
  | .blankTemplate => "output template must not be empty"
  | .audioFormat fault => fault.reason
  | .stated reason => reason

def message (fault : Fault) : String :=
  "Configuration error: " ++ fault.reason

end Fault

def validate (config : Config) : Except Fault Unit :=
  if Text.allBlank config.outputTemplate then .error .blankTemplate
  else config.audioFormat.validate.mapError .audioFormat

def isActive (config : Config) : Bool :=
  config.audioEnabled || config.videoEnabled

def disabled (config : Config) : Config :=
  { config with audioEnabled := false, videoEnabled := false }

/-- The configuration a recorder works with: nothing is recorded with an invalid one. -/
def effective (config : Config) : Config :=
  match config.validate with
  | .ok () => config
  | .error _ => config.disabled

end Config

end StreamRecorder
