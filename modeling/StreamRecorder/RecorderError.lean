import StreamRecorder.Config
import StreamRecorder.Json.Fault
import StreamRecorder.SinkError

namespace StreamRecorder

inductive FileFault where
  | notFound
  | isDirectory
  | nameTooLong
  | zeroInName
  | notUtf8
  deriving DecidableEq

def FileFault.message : FileFault → String
  | .notFound => "No such file or directory (os error 2)"
  | .isDirectory => "Is a directory (os error 21)"
  | .nameTooLong => "File name too long (os error 36)"
  | .zeroInName => "file name contained an unexpected NUL byte"
  | .notUtf8 => "stream did not contain valid UTF-8"

inductive RecorderError where
  | file (fault : FileFault)
  | json (fault : Json.Fault)
  | config (fault : Config.Fault)
  | sink (fault : SinkError)

namespace RecorderError

def code : RecorderError → String
  | .file _ => "IO_ERROR"
  | .json _ => "SERIALIZATION_ERROR"
  | .config _ => "CONFIG_ERROR"
  | .sink _ => "SINK_ERROR"

def message : RecorderError → String
  | .file fault => "IO error: " ++ fault.message
  | .json fault => "Serialization error: " ++ fault.message
  | .config fault => fault.message
  | .sink fault => "Sink graph error: " ++ fault.message

end RecorderError

end StreamRecorder
