import StreamRecorder.Layout
import StreamRecorder.SinkError
import StreamRecorder.StreamParams

namespace StreamRecorder

inductive Stage where
  | queue
  | h264Parse
  | h265Parse
  | aacParse
  deriving DecidableEq

def Stage.elementKind : Stage → String
  | .queue => "queue"
  | .h264Parse => "h264parse"
  | .h265Parse => "h265parse"
  | .aacParse => "aacparse"

structure Branch where
  endpoint : Endpoint
  params : StreamParams
  stages : List Stage
  deriving DecidableEq

namespace Branch

def ofVideo : VideoCodec → Branch
  | .h264 => ⟨.video, .video .h264, [.queue, .h264Parse]⟩
  | .h265 => ⟨.video, .video .h265, [.queue, .h265Parse]⟩

/-- The multiplexer takes raw lossless frames, so they need no parser. -/
def ofAudio (format : AudioFormat) : AudioCodec → Branch
  | .aacEld => ⟨.audio, .ofFormat .aacEld format, [.queue, .aacParse, .queue]⟩
  | .alac => ⟨.audio, .ofFormat .alac format, [.queue]⟩

def text (branch : Branch) : String :=
  "appsrc name=" ++ branch.endpoint.elementName ++ " format=time is-live=true"
    ++ String.join (branch.stages.map fun stage => " ! " ++ stage.elementKind)
    ++ " ! mux. "

end Branch

structure Plan where
  layout : Layout
  branches : List Branch
  location : String
  deriving DecidableEq

namespace Plan

def branchesOf (layout : Layout) (format : AudioFormat) : List Branch :=
  (layout.video.map Branch.ofVideo).toList ++ (layout.audio.map (Branch.ofAudio format)).toList

def ofLayout (layout : Layout) (format : AudioFormat) (location : String) :
    Except SinkError Plan :=
  if layout.isEmpty then .error (.construction "layout carries neither video nor audio")
  else .ok { layout, branches := branchesOf layout format, location }

def branch? (plan : Plan) (endpoint : Endpoint) : Option Branch :=
  plan.branches.find? (·.endpoint = endpoint)

def endpoints (plan : Plan) : List Endpoint :=
  plan.branches.map (·.endpoint)

def keeping (plan : Plan) (endpoint : Endpoint) : Plan :=
  { plan with branches := plan.branches.filter (·.endpoint = endpoint) }

def text (plan : Plan) : String :=
  String.join (plan.branches.map Branch.text)
    ++ "mp4mux name=mux ! filesink name=filesink location=" ++ plan.location

end Plan

end StreamRecorder
