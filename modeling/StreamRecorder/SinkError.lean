import StreamRecorder.Codec

namespace StreamRecorder

inductive SinkError where
  | construction (reason : String)
  | missingEndpoint (endpoint : Endpoint)
  | push (endpoint : Endpoint) (reason : String)
  | allocation (bytes : Nat)
  | engine (reason : String)
  deriving DecidableEq

def SinkError.message : SinkError → String
  | .construction reason => "Graph construction failed: " ++ reason
  | .missingEndpoint endpoint => "Graph has no " ++ endpoint.label ++ " endpoint"
  | .push endpoint reason => "Push to " ++ endpoint.label ++ " rejected: " ++ reason
  | .allocation bytes => "Failed to allocate " ++ toString bytes ++ " byte buffer"
  | .engine reason => "Engine error: " ++ reason

end StreamRecorder
