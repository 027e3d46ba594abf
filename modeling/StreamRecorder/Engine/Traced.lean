import StreamRecorder.Engine

namespace StreamRecorder

inductive Request where
  | build (plan : Plan)
  | push (graph : GraphId) (endpoint : Endpoint) (buffer : Buffer)
  | endOfStream (graph : GraphId) (endpoint : Endpoint)
  | awaitCompletion (graph : GraphId) (timeout : UInt64)
  | halt (graph : GraphId)
  | release (graph : GraphId)
  deriving DecidableEq

inductive Answer where
  | built (result : Except SinkError GraphId)
  | accepted (result : Except SinkError Unit)
  | completed (completion : Completion)
  | done

structure Exchange where
  request : Request
  answer : Answer

structure TracedEngine (σ : Type) where
  engine : σ
  transcript : Array Exchange := #[]

namespace TracedEngine

variable {σ : Type} [Engine σ]

def noted (traced : TracedEngine σ) (engine : σ) (request : Request) (answer : Answer) :
    TracedEngine σ :=
  { engine, transcript := traced.transcript.push ⟨request, answer⟩ }

instance : Engine (TracedEngine σ) where
  build traced plan :=
    let (result, engine) := Engine.build traced.engine plan
    (result, traced.noted engine (.build plan) (.built result))
  push traced graph endpoint buffer :=
    let (result, engine) := Engine.push traced.engine graph endpoint buffer
    (result, traced.noted engine (.push graph endpoint buffer) (.accepted result))
  endOfStream traced graph endpoint :=
    let (result, engine) := Engine.endOfStream traced.engine graph endpoint
    (result, traced.noted engine (.endOfStream graph endpoint) (.accepted result))
  awaitCompletion traced graph timeout :=
    let (completion, engine) := Engine.awaitCompletion traced.engine graph timeout
    (completion, traced.noted engine (.awaitCompletion graph timeout) (.completed completion))
  halt traced graph :=
    traced.noted (Engine.halt traced.engine graph) (.halt graph) .done
  release traced graph :=
    traced.noted (Engine.release traced.engine graph) (.release graph) .done

end TracedEngine

end StreamRecorder
