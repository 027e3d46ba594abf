import StreamRecorder.Engine

namespace StreamRecorder

inductive Event where
  | built (graph : GraphId) (location : String) (layout : Layout)
  | pushed (graph : GraphId) (endpoint : Endpoint) (buffer : Buffer)
  | endOfStream (graph : GraphId) (endpoint : Endpoint)
  | waited (graph : GraphId) (timeout : UInt64) (completion : Completion)
  | halted (graph : GraphId)
  | released (graph : GraphId)
  deriving DecidableEq

def Event.graph : Event → GraphId
  | .built graph _ _ | .pushed graph _ _ | .endOfStream graph _ | .waited graph _ _
  | .halted graph | .released graph => graph

structure LiveGraph where
  id : GraphId
  endpoints : List Endpoint
  finished : List Endpoint := []
  deriving DecidableEq

structure GraphCounts where
  built : UInt32 := 0
  live : Nat := 0
  mostLive : Nat := 0
  deriving DecidableEq

namespace GraphCounts

def afterBuild (counts : GraphCounts) : GraphCounts :=
  { built := counts.built + 1
    live := counts.live + 1
    mostLive := max counts.mostLive (counts.live + 1) }

def afterRelease (counts : GraphCounts) : GraphCounts :=
  { counts with live := counts.live - 1 }

end GraphCounts

structure MemoryEngine where
  events : Array Event := #[]
  counts : GraphCounts := {}
  graphs : List LiveGraph := []
  refusesNextBuild : Bool := false
  completion : Completion := .endOfStream
  deriving DecidableEq

namespace MemoryEngine

def graph? (engine : MemoryEngine) (id : GraphId) : Option LiveGraph :=
  engine.graphs.find? (·.id = id)

def note (engine : MemoryEngine) (event : Event) : MemoryEngine :=
  { engine with events := engine.events.push event }

def refuseNextBuild (engine : MemoryEngine) : MemoryEngine :=
  { engine with refusesNextBuild := true }

def setCompletion (engine : MemoryEngine) (completion : Completion) : MemoryEngine :=
  { engine with completion }

def build (engine : MemoryEngine) (plan : Plan) : Except SinkError GraphId × MemoryEngine :=
  if engine.refusesNextBuild then
    (.error (.construction ("no element could be linked for " ++ plan.text)),
      { engine with refusesNextBuild := false })
  else
    let counts := engine.counts.afterBuild
    let id := counts.built
    let graphs := engine.graphs ++ [{ id, endpoints := plan.endpoints }]
    (.ok id, { engine with counts, graphs }.note (.built id plan.location plan.layout))

def refusal? (graph? : Option LiveGraph) (endpoint : Endpoint) : Option SinkError :=
  match graph? with
  | none => some (.missingEndpoint endpoint)
  | some graph =>
      if endpoint ∉ graph.endpoints then some (.missingEndpoint endpoint)
      else if endpoint ∈ graph.finished then
        some (.push endpoint "endpoint already at end-of-stream")
      else none

def push (engine : MemoryEngine) (id : GraphId) (endpoint : Endpoint) (buffer : Buffer) :
    Except SinkError Unit × MemoryEngine :=
  match refusal? (engine.graph? id) endpoint with
  | some refusal => (.error refusal, engine)
  | none => (.ok (), engine.note (.pushed id endpoint buffer))

def LiveGraph.finish (graph : LiveGraph) (endpoint : Endpoint) : LiveGraph :=
  { graph with finished := graph.finished.insert endpoint }

def hasEndpoint (engine : MemoryEngine) (id : GraphId) (endpoint : Endpoint) : Bool :=
  (engine.graph? id).any (endpoint ∈ ·.endpoints)

def endOfStream (engine : MemoryEngine) (id : GraphId) (endpoint : Endpoint) :
    Except SinkError Unit × MemoryEngine :=
  if engine.hasEndpoint id endpoint then
    let graphs := engine.graphs.map fun graph =>
      if graph.id = id then LiveGraph.finish graph endpoint else graph
    (.ok (), { engine with graphs }.note (.endOfStream id endpoint))
  else (.error (.missingEndpoint endpoint), engine)

def isLive (engine : MemoryEngine) (id : GraphId) : Bool :=
  (engine.graph? id).isSome

def awaitCompletion (engine : MemoryEngine) (id : GraphId) (timeout : UInt64) :
    Completion × MemoryEngine :=
  (engine.completion,
    if engine.isLive id then engine.note (.waited id timeout engine.completion) else engine)

def halt (engine : MemoryEngine) (id : GraphId) : MemoryEngine :=
  if engine.isLive id then engine.note (.halted id) else engine

def release (engine : MemoryEngine) (id : GraphId) : MemoryEngine :=
  if engine.isLive id then
    { engine with
      counts := engine.counts.afterRelease
      graphs := engine.graphs.filter (·.id ≠ id) }.note (.released id)
  else engine

instance : Engine MemoryEngine where
  build := build
  push := push
  endOfStream := endOfStream
  awaitCompletion := awaitCompletion
  halt := halt
  release := release

def pushed (engine : MemoryEngine) (endpoint : Endpoint) : List Buffer :=
  engine.events.toList.filterMap fun
    | .pushed _ reached buffer => if reached = endpoint then some buffer else none
    | _ => none

def locations (engine : MemoryEngine) : List String :=
  engine.events.toList.filterMap fun
    | .built _ location _ => some location
    | _ => none

end MemoryEngine

end StreamRecorder
