import StreamRecorder.Engine

/-!
# Faulty engines

An engine put behind a script of faults. Each build, push and end of stream takes the next entry of
its script: a fault is the answer in the engine's place, and no fault, or a script that has run out,
lets the request through.
-/

namespace StreamRecorder

abbrev FaultScript := List (Option SinkError)

structure FaultyEngine (σ : Type) where
  engine : σ
  builds : FaultScript := []
  pushes : FaultScript := []
  endings : FaultScript := []

namespace FaultyEngine

inductive Site where
  | build
  | push
  | endOfStream
  deriving DecidableEq

variable {σ : Type}

def schedule (faulty : FaultyEngine σ) (entry : Option SinkError) : Site → FaultyEngine σ
  | .build => { faulty with builds := faulty.builds ++ [entry] }
  | .push => { faulty with pushes := faulty.pushes ++ [entry] }
  | .endOfStream => { faulty with endings := faulty.endings ++ [entry] }

def next? (script : FaultScript) : Option SinkError :=
  script.head?.join

def mapEngine (faulty : FaultyEngine σ) (f : σ → σ) : FaultyEngine σ :=
  { faulty with engine := f faulty.engine }

variable [Engine σ]

def build (faulty : FaultyEngine σ) (plan : Plan) :
    Except SinkError GraphId × FaultyEngine σ :=
  let rest := { faulty with builds := faulty.builds.tail }
  match next? faulty.builds with
  | some fault => (.error fault, rest)
  | none =>
      let (answer, engine) := Engine.build faulty.engine plan
      (answer, { rest with engine })

def push (faulty : FaultyEngine σ) (graph : GraphId) (endpoint : Endpoint) (buffer : Buffer) :
    Except SinkError Unit × FaultyEngine σ :=
  let rest := { faulty with pushes := faulty.pushes.tail }
  match next? faulty.pushes with
  | some fault => (.error fault, rest)
  | none =>
      let (answer, engine) := Engine.push faulty.engine graph endpoint buffer
      (answer, { rest with engine })

def endOfStream (faulty : FaultyEngine σ) (graph : GraphId) (endpoint : Endpoint) :
    Except SinkError Unit × FaultyEngine σ :=
  let rest := { faulty with endings := faulty.endings.tail }
  match next? faulty.endings with
  | some fault => (.error fault, rest)
  | none =>
      let (answer, engine) := Engine.endOfStream faulty.engine graph endpoint
      (answer, { rest with engine })

instance : Engine (FaultyEngine σ) where
  build := build
  push := push
  endOfStream := endOfStream
  awaitCompletion faulty graph timeout :=
    let (answer, engine) := Engine.awaitCompletion faulty.engine graph timeout
    (answer, { faulty with engine })
  halt faulty graph := faulty.mapEngine (Engine.halt · graph)
  release faulty graph := faulty.mapEngine (Engine.release · graph)

end FaultyEngine

end StreamRecorder
