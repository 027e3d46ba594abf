import StreamRecorder.Buffer
import StreamRecorder.Plan

/-!
# Engines

An engine multiplexes and writes files; the recorder only describes the graph it needs and feeds it.
An engine is a state with the operations below, each of which gives its answer and the next state.
-/

namespace StreamRecorder

abbrev GraphId := UInt32

inductive Completion where
  | endOfStream
  | failed (message : String)
  | timedOut
  deriving DecidableEq

class Engine (σ : Type) where
  build : σ → Plan → Except SinkError GraphId × σ
  push : σ → GraphId → Endpoint → Buffer → Except SinkError Unit × σ
  endOfStream : σ → GraphId → Endpoint → Except SinkError Unit × σ
  /-- Waits until the graph has drained, or for the given number of milliseconds. -/
  awaitCompletion : σ → GraphId → UInt64 → Completion × σ
  halt : σ → GraphId → σ
  release : σ → GraphId → σ

end StreamRecorder
