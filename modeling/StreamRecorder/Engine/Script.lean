import StreamRecorder.Engine.Memory

/-!
# Scripts for the memory engine

A script drives a memory engine directly, with any number of graphs alive at once. It names graphs
by slots: the first graph that is built is in slot 0, the next in slot 1, and so on.
-/

namespace StreamRecorder.MemoryEngine

structure Bench where
  engine : MemoryEngine := {}
  slots : List (Option GraphId) := []

inductive Step where
  | build (layout : Layout) (location : String) (keeping : Option Endpoint)
  | push (slot : Nat) (endpoint : Endpoint) (buffer : Buffer)
  | endOfStream (slot : Nat) (endpoint : Endpoint)
  | awaitCompletion (slot : Nat) (timeout : UInt64)
  | halt (slot : Nat)
  | release (slot : Nat)
  | refuseNextBuild
  | setCompletion (completion : Completion)

inductive Outcome where
  | built (slot : Nat)
  | done
  | refused (fault : SinkError)
  | completed (completion : Completion)
  | noGraph

structure Report where
  outcome : Outcome
  events : List Event
  counts : GraphCounts

def Outcome.ofAnswer : Except SinkError Unit → Outcome
  | .ok () => .done
  | .error fault => .refused fault

namespace Bench

def graphAt? (bench : Bench) (slot : Nat) : Option GraphId :=
  bench.slots[slot]?.join

def plan (layout : Layout) (location : String) (keeping : Option Endpoint) :
    Except SinkError Plan := do
  let plan ← Plan.ofLayout layout {} location
  return match keeping with
    | none => plan
    | some endpoint => plan.keeping endpoint

def build (bench : Bench) (plan : Plan) : Outcome × Bench :=
  match bench.engine.build plan with
  | (.ok graph, engine) =>
      (.built bench.slots.length, { engine, slots := bench.slots ++ [some graph] })
  | (.error fault, engine) => (.refused fault, { bench with engine })

def onGraph (bench : Bench) (slot : Nat) (act : GraphId → Outcome × MemoryEngine) :
    Outcome × Bench :=
  match bench.graphAt? slot with
  | none => (.noGraph, bench)
  | some graph =>
      let (outcome, engine) := act graph
      (outcome, { bench with engine })

def release (bench : Bench) (slot : Nat) : Bench :=
  match bench.graphAt? slot with
  | none => bench
  | some graph =>
      { engine := bench.engine.release graph, slots := bench.slots.set slot none }

def step (bench : Bench) : Step → Outcome × Bench
  | .build layout location keeping =>
      match plan layout location keeping with
      | .error fault => (.refused fault, bench)
      | .ok plan => bench.build plan
  | .push slot endpoint buffer =>
      bench.onGraph slot fun graph =>
        (bench.engine.push graph endpoint buffer).map Outcome.ofAnswer id
  | .endOfStream slot endpoint =>
      bench.onGraph slot fun graph =>
        (bench.engine.endOfStream graph endpoint).map Outcome.ofAnswer id
  | .awaitCompletion slot timeout =>
      bench.onGraph slot fun graph =>
        (bench.engine.awaitCompletion graph timeout).map Outcome.completed id
  | .halt slot => bench.onGraph slot fun graph => (.done, bench.engine.halt graph)
  | .release slot => (.done, bench.release slot)
  | .refuseNextBuild => (.done, { bench with engine := bench.engine.refuseNextBuild })
  | .setCompletion completion =>
      (.done, { bench with engine := bench.engine.setCompletion completion })

def eventsSince (bench : Bench) (count : Nat) : List Event :=
  bench.engine.events.toList.drop count

def run (bench : Bench) : List Step → List Report × Bench
  | [] => ([], bench)
  | step :: steps =>
      let (outcome, after) := bench.step step
      let report : Report :=
        { outcome
          events := after.eventsSince bench.engine.events.size
          counts := after.engine.counts }
      let (reports, last) := run after steps
      (report :: reports, last)

def finish (bench : Bench) : Bench :=
  (List.range bench.slots.length).foldl release bench

end Bench

end StreamRecorder.MemoryEngine
