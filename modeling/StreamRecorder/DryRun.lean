import StreamRecorder.Engine.Faulty
import StreamRecorder.Engine.Memory
import StreamRecorder.Owned
import StreamRecorder.Shared

namespace StreamRecorder

abbrev DryEngine := FaultyEngine MemoryEngine

class Holding (α : Type) (op : outParam Type) where
  studio : α → Studio DryEngine
  withStudio : α → Studio DryEngine → α
  recorder? : α → Option Recorder
  step? : α → op → Option α
  finish : α → α

instance : Holding (Owned DryEngine) Owned.Operation where
  studio := Owned.studio
  withStudio owned studio := { owned with studio }
  recorder? := Owned.recorder?
  step? := Owned.step?
  finish := Owned.finish

instance : Holding (Shared DryEngine) Shared.Operation where
  studio := Shared.studio
  withStudio shared studio := { shared with studio }
  recorder? := Shared.recorder?
  step? := Shared.step?
  finish := Shared.finish

namespace DryRun

inductive Step (op : Type) where
  | schedule (site : FaultyEngine.Site) (entry : Option SinkError)
  | refuseNextBuild
  | setCompletion (completion : Completion)
  | operate (operation : op)

structure Report where
  recorder : Option Recorder
  events : List Event
  counts : GraphCounts
  notices : List Notice
  gone : Bool

variable {α op : Type} [Holding α op]

def memoryEngine (holder : α) : MemoryEngine :=
  (Holding.studio holder).engine.engine

def mapEngine (holder : α) (f : DryEngine → DryEngine) : α :=
  let studio := Holding.studio holder
  Holding.withStudio holder { studio with engine := f studio.engine }

def step? (holder : α) : Step op → Option α
  | .schedule site entry => some (mapEngine holder (·.schedule entry site))
  | .refuseNextBuild => some (mapEngine holder (·.mapEngine MemoryEngine.refuseNextBuild))
  | .setCompletion completion =>
      some (mapEngine holder (·.mapEngine (MemoryEngine.setCompletion · completion)))
  | .operate operation => Holding.step? holder operation

def report (events notices : Nat) (gone : Bool) (after : α) : Report :=
  { recorder := Holding.recorder? after
    events := (memoryEngine after).events.toList.drop events
    counts := (memoryEngine after).counts
    notices := (Holding.studio after).log.toList.drop notices
    gone }

def advance (holder : α) (step : Step op) : α :=
  (step? holder step).getD holder

def reportStep (before : α) (step : Step op) : Report :=
  report (memoryEngine before).events.size (Holding.studio before).log.size
    (step? before step).isNone (advance before step)

def run (holder : α) : List (Step op) → List Report × α
  | [] => ([], holder)
  | step :: steps =>
      let (reports, last) := run (advance holder step) steps
      (reportStep holder step :: reports, last)

end DryRun

structure DryRun where
  opening : DryRun.Report
  steps : List DryRun.Report
  closing : DryRun.Report
  engine : MemoryEngine

def DryRun.ofSteps {α op : Type} [Holding α op] (holder : α) (steps : List (Step op)) : DryRun :=
  let (reports, last) := run holder steps
  let final := Holding.finish last
  { opening := report 0 0 false holder
    steps := reports
    closing := report (memoryEngine last).events.size (Holding.studio last).log.size false final
    engine := memoryEngine final }

end StreamRecorder
