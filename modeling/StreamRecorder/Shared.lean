import StreamRecorder.Command

/-!
# Shared handles

A recorder that several connections use through handles, one call after another. A handle can be
cloned, dropped or destroyed, which stops the recording first. The recorder lives as long as one
handle does, and its live recording is closed when the last handle goes.
-/

namespace StreamRecorder

inductive Call where
  | chooseAudio (compressionType : UInt8)
  | chooseVideo (hevc : Bool)
  | pushVideo (data : Payload) (timestamp : UInt64) (memory : Memory)
  | pushAudio (data : Payload) (timestamp : UInt64) (memory : Memory)
  | stop

def Call.command : Call → Command
  | .chooseAudio compressionType => .chooseAudio (.ofCompressionType compressionType)
  | .chooseVideo hevc => .chooseVideo hevc
  | .pushVideo data timestamp memory => .pushVideo data timestamp memory
  | .pushAudio data timestamp memory => .pushAudio data timestamp memory
  | .stop => .stop

structure Shared (σ : Type) where
  studio : Studio σ
  /-- Whether each handle is still there, in the order in which they were made. -/
  handles : List Bool := [true]

namespace Shared

inductive Operation where
  | call (handle : Nat) (call : Call)
  | clone (handle : Nat)
  | drop (handle : Nat)
  | destroy (handle : Nat)

def Operation.handle : Operation → Nat
  | .call handle _ | .clone handle | .drop handle | .destroy handle => handle

variable {σ : Type}

def hasHandle (shared : Shared σ) (handle : Nat) : Bool :=
  shared.handles.getD handle false

def isAlive (shared : Shared σ) : Bool :=
  shared.handles.any id

def recorder? (shared : Shared σ) : Option Recorder :=
  if shared.isAlive then some shared.studio.recorder else none

variable [Engine σ]

def drop (shared : Shared σ) (handle : Nat) : Shared σ :=
  let rest := { shared with handles := shared.handles.set handle false }
  if rest.isAlive then rest else { rest with studio := rest.studio.teardown }

def step (shared : Shared σ) : Operation → Shared σ
  | .call _ call => { shared with studio := shared.studio.perform call.command }
  | .clone _ => { shared with handles := shared.handles ++ [true] }
  | .drop handle => shared.drop handle
  | .destroy handle => { shared with studio := shared.studio.stop }.drop handle

def step? (shared : Shared σ) (operation : Operation) : Option (Shared σ) :=
  if shared.hasHandle operation.handle then some (shared.step operation) else none

def finish (shared : Shared σ) : Shared σ :=
  (List.range shared.handles.length).foldl
    (fun shared handle => if shared.hasHandle handle then shared.drop handle else shared) shared

end Shared

end StreamRecorder
