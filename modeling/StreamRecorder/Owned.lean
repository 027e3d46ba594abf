import StreamRecorder.Command

namespace StreamRecorder

structure Owned (σ : Type) where
  studio : Studio σ
  held : Bool := true

namespace Owned

inductive Operation where
  | perform (command : Command)
  | destroy
  | drop

variable {σ : Type}

def recorder? (owned : Owned σ) : Option Recorder :=
  if owned.held then some owned.studio.recorder else none

variable [Engine σ]

def drop (owned : Owned σ) : Owned σ :=
  { studio := owned.studio.teardown, held := false }

def step? (owned : Owned σ) (operation : Operation) : Option (Owned σ) :=
  if owned.held then
    match operation with
    | .perform command => some { owned with studio := owned.studio.perform command }
    | .destroy => some { studio := owned.studio.destroy, held := false }
    | .drop => some owned.drop
  else none

def finish (owned : Owned σ) : Owned σ :=
  if owned.held then owned.drop else owned

end Owned

end StreamRecorder
