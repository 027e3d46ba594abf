import StreamRecorder.SinkError

namespace StreamRecorder

abbrev Payload := Array UInt8

/-- Which payload sizes can be had at the moment: of a copied frame, and of silence. -/
structure Memory where
  frame : Nat → Bool
  silence : Nat → Bool

namespace Memory

def addressable : Nat := 1 <<< 47

def whole : Memory :=
  { frame := (· < addressable), silence := (· < addressable) }

def upTo (limit : Nat) : Memory :=
  { frame size := size ≤ limit && whole.frame size
    silence size := size ≤ limit && whole.silence size }

end Memory

structure Buffer where
  data : Payload
  presentation : UInt64 := 0
  /-- Frames arrive in the order they are presented, so this equals the presentation time. -/
  decode : UInt64 := 0
  duration : Option UInt64 := none
  deriving DecidableEq

namespace Buffer

def copy (fits : Nat → Bool) (data : Payload) : Except SinkError Buffer :=
  if fits data.size then .ok { data } else .error (.allocation data.size)

def zeroed (fits : Nat → Bool) (size : Nat) : Except SinkError Buffer :=
  if fits size then .ok { data := Array.replicate size 0 } else .error (.allocation size)

def withTimestamp (buffer : Buffer) (timestamp : UInt64) : Buffer :=
  { buffer with presentation := timestamp, decode := timestamp }

def withDuration (buffer : Buffer) (duration : UInt64) : Buffer :=
  { buffer with duration := some duration }

def size (buffer : Buffer) : Nat := buffer.data.size

def isEmpty (buffer : Buffer) : Bool := buffer.data.isEmpty

end Buffer

end StreamRecorder
