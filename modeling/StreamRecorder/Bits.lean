namespace StreamRecorder

def bitsOfNat (value : Nat) : Nat → List Bool
  | 0 => []
  | width + 1 => value.testBit width :: bitsOfNat value width

def natOfBits (bits : List Bool) : Nat :=
  bits.foldl (fun value bit => 2 * value + bit.toNat) 0

def bitsOfBytes (bytes : Array UInt8) : List Bool :=
  bytes.toList.flatMap fun byte => bitsOfNat byte.toNat 8

def takeField (width : Nat) (bits : List Bool) : Option (Nat × List Bool) :=
  if width ≤ bits.length then some (natOfBits (bits.take width), bits.drop width) else none

/-- Bytes being filled with fields. The first `used` bits are taken, and all after them are zero. -/
structure BitWriter where
  bytes : Array UInt8 := #[]
  used : Nat := 0
  deriving DecidableEq

namespace BitWriter

def putBit (writer : BitWriter) (bit : Bool) : BitWriter :=
  let offset := writer.used % 8
  let bytes := if offset = 0 then writer.bytes.push 0 else writer.bytes
  let mask := bit.toUInt8 <<< (7 - UInt8.ofNat offset)
  { bytes := bytes.modify (bytes.size - 1) (· ||| mask), used := writer.used + 1 }

def put (writer : BitWriter) (value : Nat) : Nat → BitWriter
  | 0 => writer
  | width + 1 => (writer.putBit (value.testBit width)).put value width

end BitWriter

end StreamRecorder
