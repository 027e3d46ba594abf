import StreamRecorder.AudioFormat
import StreamRecorder.Bits

namespace StreamRecorder.AacEld

/-- The MPEG-4 audio object type of AAC-ELD. -/
def objectType : Nat := 39

def indexedRates : List UInt32 :=
  [96000, 88200, 64000, 48000, 44100, 32000, 24000, 22050, 16000, 12000, 11025, 8000, 7350]

def explicitRate : Nat := 15

/-- The channel configuration of a channel count; 0 stands for a layout described in the stream. -/
def channelConfiguration (channels : UInt16) : Nat :=
  if 1 ≤ channels ∧ channels ≤ 6 then channels.toNat
  else if channels = 8 then 7
  else 0

def putRate (writer : BitWriter) (rate : UInt32) : BitWriter :=
  match indexedRates.idxOf? rate with
  | some index => writer.put index 4
  | none => (writer.put explicitRate 4).put rate.toNat 24

/-- The configuration of a format. Object types above 30 are escaped by 31, and hold their excess
over 32 in six bits. -/
def codecData (format : AudioFormat) : Array UInt8 :=
  let writer := (({} : BitWriter).put 31 5).put (objectType - 32) 6
  let writer := (putRate writer format.sampleRate).put (channelConfiguration format.channels) 4
  let writer := writer.put 1 1  -- frames of 480 samples
  let writer := writer.put 0 3  -- resilience of sections, scale factors and spectral data
  let writer := writer.put 0 1  -- no band replication
  let writer := writer.put 0 4  -- no extension follows
  writer.bytes

structure Config where
  objectType : Nat
  rateIndex : Nat
  rate : Nat
  channelConfiguration : Nat
  shortFrames : Nat
  resilience : Nat
  bandReplication : Nat
  extension : Nat
  padding : List Bool
  deriving DecidableEq

def takeObjectType (bits : List Bool) : Option (Nat × List Bool) := do
  let (type, bits) ← takeField 5 bits
  if type = 31 then
    let (excess, bits) ← takeField 6 bits
    return (32 + excess, bits)
  return (type, bits)

def takeRate (bits : List Bool) : Option (Nat × Nat × List Bool) := do
  let (index, bits) ← takeField 4 bits
  if index = explicitRate then
    let (rate, bits) ← takeField 24 bits
    return (index, rate, bits)
  let rate ← indexedRates[index]?
  return (index, rate.toNat, bits)

def readConfig? (bytes : Array UInt8) : Option Config := do
  let (objectType, bits) ← takeObjectType (bitsOfBytes bytes)
  let (rateIndex, rate, bits) ← takeRate bits
  let (channelConfiguration, bits) ← takeField 4 bits
  let (shortFrames, bits) ← takeField 1 bits
  let (resilience, bits) ← takeField 3 bits
  let (bandReplication, bits) ← takeField 1 bits
  let (extension, padding) ← takeField 4 bits
  return { objectType, rateIndex, rate, channelConfiguration, shortFrames, resilience,
           bandReplication, extension, padding }

end StreamRecorder.AacEld
