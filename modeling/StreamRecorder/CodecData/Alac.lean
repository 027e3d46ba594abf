import StreamRecorder.AudioFormat

namespace StreamRecorder.Alac

def frameLength : UInt32 := 352

def bigEndian32 (value : UInt32) : Array UInt8 :=
  #[(value >>> 24).toUInt8, (value >>> 16).toUInt8, (value >>> 8).toUInt8, value.toUInt8]

def bigEndian16 (value : UInt16) : Array UInt8 :=
  #[(value >>> 8).toUInt8, value.toUInt8]

def atomType : Array UInt8 := #[0x61, 0x6c, 0x61, 0x63]

/-- The cookie of a format. Bit depth and channel count are cut to one byte each. -/
def magicCookie (format : AudioFormat) : Array UInt8 :=
  bigEndian32 36 ++ atomType
    ++ bigEndian32 0  -- version and flags
    ++ bigEndian32 frameLength
    ++ #[0]  -- compatible version
    ++ #[format.bitsPerSample.toUInt8]
    ++ #[40, 10, 14]  -- Rice parameters: history, initial history, limit
    ++ #[format.channels.toUInt8]
    ++ bigEndian16 255  -- longest run
    ++ bigEndian32 0  -- largest frame, unknown
    ++ bigEndian32 0  -- bit rate, unknown
    ++ bigEndian32 format.sampleRate

structure Cookie where
  size : Nat
  frameLength : Nat
  bitDepth : Nat
  channels : Nat
  sampleRate : Nat
  deriving DecidableEq

def readNumber? (bytes : Array UInt8) (offset count : Nat) : Option Nat :=
  if offset + count ≤ bytes.size then
    some ((bytes.toList.drop offset).take count |>.foldl (256 * · + ·.toNat) 0)
  else none

def readCookie? (bytes : Array UInt8) : Option Cookie := do
  let size ← readNumber? bytes 0 4
  let frameLength ← readNumber? bytes 12 4
  let bitDepth ← readNumber? bytes 17 1
  let channels ← readNumber? bytes 21 1
  let sampleRate ← readNumber? bytes 32 4
  return { size, frameLength, bitDepth, channels, sampleRate }

end StreamRecorder.Alac
