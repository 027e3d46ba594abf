import StreamRecorder.AudioFormat
import StreamRecorder.Buffer

namespace StreamRecorder.Silence

def nanosPerSecond : Nat := 1000000000

def sampleCount (gap : UInt64) (format : AudioFormat) : UInt64 :=
  UInt64.ofNat (gap.toNat * format.sampleRate.toNat / nanosPerSecond)

def length (gap : UInt64) (format : AudioFormat) : UInt64 :=
  sampleCount gap format * UInt64.ofNat format.bytesPerFrame

def buffer (fits : Nat → Bool) (gap : UInt64) (format : AudioFormat) : Except SinkError Buffer :=
  (Buffer.zeroed fits (length gap format).toNat).map fun silence =>
    (silence.withTimestamp 0).withDuration gap

end StreamRecorder.Silence
