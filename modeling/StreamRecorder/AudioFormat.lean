namespace StreamRecorder

structure AudioFormat where
  sampleRate : UInt32 := 44100
  channels : UInt16 := 2
  bitsPerSample : UInt16 := 16
  deriving DecidableEq

namespace AudioFormat

inductive Fault where
  | sampleRate (hertz : UInt32)
  | channels (count : UInt16)
  | bitsPerSample (bits : UInt16)
  deriving DecidableEq

def Fault.reason : Fault → String
  | .sampleRate hertz => "unsupported sample rate: " ++ toString hertz.toNat ++ " Hz"
  | .channels count => "unsupported channel count: " ++ toString count.toNat
  | .bitsPerSample bits =>
      "bits per sample must be 8, 16, 24 or 32, got " ++ toString bits.toNat

def bytesPerFrame (format : AudioFormat) : Nat :=
  format.channels.toNat * (format.bitsPerSample.toNat / 8)

def supportsSampleRate (hertz : UInt32) : Bool :=
  8000 ≤ hertz && hertz ≤ 192000

/-- The counts with a channel configuration of their own: one to six, and eight. -/
def supportsChannels (count : UInt16) : Bool :=
  (1 ≤ count && count ≤ 6) || count == 8

def supportsBits (bits : UInt16) : Bool :=
  bits == 8 || bits == 16 || bits == 24 || bits == 32

def validate (format : AudioFormat) : Except Fault Unit :=
  if !supportsSampleRate format.sampleRate then .error (.sampleRate format.sampleRate)
  else if !supportsChannels format.channels then .error (.channels format.channels)
  else if !supportsBits format.bitsPerSample then .error (.bitsPerSample format.bitsPerSample)
  else .ok ()

theorem validate_eq_ok_iff {format : AudioFormat} : format.validate = .ok () ↔
    (8000 ≤ format.sampleRate.toNat ∧ format.sampleRate.toNat ≤ 192000) ∧
      (1 ≤ format.channels.toNat ∧ format.channels.toNat ≤ 6 ∨ format.channels.toNat = 8) ∧
      (format.bitsPerSample.toNat = 8 ∨ format.bitsPerSample.toNat = 16 ∨
        format.bitsPerSample.toNat = 24 ∨ format.bitsPerSample.toNat = 32) := by
  have rate : supportsSampleRate format.sampleRate = true ↔
      8000 ≤ format.sampleRate.toNat ∧ format.sampleRate.toNat ≤ 192000 := by
    simp [supportsSampleRate, UInt32.le_iff_toNat_le]
  have channels : supportsChannels format.channels = true ↔
      1 ≤ format.channels.toNat ∧ format.channels.toNat ≤ 6 ∨ format.channels.toNat = 8 := by
    simp [supportsChannels, UInt16.le_iff_toNat_le, ← UInt16.toNat_inj]
  have bits : supportsBits format.bitsPerSample = true ↔
      format.bitsPerSample.toNat = 8 ∨ format.bitsPerSample.toNat = 16 ∨
        format.bitsPerSample.toNat = 24 ∨ format.bitsPerSample.toNat = 32 := by
    simp [supportsBits, ← UInt16.toNat_inj, or_assoc]
  rw [← rate, ← channels, ← bits, validate]
  cases supportsSampleRate format.sampleRate <;> cases supportsChannels format.channels <;>
    cases supportsBits format.bitsPerSample <;> simp

end AudioFormat

end StreamRecorder
