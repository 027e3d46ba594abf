import StreamRecorder.CodecData.AacEld
import StreamRecorder.Proofs.BitStrings

namespace StreamRecorder.AacEld

def rateIndex (rate : UInt32) : Nat :=
  (indexedRates.idxOf? rate).getD explicitRate

def rateBits (rate : UInt32) : List Bool :=
  match indexedRates.idxOf? rate with
  | some index => bitsOfNat index 4
  | none => bitsOfNat explicitRate 4 ++ bitsOfNat rate.toNat 24

theorem rateIndex_of_indexed {rate : UInt32} {index : Nat}
    (indexed : indexedRates.idxOf? rate = some index) :
    rateIndex rate = index ∧ index < 13 ∧ indexedRates[index]? = some rate := by
  obtain ⟨bound, found, -⟩ := List.idxOf?_eq_some_iff.mp indexed
  exact ⟨by rw [rateIndex, indexed]; rfl, bound, List.getElem?_eq_some_iff.mpr ⟨bound, found⟩⟩

theorem rateIndex_eq_explicit_iff (rate : UInt32) :
    rateIndex rate = explicitRate ↔ rate ∉ indexedRates := by
  rw [← List.idxOf?_eq_none_iff]
  cases indexed : indexedRates.idxOf? rate with
  | none => simp [rateIndex, indexed]
  | some index =>
      obtain ⟨same, bound, -⟩ := rateIndex_of_indexed indexed
      rw [same, explicitRate]
      simp
      omega

theorem getElem?_rateIndex {rate : UInt32} (listed : rate ∈ indexedRates) :
    indexedRates[rateIndex rate]? = some rate := by
  cases indexed : indexedRates.idxOf? rate with
  | none => exact absurd listed (List.idxOf?_eq_none_iff.mp indexed)
  | some index =>
      obtain ⟨same, -, found⟩ := rateIndex_of_indexed indexed
      rw [same, found]

theorem length_rateBits (rate : UInt32) :
    (rateBits rate).length = if rate ∈ indexedRates then 4 else 28 := by
  unfold rateBits
  split
  · rename_i index indexed
    have listed : rate ∈ indexedRates := by
      by_contra missing
      rw [List.idxOf?_eq_none_iff.mpr missing] at indexed
      cases indexed
    rw [if_pos listed, length_bitsOfNat]
  · rename_i indexed
    rw [if_neg (List.idxOf?_eq_none_iff.mp indexed), List.length_append, length_bitsOfNat,
      length_bitsOfNat]

theorem putRate_holds {writer : BitWriter} {bits : List Bool} (holds : writer.Holds bits)
    (rate : UInt32) : (putRate writer rate).Holds (bits ++ rateBits rate) := by
  cases indexed : indexedRates.idxOf? rate with
  | none =>
      simp only [putRate, rateBits, indexed, ← List.append_assoc]
      exact (holds.put explicitRate 4).put rate.toNat 24
  | some index =>
      simp only [putRate, rateBits, indexed]
      exact holds.put index 4

theorem toNat_lt_of_indexed {rate : UInt32} (listed : rate ∈ indexedRates) :
    rate.toNat < 2 ^ 24 := by
  have slow : ∀ rate ∈ indexedRates, rate ≤ 96000 := by simp [indexedRates]
  have bound : rate.toNat ≤ 96000 := UInt32.le_iff_toNat_le.mp (slow rate listed)
  exact bound.trans_lt (by decide)

theorem takeRate_rateBits (rate : UInt32) (rest : List Bool) :
    takeRate (rateBits rate ++ rest) = some (rateIndex rate, rate.toNat % 2 ^ 24, rest) := by
  cases indexed : indexedRates.idxOf? rate with
  | none =>
      simp [takeRate, rateBits, rateIndex, indexed, List.append_assoc, takeField_bitsOfNat,
        explicitRate]
  | some index =>
      obtain ⟨same, bound, found⟩ := rateIndex_of_indexed indexed
      have narrow : index % 2 ^ 4 = index := Nat.mod_eq_of_lt (by omega)
      have inTable : ¬ index = explicitRate := by rw [explicitRate]; omega
      have whole : rate.toNat % 2 ^ 24 = rate.toNat :=
        Nat.mod_eq_of_lt (toNat_lt_of_indexed (List.mem_of_getElem? found))
      simp only [takeRate, rateBits, indexed, takeField_bitsOfNat, narrow, Option.bind_eq_bind,
        Option.bind_some, if_neg inTable, found, same, whole]
      rfl

def laterBits (channels : UInt16) : List Bool :=
  bitsOfNat (channelConfiguration channels) 4 ++
    (bitsOfNat 1 1 ++ (bitsOfNat 0 3 ++ (bitsOfNat 0 1 ++ bitsOfNat 0 4)))

def configBits (format : AudioFormat) : List Bool :=
  bitsOfNat 31 5 ++ (bitsOfNat (objectType - 32) 6 ++
    (rateBits format.sampleRate ++ laterBits format.channels))

theorem length_configBits (format : AudioFormat) :
    (configBits format).length = if format.sampleRate ∈ indexedRates then 28 else 52 := by
  simp only [configBits, laterBits, List.length_append, length_bitsOfNat, length_rateBits]
  split <;> rfl

theorem codecData_holds (format : AudioFormat) :
    ∃ writer : BitWriter, writer.bytes = codecData format ∧ writer.Holds (configBits format) := by
  have typed := (BitWriter.Holds.fresh.put 31 5).put (objectType - 32) 6
  have rated := putRate_holds typed format.sampleRate
  have counted := rated.put (channelConfiguration format.channels) 4
  have whole := (((counted.put 1 1).put 0 3).put 0 1).put 0 4
  refine ⟨_, rfl, ?_⟩
  simpa only [configBits, laterBits, List.append_assoc, List.nil_append] using whole

theorem codecData_size (format : AudioFormat) :
    (codecData format).size = if format.sampleRate ∈ indexedRates then 4 else 7 := by
  obtain ⟨writer, bytes, holds⟩ := codecData_holds format
  rw [← bytes, holds.size, length_configBits]
  split <;> rfl

theorem bitsOfBytes_codecData (format : AudioFormat) :
    bitsOfBytes (codecData format) = configBits format ++ List.replicate 4 false := by
  obtain ⟨writer, bytes, holds⟩ := codecData_holds format
  rw [← bytes, holds.bytes, length_configBits]
  split <;> rfl

theorem takeObjectType_escaped (rest : List Bool) :
    takeObjectType (bitsOfNat 31 5 ++ (bitsOfNat (objectType - 32) 6 ++ rest)) =
      some (objectType, rest) := by
  simp [takeObjectType, takeField_bitsOfNat, objectType]

theorem channelConfiguration_lt (channels : UInt16) : channelConfiguration channels < 2 ^ 4 := by
  unfold channelConfiguration
  split
  · rename_i few
    have bound := UInt16.le_iff_toNat_le.mp few.2
    exact bound.trans_lt (by decide)
  · split <;> decide

def described (format : AudioFormat) : Config :=
  { objectType
    rateIndex := rateIndex format.sampleRate
    rate := format.sampleRate.toNat % 2 ^ 24
    channelConfiguration := channelConfiguration format.channels
    shortFrames := 1
    resilience := 0
    bandReplication := 0
    extension := 0
    padding := List.replicate 4 false }

theorem readConfig?_codecData (format : AudioFormat) :
    readConfig? (codecData format) = some (described format) := by
  have channels :
      channelConfiguration format.channels % 2 ^ 4 = channelConfiguration format.channels :=
    Nat.mod_eq_of_lt (channelConfiguration_lt format.channels)
  rw [readConfig?, bitsOfBytes_codecData]
  simp only [configBits, laterBits, List.append_assoc, takeObjectType_escaped, takeRate_rateBits,
    takeField_bitsOfNat, channels, Option.bind_eq_bind, Option.bind_some]
  rfl

def channelCount? (configuration : Nat) : Option UInt16 :=
  if 1 ≤ configuration ∧ configuration ≤ 6 then some (.ofNat configuration)
  else if configuration = 7 then some 8
  else none

variable {format : AudioFormat}

theorem channelCount?_of_valid (valid : format.validate = .ok ()) :
    channelCount? (channelConfiguration format.channels) = some format.channels := by
  obtain ⟨-, channels, -⟩ := AudioFormat.validate_eq_ok_iff.mp valid
  rcases channels with ⟨atLeast, atMost⟩ | eight
  · have few : 1 ≤ format.channels ∧ format.channels ≤ 6 :=
      ⟨UInt16.le_iff_toNat_le.mpr atLeast, UInt16.le_iff_toNat_le.mpr atMost⟩
    rw [channelConfiguration, if_pos few, channelCount?, if_pos ⟨atLeast, atMost⟩,
      UInt16.ofNat_toNat]
  · obtain same : format.channels = 8 := UInt16.toNat_inj.mp eight
    rw [same]
    rfl

theorem rate_of_valid (valid : format.validate = .ok ()) :
    (described format).rate = format.sampleRate.toNat := by
  obtain ⟨⟨-, rate⟩, -⟩ := AudioFormat.validate_eq_ok_iff.mp valid
  exact Nat.mod_eq_of_lt (rate.trans_lt (by decide))

theorem rate_and_channels_of_codecData_eq {other : AudioFormat}
    (valid : format.validate = .ok ()) (otherValid : other.validate = .ok ())
    (same : codecData format = codecData other) :
    format.sampleRate = other.sampleRate ∧ format.channels = other.channels := by
  have read := readConfig?_codecData format
  rw [same, readConfig?_codecData, Option.some.injEq] at read
  constructor
  · have rates := congrArg Config.rate read
    rw [rate_of_valid valid, rate_of_valid otherValid] at rates
    exact (UInt32.toNat_inj.mp rates).symm
  · have counts := congrArg (fun config => channelCount? config.channelConfiguration) read
    simp only [described, channelCount?_of_valid valid, channelCount?_of_valid otherValid,
      Option.some.injEq] at counts
    exact counts.symm

/-- A configuration reads back as the fields it was made of, and one of a valid format tells rate and
channels. -/
theorem codecData_reads_back (format : AudioFormat) :
    (∃ index : Nat,
      readConfig? (codecData format) = some
        { objectType := 39
          rateIndex := index
          rate := format.sampleRate.toNat % 2 ^ 24
          channelConfiguration := channelConfiguration format.channels
          shortFrames := 1
          resilience := 0
          bandReplication := 0
          extension := 0
          padding := List.replicate 4 false } ∧
      (index = explicitRate ↔ format.sampleRate ∉ indexedRates) ∧
      (format.sampleRate ∈ indexedRates → indexedRates[index]? = some format.sampleRate)) ∧
    (codecData format).size = (if format.sampleRate ∈ indexedRates then 4 else 7) ∧
    (format.validate = .ok () →
      (∃ config, readConfig? (codecData format) = some config ∧
        config.rate = format.sampleRate.toNat ∧
        channelCount? config.channelConfiguration = some format.channels) ∧
      ∀ other : AudioFormat, other.validate = .ok () → codecData format = codecData other →
        format.sampleRate = other.sampleRate ∧ format.channels = other.channels) := by
  refine ⟨⟨rateIndex format.sampleRate, readConfig?_codecData format,
    rateIndex_eq_explicit_iff format.sampleRate, getElem?_rateIndex⟩, codecData_size format, ?_⟩
  intro valid
  refine ⟨⟨described format, readConfig?_codecData format, rate_of_valid valid,
    channelCount?_of_valid valid⟩, ?_⟩
  intro other otherValid same
  exact rate_and_channels_of_codecData_eq valid otherValid same

theorem codecData_reads_back_of_explicit_rate :
    let format : AudioFormat := { sampleRate := 176400, channels := 8, bitsPerSample := 24 }
    format.validate = .ok () ∧ (codecData format).size = 7 ∧
      ∃ config, readConfig? (codecData format) = some config ∧ config.rate = 176400 ∧
        channelCount? config.channelConfiguration = some 8 := by
  intro format
  have valid : format.validate = .ok () := by decide
  obtain ⟨-, size, recovered⟩ := codecData_reads_back format
  exact ⟨valid, size.trans (by decide), (recovered valid).1⟩

end StreamRecorder.AacEld
