import StreamRecorder.Config.Json
import StreamRecorder.Proofs.Drafts

namespace StreamRecorder

open Json

/-! ## Audio formats -/

namespace AudioFormat

inductive Field where
  | sampleRate
  | channels
  | bitsPerSample
  deriving DecidableEq

namespace Field

def key : Field → String
  | .sampleRate => "sampleRate"
  | .channels => "channels"
  | .bitsPerSample => "bitsPerSample"

def all : List Field := [.sampleRate, .channels, .bitsPerSample]

theorem mem_all (field : Field) : field ∈ all := by
  cases field <;> decide

theorem key_injective : Function.Injective key := by
  intro field other same
  cases field <;> cases other <;> first | rfl | exact absurd same (by decide)

end Field

def amount (format : AudioFormat) : Field → Nat
  | .sampleRate => format.sampleRate.toNat
  | .channels => format.channels.toNat
  | .bitsPerSample => format.bitsPerSample.toNat

def Binds (format : AudioFormat) (field : Field) (member : Member) : Prop :=
  Piece.string? member.1 = some field.key ∧
    ∃ numeral, member.2 = .number numeral ∧ numeral.Denotes (format.amount field)

namespace Draft

def full (format : AudioFormat) : Draft :=
  { sampleRate := some format.sampleRate
    channels := some format.channels
    bitsPerSample := some format.bitsPerSample }

def slots : Slots AudioFormat.Field Draft where
  key := Field.key
  Field
    | .sampleRate => UInt32
    | .channels | .bitsPerSample => UInt16
  held
    | .sampleRate => sampleRate
    | .channels => channels
    | .bitsPerSample => bitsPerSample
  put
    | .sampleRate => fun draft value => { draft with sampleRate := some value }
    | .channels => fun draft value => { draft with channels := some value }
    | .bitsPerSample => fun draft value => { draft with bitsPerSample := some value }
  reader
    | .sampleRate => (word 32).map UInt32.ofNat
    | .channels | .bitsPerSample => (word 16).map UInt16.ofNat
  meaning
    | .sampleRate => fun value => (value.word? 32).map UInt32.ofNat
    | .channels | .bitsPerSample => fun value => (value.word? 16).map UInt16.ofNat
  reads
    | .sampleRate => (reads_word 32).map UInt32.ofNat
    | .channels | .bitsPerSample => (reads_word 16).map UInt16.ofNat
  key_injective := Field.key_injective
  held_put field _ _ := by cases field <;> rfl
  held_put_of_ne {field other} apart _ _ := by
    cases field <;> cases other <;> first | rfl | exact absurd rfl apart
  put_comm {field other} apart _ _ _ := by
    cases field <;> cases other <;> first | rfl | exact absurd rfl apart

def read : AudioFormat.Field → Draft → Reader Draft
  | .sampleRate => readSampleRate
  | .channels => readChannels
  | .bitsPerSample => readBitsPerSample

theorem read_eq (field : AudioFormat.Field) (draft : Draft) :
    draft.read field = slots.into field draft := by
  cases field <;> (simp only [Slots.into, slots, Reader.map_map]; rfl)

theorem follows_slots : AudioFormat.shape.Follows slots where
  known field draft := by
    rw [← read_eq]
    cases field <;> rfl
  unknown draft key other := by
    have rate : key ≠ "sampleRate" := (other .sampleRate).symm
    have count : key ≠ "channels" := (other .channels).symm
    have bits : key ≠ "bitsPerSample" := (other .bitsPerSample).symm
    simp [shape, member, rate, count, bits]
  element field member := by
    have listed : field ∈ Field.all.map fun name draft => draft.read name := member
    obtain ⟨name, -, rfl⟩ := List.mem_map.mp listed
    exact ⟨name, funext fun draft => draft.read_eq name⟩

theorem empty_start (field : AudioFormat.Field) : slots.held field shape.start = none := by
  cases field <;> rfl

theorem complete_of_held {draft : Draft} {format : AudioFormat}
    (held : ∀ field, slots.held field draft = slots.held field (full format)) :
    draft.complete = .ok format := by
  have rate : draft.sampleRate = some format.sampleRate := held .sampleRate
  have count : draft.channels = some format.channels := held .channels
  have bits : draft.bitsPerSample = some format.bitsPerSample := held .bitsPerSample
  simp only [complete, rate, count, bits]
  rfl

end Draft

theorem Binds.slots {format : AudioFormat} {field : Field} {member : Member}
    (binds : format.Binds field member) : Draft.slots.Binds (Draft.full format) field member := by
  obtain ⟨named, numeral, value, denotes⟩ := binds
  refine ⟨named, ?_⟩
  rw [value]
  cases field with
  | sampleRate =>
      refine ⟨format.sampleRate, rfl, ?_⟩
      show ((Value.number numeral).word? 32).map UInt32.ofNat = _
      rw [denotes.word? (UInt32.toNat_lt _) (by decide)]
      exact congrArg some UInt32.ofNat_toNat
  | channels | bitsPerSample =>
      refine ⟨_, rfl, ?_⟩
      show ((Value.number numeral).word? 16).map UInt16.ofNat = _
      rw [denotes.word? (UInt16.toNat_lt _) (by decide)]
      exact congrArg some UInt16.ofNat_toNat

theorem record?_of_binds {format : AudioFormat} {fields : List Field} {members : List Member}
    (complete : fields.Perm Field.all) (binds : List.Forall₂ format.Binds fields members) :
    shape.record? (.object members) = some format := by
  have distinct : fields.Nodup := complete.nodup_iff.mpr (by decide)
  obtain ⟨filled, gathered, held, -⟩ := Draft.follows_slots.gather_of_binds distinct
    (binds.imp fun _ _ bound => bound.slots) shape.start fun field _ => Draft.empty_start field
  have all : ∀ field, Draft.slots.held field filled = Draft.slots.held field (Draft.full format) :=
    fun field => held field (complete.mem_iff.mpr field.mem_all)
  rw [Shape.record?, gathered]
  show filled.complete.toOption = some format
  rw [Draft.complete_of_held all]
  rfl

end AudioFormat

/-! ## Configurations -/

namespace Config

inductive Field where
  | outputTemplate
  | audioEnabled
  | videoEnabled
  | flushTimeout
  | audioFormat
  deriving DecidableEq

namespace Field

def key : Field → String
  | .outputTemplate => "outputTemplate"
  | .audioEnabled => "audioEnabled"
  | .videoEnabled => "videoEnabled"
  | .flushTimeout => "flushTimeoutMs"
  | .audioFormat => "audioFormat"

def all : List Field := [.outputTemplate, .audioEnabled, .videoEnabled, .flushTimeout, .audioFormat]

theorem key_injective : Function.Injective key := by
  intro field other same
  cases field <;> cases other <;> first | rfl | exact absurd same (by decide)

end Field

/-- A value that says a field of the configuration, in any way the grammar has for it. -/
inductive Tells (config : Config) : Field → Value → Prop
  | outputTemplate {pieces : List Piece} (text : Piece.string? pieces = some config.outputTemplate) :
      Tells config .outputTemplate (.string pieces)
  | audioEnabled : Tells config .audioEnabled (.word (.boolean config.audioEnabled))
  | videoEnabled : Tells config .videoEnabled (.word (.boolean config.videoEnabled))
  | flushTimeout {numeral : Numeral} (denotes : numeral.Denotes config.flushTimeout.toNat) :
      Tells config .flushTimeout (.number numeral)
  | audioFormat {fields : List AudioFormat.Field} {members : List Member}
      (complete : fields.Perm AudioFormat.Field.all)
      (binds : List.Forall₂ config.audioFormat.Binds fields members) :
      Tells config .audioFormat (.object members)

def Binds (config : Config) (field : Field) (member : Member) : Prop :=
  Piece.string? member.1 = some field.key ∧ config.Tells field member.2

def only (config : Config) (fields : List Field) : Config :=
  let defaults : Config := {}
  { outputTemplate :=
      if .outputTemplate ∈ fields then config.outputTemplate else defaults.outputTemplate
    audioEnabled := if .audioEnabled ∈ fields then config.audioEnabled else defaults.audioEnabled
    videoEnabled := if .videoEnabled ∈ fields then config.videoEnabled else defaults.videoEnabled
    flushTimeout := if .flushTimeout ∈ fields then config.flushTimeout else defaults.flushTimeout
    audioFormat := if .audioFormat ∈ fields then config.audioFormat else defaults.audioFormat }

theorem only_all (config : Config) : config.only Field.all = config := rfl

namespace Draft

def full (config : Config) : Draft :=
  { outputTemplate := some config.outputTemplate
    audioEnabled := some config.audioEnabled
    videoEnabled := some config.videoEnabled
    flushTimeout := some config.flushTimeout
    audioFormat := some config.audioFormat }

def slots : Slots Config.Field Draft where
  key := Field.key
  Field
    | .outputTemplate => String
    | .audioEnabled | .videoEnabled => Bool
    | .flushTimeout => UInt64
    | .audioFormat => AudioFormat
  held
    | .outputTemplate => outputTemplate
    | .audioEnabled => audioEnabled
    | .videoEnabled => videoEnabled
    | .flushTimeout => flushTimeout
    | .audioFormat => audioFormat
  put
    | .outputTemplate => fun draft value => { draft with outputTemplate := some value }
    | .audioEnabled => fun draft value => { draft with audioEnabled := some value }
    | .videoEnabled => fun draft value => { draft with videoEnabled := some value }
    | .flushTimeout => fun draft value => { draft with flushTimeout := some value }
    | .audioFormat => fun draft value => { draft with audioFormat := some value }
  reader
    | .outputTemplate => string
    | .audioEnabled | .videoEnabled => boolean
    | .flushTimeout => (word 64).map UInt64.ofNat
    | .audioFormat => AudioFormat.shape.reader
  meaning
    | .outputTemplate => Value.string?
    | .audioEnabled | .videoEnabled => Value.boolean?
    | .flushTimeout => fun value => (value.word? 64).map UInt64.ofNat
    | .audioFormat => AudioFormat.shape.record?
  reads
    | .outputTemplate => reads_string
    | .audioEnabled | .videoEnabled => reads_boolean
    | .flushTimeout => (reads_word 64).map UInt64.ofNat
    | .audioFormat => Shape.reads_reader AudioFormat.Draft.follows_slots.steadyFields
  key_injective := Field.key_injective
  held_put field _ _ := by cases field <;> rfl
  held_put_of_ne {field other} apart _ _ := by
    cases field <;> cases other <;> first | rfl | exact absurd rfl apart
  put_comm {field other} apart _ _ _ := by
    cases field <;> cases other <;> first | rfl | exact absurd rfl apart

def read : Config.Field → Draft → Reader Draft
  | .outputTemplate => readOutputTemplate
  | .audioEnabled => readAudioEnabled
  | .videoEnabled => readVideoEnabled
  | .flushTimeout => readFlushTimeout
  | .audioFormat => readAudioFormat

theorem read_eq (field : Config.Field) (draft : Draft) :
    draft.read field = slots.into field draft := by
  cases field <;> (simp only [Slots.into, slots, Reader.map_map]; rfl)

theorem follows_slots : Config.shape.Follows slots where
  known field draft := by
    rw [← read_eq]
    cases field <;> rfl
  unknown draft key other := by
    have template : key ≠ "outputTemplate" := (other .outputTemplate).symm
    have audio : key ≠ "audioEnabled" := (other .audioEnabled).symm
    have video : key ≠ "videoEnabled" := (other .videoEnabled).symm
    have timeout : key ≠ "flushTimeoutMs" := (other .flushTimeout).symm
    have format : key ≠ "audioFormat" := (other .audioFormat).symm
    simp [shape, member, template, audio, video, timeout, format]
  element field member := by
    have listed : field ∈ Field.all.map fun name draft => draft.read name := member
    obtain ⟨name, -, rfl⟩ := List.mem_map.mp listed
    exact ⟨name, funext fun draft => draft.read_eq name⟩

theorem empty_start (field : Config.Field) : slots.held field shape.start = none := by
  cases field <;> rfl

theorem getD_ite {α : Type} (chosen : Prop) [Decidable chosen] (value default : α) :
    (if chosen then some value else none).getD default = if chosen then value else default := by
  split_ifs <;> rfl

theorem withDefaults_of_held {draft : Draft} {config : Config} {fields : List Config.Field}
    (held : ∀ field ∈ fields, slots.held field draft = slots.held field (full config))
    (others : ∀ field, field ∉ fields → slots.held field draft = none) :
    draft.withDefaults = config.only fields := by
  have holds (field : Config.Field) : slots.held field draft =
      if field ∈ fields then slots.held field (full config) else none := by
    split_ifs with chosen
    · exact held field chosen
    · exact others field chosen
  have template : draft.outputTemplate =
      if .outputTemplate ∈ fields then some config.outputTemplate else none := holds .outputTemplate
  have audio : draft.audioEnabled =
      if .audioEnabled ∈ fields then some config.audioEnabled else none := holds .audioEnabled
  have video : draft.videoEnabled =
      if .videoEnabled ∈ fields then some config.videoEnabled else none := holds .videoEnabled
  have timeout : draft.flushTimeout =
      if .flushTimeout ∈ fields then some config.flushTimeout else none := holds .flushTimeout
  have format : draft.audioFormat =
      if .audioFormat ∈ fields then some config.audioFormat else none := holds .audioFormat
  simp only [withDefaults, only, template, audio, video, timeout, format, getD_ite]

end Draft

theorem Binds.slots {config : Config} {field : Field} {member : Member}
    (binds : config.Binds field member) : Draft.slots.Binds (Draft.full config) field member := by
  obtain ⟨key, value⟩ := member
  obtain ⟨named, tells⟩ := binds
  refine ⟨named, ?_⟩
  cases tells with
  | outputTemplate text => exact ⟨config.outputTemplate, rfl, text⟩
  | audioEnabled => exact ⟨config.audioEnabled, rfl, rfl⟩
  | videoEnabled => exact ⟨config.videoEnabled, rfl, rfl⟩
  | @flushTimeout numeral denotes =>
      refine ⟨config.flushTimeout, rfl, ?_⟩
      show ((Value.number numeral).word? 64).map UInt64.ofNat = _
      rw [denotes.word? config.flushTimeout.toNat_lt (by decide)]
      exact congrArg some UInt64.ofNat_toNat
  | audioFormat complete binds =>
      exact ⟨config.audioFormat, rfl, AudioFormat.record?_of_binds complete binds⟩

theorem record?_of_binds {config : Config} {fields : List Field} {members : List Member}
    (distinct : fields.Nodup) (binds : List.Forall₂ config.Binds fields members) :
    shape.record? (.object members) = some (config.only fields) := by
  obtain ⟨filled, gathered, held, others⟩ := Draft.follows_slots.gather_of_binds distinct
    (binds.imp fun _ _ bound => bound.slots) shape.start fun field _ => Draft.empty_start field
  have others : ∀ field, field ∉ fields → Draft.slots.held field filled = none :=
    fun field other => (others field other).trans (Draft.empty_start field)
  rw [Shape.record?, gathered]
  exact congrArg some (Draft.withDefaults_of_held held others)

end Config

end StreamRecorder
