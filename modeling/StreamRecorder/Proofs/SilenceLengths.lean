import StreamRecorder.Proofs.Arrivals
import StreamRecorder.Proofs.Unrecorded

namespace StreamRecorder

namespace Silence

def frameCount (gap : UInt64) (format : AudioFormat) : Nat :=
  gap.toNat * format.sampleRate.toNat / nanosPerSecond

structure Exact (format : AudioFormat) : Prop where
  frame : 0 < format.bytesPerFrame
  product : ∀ gap : UInt64, gap.toNat * format.sampleRate.toNat < 2 ^ 128
  count : ∀ gap, frameCount gap format < 2 ^ 64 ∧
    (sampleCount gap format).toNat = frameCount gap format
  floor : ∀ gap : UInt64,
    frameCount gap format * 10 ^ 9 ≤ gap.toNat * format.sampleRate.toNat ∧
      gap.toNat * format.sampleRate.toNat < (frameCount gap format + 1) * 10 ^ 9
  length : ∀ gap, frameCount gap format * format.bytesPerFrame < 2 ^ 64 ∧
    (Silence.length gap format).toNat =
      frameCount gap format * (format.channels.toNat * (format.bitsPerSample.toNat / 8))
  monotone : ∀ short long, short ≤ long →
    Silence.length short format ≤ Silence.length long format
  parted : ∀ first second : UInt64, first.toNat + second.toNat < 2 ^ 64 →
    let parts := (Silence.length first format).toNat + (Silence.length second format).toNat
    let whole := (Silence.length (first + second) format).toNat
    parts ≤ whole ∧ whole ≤ parts + format.bytesPerFrame

variable {format : AudioFormat}

theorem bytesPerFrame_of_valid (valid : format.validate = .ok ()) :
    0 < format.bytesPerFrame ∧ format.bytesPerFrame ≤ 32 := by
  obtain ⟨-, channels, bits⟩ := AudioFormat.validate_eq_ok_iff.mp valid
  have few : 1 ≤ format.channels.toNat ∧ format.channels.toNat ≤ 8 := by omega
  have sample : 1 ≤ format.bitsPerSample.toNat / 8 ∧ format.bitsPerSample.toNat / 8 ≤ 4 := by omega
  exact ⟨Nat.mul_pos few.1 sample.1, Nat.mul_le_mul few.2 sample.2⟩

/-- A word of nanoseconds is some 584 years, and no valid rate is above 192 kHz. -/
theorem frameCount_of_valid (valid : format.validate = .ok ()) (gap : UInt64) :
    frameCount gap format < 2 ^ 52 := by
  obtain ⟨⟨-, rate⟩, -⟩ := AudioFormat.validate_eq_ok_iff.mp valid
  have product : gap.toNat * format.sampleRate.toNat ≤ 2 ^ 64 * 192000 :=
    Nat.mul_le_mul gap.toNat_lt.le rate
  calc frameCount gap format
      ≤ 2 ^ 64 * 192000 / nanosPerSecond := Nat.div_le_div_right product
    _ < 2 ^ 52 := by decide

theorem sampleCount_toNat (valid : format.validate = .ok ()) (gap : UInt64) :
    (sampleCount gap format).toNat = frameCount gap format :=
  UInt64.toNat_ofNat_of_lt' ((frameCount_of_valid valid gap).trans (by decide))

theorem byteCount_of_valid (valid : format.validate = .ok ()) (gap : UInt64) :
    frameCount gap format * format.bytesPerFrame < 2 ^ 64 :=
  calc frameCount gap format * format.bytesPerFrame
      ≤ 2 ^ 52 * 32 :=
        Nat.mul_le_mul (frameCount_of_valid valid gap).le (bytesPerFrame_of_valid valid).2
    _ < 2 ^ 64 := by decide

theorem length_toNat (valid : format.validate = .ok ()) (gap : UInt64) :
    (Silence.length gap format).toNat = frameCount gap format * format.bytesPerFrame := by
  have frame : (UInt64.ofNat format.bytesPerFrame).toNat = format.bytesPerFrame :=
    UInt64.toNat_ofNat_of_lt' ((bytesPerFrame_of_valid valid).2.trans_lt (by decide))
  rw [Silence.length, UInt64.toNat_mul, sampleCount_toNat valid, frame]
  exact Nat.mod_eq_of_lt (byteCount_of_valid valid gap)

theorem frameCount_mono {short long : UInt64} (le : short ≤ long) :
    frameCount short format ≤ frameCount long format :=
  Nat.div_le_div_right (Nat.mul_le_mul_right _ (UInt64.le_iff_toNat_le.mp le))

theorem frameCount_add (format : AudioFormat) {first second : UInt64}
    (fits : first.toNat + second.toNat < 2 ^ 64) :
    let parts := frameCount first format + frameCount second format
    parts ≤ frameCount (first + second) format ∧
      frameCount (first + second) format ≤ parts + 1 := by
  have sum : (first + second).toNat = first.toNat + second.toNat := by
    rw [UInt64.toNat_add, Nat.mod_eq_of_lt fits]
  simp only [frameCount, sum, Nat.add_mul, nanosPerSecond]
  omega

theorem exact_of_valid (valid : format.validate = .ok ()) : Exact format := by
  refine ⟨(bytesPerFrame_of_valid valid).1, ?product, ?count, ?floor, ?length, ?monotone, ?parted⟩
  case product =>
    intro gap
    calc gap.toNat * format.sampleRate.toNat
        < 2 ^ 64 * 2 ^ 32 := Nat.mul_lt_mul'' gap.toNat_lt format.sampleRate.toNat_lt
      _ ≤ 2 ^ 128 := by decide
  case count =>
    intro gap
    exact ⟨(frameCount_of_valid valid gap).trans (by decide), sampleCount_toNat valid gap⟩
  case floor =>
    intro gap
    unfold frameCount nanosPerSecond
    omega
  case length =>
    intro gap
    exact ⟨byteCount_of_valid valid gap, length_toNat valid gap⟩
  case monotone =>
    intro short long le
    rw [UInt64.le_iff_toNat_le, length_toNat valid, length_toNat valid]
    exact Nat.mul_le_mul_right _ (frameCount_mono le)
  case parted =>
    intro first second fits
    obtain ⟨atLeast, atMost⟩ := frameCount_add format fits
    simp only [length_toNat valid, ← Nat.add_mul]
    refine ⟨Nat.mul_le_mul_right _ atLeast, ?_⟩
    rw [← Nat.succ_mul]
    exact Nat.mul_le_mul_right _ atMost

end Silence

theorem Config.valid_of_isActive {config : Config} (active : config.effective.isActive = true) :
    config.audioFormat.validate = .ok () := by
  have valid : config.validate = .ok () := by
    by_contra invalid
    rw [effective_isActive (.inr invalid)] at active
    cases active
  rw [validate] at valid
  split at valid
  · cases valid
  · cases format : config.audioFormat.validate with
    | ok _ => rfl
    | error fault =>
        rw [format] at valid
        cases valid

theorem Errand.pads (config : Config) (errand : Errand) :
    ∀ request ∈ errand.requests config, request.PadsWithSilence config.audioFormat := by
  intro request member
  cases errand with
  | build plan =>
      rw [List.mem_singleton.mp member]
      trivial
  | deliver graph frame presentation =>
      rw [List.mem_singleton.mp member]
      exact fun lasting => by cases lasting
  | deliverPadded graph gap data presentation =>
      rcases List.mem_pair.mp member with rfl | rfl
      · exact fun _ => ⟨gap, rfl⟩
      · exact fun lasting => by cases lasting
  | close session =>
      rcases List.mem_append.mp member with streams | ending
      · obtain ⟨endpoint, -, rfl⟩ := List.mem_map.mp streams
        trivial
      · simp only [List.mem_cons, List.not_mem_nil, or_false] at ending
        rcases ending with rfl | rfl | rfl <;> trivial

namespace Owned

variable {σ : Type} [Engine σ]

theorem exchanged_pads (config : Config) (engine : σ) (operations : List Operation) :
    ∀ request ∈ (exchanged config engine operations).map Exchange.request,
      request.PadsWithSilence config.audioFormat := by
  intro request member
  obtain ⟨errands, asked⟩ := exchanged_errands config engine operations
  rw [asked] at member
  obtain ⟨errand, -, within⟩ := List.mem_flatMap.mp member
  exact errand.pads config request within

theorem valid_of_exchanged {config : Config} {engine : σ} {operations : List Operation}
    {request : Request} (asked : request ∈ (exchanged config engine operations).map Exchange.request) :
    config.audioFormat.validate = .ok () := by
  apply Config.valid_of_isActive
  by_contra inactive
  have unasked := (course_inert (Bool.eq_false_of_not_eq_true inactive) engine operations).engine
  rw [exchanged, unasked] at asked
  cases asked

/-- No timestamp makes silence come out wrong: in a valid format its length is exact whatever the
gap, and a format has to be valid for a graph to go live or to be pushed silence. -/
theorem course_silence_is_exact (config : Config) (engine : σ) (operations : List Operation) :
    let recorder := (course config engine operations).studio.recorder
    (∀ format : AudioFormat, format.validate = .ok () → Silence.Exact format) ∧
      (recorder.config.isActive = true ∨ recorder.session.isSome →
        Silence.Exact recorder.config.audioFormat) ∧
      ∀ graph endpoint buffer gap,
        .push graph endpoint buffer ∈ (exchanged config engine operations).map Exchange.request →
        buffer.duration = some gap →
          endpoint = .audio ∧ Silence.Exact config.audioFormat ∧
          buffer.data = Array.replicate
            (Silence.frameCount gap config.audioFormat * config.audioFormat.bytesPerFrame) 0 := by
  intro recorder
  refine ⟨fun format => Silence.exact_of_valid, ?_, ?_⟩
  · intro working
    obtain ⟨sound, configured⟩ := course_sound config engine operations
    have active : recorder.config.isActive = true := by
      rcases working with active | live
      · exact active
      · obtain ⟨session, live⟩ := Option.isSome_iff_exists.mp live
        exact sound.active session live
    have valid : config.audioFormat.validate = .ok () :=
      Config.valid_of_isActive (configured ▸ active)
    rw [configured, config.effective_audioFormat]
    exact Silence.exact_of_valid valid
  · intro graph endpoint buffer gap member lasting
    have valid := valid_of_exchanged member
    obtain ⟨filled, silence⟩ := exchanged_pads config engine operations _ member
      (Option.isSome_of_eq_some lasting)
    rw [Track.silence, Prod.mk.injEq] at silence
    obtain ⟨rfl, rfl⟩ := silence
    obtain rfl : filled = gap := Option.some.inj lasting
    exact ⟨rfl, Silence.exact_of_valid valid, by rw [Silence.length_toNat valid]⟩

theorem course_silence_is_exact_of_late_audio :
    let format : AudioFormat := { sampleRate := 192000, channels := 8, bitsPerSample := 32 }
    let config : Config := { audioFormat := format }
    let engine : DryEngine := { engine := {} }
    let operations : List Operation :=
      [.perform (.chooseVideo false), .perform (.pushVideo #[1] 5000000000 .whole),
        .perform (.pushAudio #[2] 5000007000 .whole), .perform .stop]
    let recorder := (course config engine operations).studio.recorder
    let silence : Buffer := { data := Array.replicate 32 0, duration := some 7000 }
    format.validate = .ok () ∧
      (Silence.length 0xffffffffffffffff format).toNat = 113336795588871456 ∧
      recorder.config.isActive = true ∧ 0 < recorder.config.audioFormat.bytesPerFrame ∧
      .push 1 .audio silence ∈ (exchanged config engine operations).map Exchange.request ∧
      silence.data = Array.replicate (Silence.frameCount 7000 format * format.bytesPerFrame) 0 := by
  intro format config engine operations recorder silence
  obtain ⟨exact, active, pushed⟩ := course_silence_is_exact config engine operations
  have valid : format.validate = .ok () := by decide
  have working : recorder.config.isActive = true := by decide +kernel
  have member : .push 1 .audio silence ∈
      (exchanged config engine operations).map Exchange.request := by decide +kernel
  have longest := ((exact format valid).length 0xffffffffffffffff).2
  have filled := (pushed 1 .audio silence 7000 member rfl).2.2
  exact ⟨valid, longest.trans (by decide), working, (active (.inl working)).frame, member, filled⟩

end Owned

end StreamRecorder
