import Mathlib
import StreamRecorder.CodecData.Alac

namespace StreamRecorder.Alac

def numberOf (bytes : List UInt8) : Nat :=
  bytes.foldl (256 * · + ·.toNat) 0

theorem numberOf_byte (byte : UInt8) : numberOf [byte] = byte.toNat := by
  rw [numberOf, List.foldl_cons, List.foldl_nil, Nat.mul_zero, Nat.zero_add]

theorem numberOf_bigEndian32 (value : UInt32) :
    numberOf (bigEndian32 value).toList = value.toNat := by
  have bound := value.toNat_lt
  simp only [numberOf, bigEndian32, List.foldl_cons, List.foldl_nil, UInt32.toNat_toUInt8,
    UInt32.toNat_shiftRight, UInt32.reduceToNat, Nat.reduceMod, Nat.shiftRight_eq_div_pow]
  omega

theorem readNumber?_of_flatten {bytes : Array UInt8} {fields : List (List UInt8)}
    (whole : bytes.toList = fields.flatten) {place : Nat} (inside : place < fields.length) :
    readNumber? bytes (fields.take place).flatten.length fields[place].length =
      some (numberOf fields[place]) := by
  have split : bytes.toList = (fields.take place).flatten ++
      (fields[place] ++ (fields.drop (place + 1)).flatten) := by
    rw [whole, ← List.flatten_cons, ← List.drop_eq_getElem_cons inside, ← List.flatten_append,
      List.take_append_drop]
  have fits : (fields.take place).flatten.length + fields[place].length ≤ bytes.size := by
    rw [← Array.length_toList, split, List.length_append, List.length_append]
    omega
  rw [readNumber?, if_pos fits, split, List.drop_left, List.take_left, numberOf]

def fields (format : AudioFormat) : List (List UInt8) :=
  [(bigEndian32 36).toList, atomType.toList, (bigEndian32 0).toList,
    (bigEndian32 frameLength).toList, [0], [format.bitsPerSample.toUInt8], [40, 10, 14],
    [format.channels.toUInt8], (bigEndian16 255).toList, (bigEndian32 0).toList,
    (bigEndian32 0).toList, (bigEndian32 format.sampleRate).toList]

theorem toList_magicCookie (format : AudioFormat) :
    (magicCookie format).toList = (fields format).flatten := by
  simp [magicCookie, fields]

theorem size_magicCookie (format : AudioFormat) : (magicCookie format).size = 36 := by
  rw [← Array.length_toList, toList_magicCookie]
  rfl

theorem readCookie?_magicCookie (format : AudioFormat) :
    readCookie? (magicCookie format) = some
      { size := 36
        frameLength := 352
        bitDepth := format.bitsPerSample.toNat % 256
        channels := format.channels.toNat % 256
        sampleRate := format.sampleRate.toNat } := by
  have read {place : Nat} (inside : place < (fields format).length) :=
    readNumber?_of_flatten (toList_magicCookie format) inside
  have size : readNumber? (magicCookie format) 0 4 = some 36 := read (by decide : 0 < 12)
  have frameLength : readNumber? (magicCookie format) 12 4 = some 352 := read (by decide : 3 < 12)
  have bitDepth :
      readNumber? (magicCookie format) 17 1 = some (format.bitsPerSample.toNat % 256) := by
    rw [← UInt16.toNat_toUInt8, ← numberOf_byte]
    exact read (by decide : 5 < 12)
  have channels : readNumber? (magicCookie format) 21 1 = some (format.channels.toNat % 256) := by
    rw [← UInt16.toNat_toUInt8, ← numberOf_byte]
    exact read (by decide : 7 < 12)
  have sampleRate : readNumber? (magicCookie format) 32 4 = some format.sampleRate.toNat := by
    rw [← numberOf_bigEndian32]
    exact read (by decide : 11 < 12)
  rw [readCookie?, size, frameLength, bitDepth, channels, sampleRate]
  rfl

def Cookie.format (cookie : Cookie) : AudioFormat :=
  { sampleRate := .ofNat cookie.sampleRate
    channels := .ofNat cookie.channels
    bitsPerSample := .ofNat cookie.bitDepth }

def formatOf? (bytes : Array UInt8) : Option AudioFormat :=
  (readCookie? bytes).map Cookie.format

theorem ofNat_mod_eq_iff (word : UInt16) :
    UInt16.ofNat (word.toNat % 256) = word ↔ word.toNat < 256 := by
  have bound := word.toNat_lt
  rw [← UInt16.toNat_inj, UInt16.toNat_ofNat']
  omega

theorem formatOf?_magicCookie_iff (format : AudioFormat) :
    formatOf? (magicCookie format) = some format ↔
      format.channels.toNat < 256 ∧ format.bitsPerSample.toNat < 256 := by
  obtain ⟨sampleRate, channels, bitsPerSample⟩ := format
  simp [formatOf?, readCookie?_magicCookie, Cookie.format, ofNat_mod_eq_iff]

variable {format : AudioFormat}

theorem formatOf?_of_valid (valid : format.validate = .ok ()) :
    formatOf? (magicCookie format) = some format := by
  obtain ⟨-, channels, bits⟩ := AudioFormat.validate_eq_ok_iff.mp valid
  exact (formatOf?_magicCookie_iff format).mpr ⟨by omega, by omega⟩

theorem eq_of_magicCookie_eq {other : AudioFormat} (valid : format.validate = .ok ())
    (otherValid : other.validate = .ok ()) (same : magicCookie format = magicCookie other) :
    format = other := by
  have read := formatOf?_of_valid valid
  rw [same, formatOf?_of_valid otherValid] at read
  exact (Option.some.inj read).symm

/-- A cookie has its own size in front and its fields behind it, and one of a valid format gives all
of the format back. -/
theorem magicCookie_reads_back (format : AudioFormat) :
    (magicCookie format).size = 36 ∧
    readCookie? (magicCookie format) = some
      { size := (magicCookie format).size
        frameLength := 352
        bitDepth := format.bitsPerSample.toNat % 256
        channels := format.channels.toNat % 256
        sampleRate := format.sampleRate.toNat } ∧
    (formatOf? (magicCookie format) = some format ↔
      format.channels.toNat < 256 ∧ format.bitsPerSample.toNat < 256) ∧
    (format.validate = .ok () →
      formatOf? (magicCookie format) = some format ∧
      ∀ other : AudioFormat, other.validate = .ok () →
        (magicCookie format = magicCookie other ↔ format = other)) := by
  have size := size_magicCookie format
  refine ⟨size, ?_, formatOf?_magicCookie_iff format, ?_⟩
  · rw [size, readCookie?_magicCookie]
  · intro valid
    refine ⟨formatOf?_of_valid valid, ?_⟩
    intro other otherValid
    exact ⟨eq_of_magicCookie_eq valid otherValid, congrArg magicCookie⟩

theorem magicCookie_reads_back_of_deep_samples :
    let format : AudioFormat := { sampleRate := 192000, channels := 8, bitsPerSample := 32 }
    let other : AudioFormat := { format with bitsPerSample := 24 }
    format.validate = .ok () ∧ other.validate = .ok () ∧
      formatOf? (magicCookie format) = some format ∧ magicCookie format ≠ magicCookie other := by
  intro format other
  have valid : format.validate = .ok () := by decide
  have otherValid : other.validate = .ok () := by decide
  obtain ⟨-, -, -, recovered⟩ := magicCookie_reads_back format
  obtain ⟨read, apart⟩ := recovered valid
  have differ : format ≠ other := by decide
  exact ⟨valid, otherValid, read, fun same => differ ((apart other otherValid).mp same)⟩

end StreamRecorder.Alac
