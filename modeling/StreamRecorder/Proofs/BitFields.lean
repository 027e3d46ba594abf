import StreamRecorder.Proofs.BitStrings

namespace StreamRecorder

structure BitField where
  value : Nat
  width : Nat

namespace BitField

variable (field : BitField) (fields : List BitField) (rest : List Bool)

def bits : List Bool :=
  (List.range field.width).reverse.map field.value.testBit

def kept : Nat :=
  field.value % 2 ^ field.width

def read? : List Nat → List Bool → Option (List Nat × List Bool)
  | [], bits => some ([], bits)
  | width :: widths, bits => do
      let (value, bits) ← takeField width bits
      let (values, bits) ← read? widths bits
      return (value :: values, bits)

theorem bits_eq : field.bits = bitsOfNat field.value field.width := by
  obtain ⟨value, width⟩ := field
  induction width with
  | zero => rfl
  | succ width ih =>
      rw [bitsOfNat, ← ih]
      simp [bits, List.range_succ]

@[simp] theorem length_bits : field.bits.length = field.width := by
  rw [bits_eq, length_bitsOfNat]

theorem length_flatMap_bits : (fields.flatMap bits).length = (fields.map width).sum := by
  simp [List.length_flatMap]

theorem takeField_bits : takeField field.width (field.bits ++ rest) = some (field.kept, rest) := by
  rw [bits_eq, takeField_bitsOfNat, kept]

theorem read?_bits :
    read? (fields.map width) (fields.flatMap bits ++ rest) = some (fields.map kept, rest) := by
  induction fields with
  | nil => rfl
  | cons field fields ih =>
      rw [List.map_cons, List.flatMap_cons, List.append_assoc, read?, takeField_bits]
      simp [ih]

end BitField

namespace BitWriter

variable {writer : BitWriter} {bits : List Bool}

def putAll (writer : BitWriter) (fields : List BitField) : BitWriter :=
  fields.foldl (fun writer field => writer.put field.value field.width) writer

theorem Holds.putAll (holds : writer.Holds bits) (fields : List BitField) :
    (writer.putAll fields).Holds (bits ++ fields.flatMap BitField.bits) := by
  induction fields generalizing writer bits with
  | nil => rwa [List.flatMap_nil, List.append_nil]
  | cons field fields ih =>
      have first := holds.put field.value field.width
      rw [← BitField.bits_eq] at first
      rw [List.flatMap_cons, ← List.append_assoc]
      exact ih first

theorem Holds.take_used (holds : writer.Holds bits) :
    (bitsOfBytes writer.bytes).take writer.used = bits := by
  rw [holds.bytes, holds.used, List.take_left]

theorem Holds.take_putAll (holds : writer.Holds bits) (later : List BitField) :
    (bitsOfBytes (writer.putAll later).bytes).take writer.used = bits := by
  rw [(holds.putAll later).bytes, holds.used, List.append_assoc, List.take_left]

/-- Fields put into a fresh writer stand in its bytes one after another, with zeros up to the end of
the last byte. They read back by their widths, and stay as they are when more is put. -/
theorem fields_stand_in_order (fields : List BitField) :
    let writer := ({} : BitWriter).putAll fields
    let padding := List.replicate (missing writer.used) false
    bitsOfBytes writer.bytes = fields.flatMap BitField.bits ++ padding ∧
      writer.used = (fields.map BitField.width).sum ∧
      writer.bytes.size = (writer.used + 7) / 8 ∧
      BitField.read? (fields.map BitField.width) (bitsOfBytes writer.bytes) =
        some (fields.map BitField.kept, padding) ∧
      ∀ later : List BitField,
        (bitsOfBytes (writer.putAll later).bytes).take writer.used =
          (bitsOfBytes writer.bytes).take writer.used := by
  intro writer padding
  have holds : writer.Holds (fields.flatMap BitField.bits) := Holds.fresh.putAll fields
  have bytes : bitsOfBytes writer.bytes = fields.flatMap BitField.bits ++ padding := by
    rw [holds.bytes, ← holds.used]
  refine ⟨bytes, ?_, ?_, ?_, ?_⟩
  · rw [holds.used, BitField.length_flatMap_bits]
  · rw [holds.size, ← holds.used]
  · rw [bytes, BitField.read?_bits]
  · intro later
    rw [holds.take_putAll later, holds.take_used]

example : (({} : BitWriter).putAll [⟨5, 3⟩, ⟨255, 7⟩]).bytes = #[0xbf, 0xc0] := by decide

end BitWriter

end StreamRecorder
