import Mathlib
import StreamRecorder.Bits

namespace StreamRecorder

@[simp] theorem length_bitsOfNat (value width : Nat) : (bitsOfNat value width).length = width := by
  induction width with
  | zero => rfl
  | succ width ih => rw [bitsOfNat, List.length_cons, ih]

theorem getElem_bitsOfNat (value : Nat) {width place : Nat}
    (within : place < (bitsOfNat value width).length) :
    (bitsOfNat value width)[place] = value.testBit (width - 1 - place) := by
  induction width generalizing place with
  | zero => cases within
  | succ width ih =>
      cases place with
      | zero => rfl
      | succ place =>
          have deeper : place < (bitsOfNat value width).length := Nat.lt_of_succ_lt_succ within
          have same : width + 1 - 1 - (place + 1) = width - 1 - place := by omega
          rw [same, ← ih deeper]
          rfl

theorem foldl_bitsOfNat (value width start : Nat) :
    (bitsOfNat value width).foldl (fun number bit => 2 * number + bit.toNat) start =
      start * 2 ^ width + value % 2 ^ width := by
  induction width generalizing start with
  | zero => simp [bitsOfNat, Nat.mod_one]
  | succ width ih =>
      rw [bitsOfNat, List.foldl_cons, ih, Nat.mod_pow_succ, Nat.toNat_testBit]
      ring

theorem natOfBits_bitsOfNat (value width : Nat) :
    natOfBits (bitsOfNat value width) = value % 2 ^ width := by
  rw [natOfBits, foldl_bitsOfNat, Nat.zero_mul, Nat.zero_add]

theorem takeField_bitsOfNat (value width : Nat) (rest : List Bool) :
    takeField width (bitsOfNat value width ++ rest) = some (value % 2 ^ width, rest) := by
  have field : (bitsOfNat value width ++ rest).take width = bitsOfNat value width :=
    List.take_left' (length_bitsOfNat value width)
  have left : (bitsOfNat value width ++ rest).drop width = rest :=
    List.drop_left' (length_bitsOfNat value width)
  rw [takeField, if_pos (by simp), field, left, natOfBits_bitsOfNat]

theorem bitsOfBytes_push (bytes : Array UInt8) (byte : UInt8) :
    bitsOfBytes (bytes.push byte) = bitsOfBytes bytes ++ bitsOfNat byte.toNat 8 := by
  simp [bitsOfBytes]

@[simp] theorem length_bitsOfBytes (bytes : Array UInt8) :
    (bitsOfBytes bytes).length = 8 * bytes.size := by
  simp [bitsOfBytes, List.length_flatMap, Nat.mul_comm]

theorem testBit_mark (bit : Bool) {offset place : Nat} (inByte : offset < 8) (other : place < 8) :
    (bit.toUInt8 <<< (7 - UInt8.ofNat offset)).toNat.testBit (7 - place) =
      (bit && decide (place = offset)) := by
  have shift : (7 - UInt8.ofNat offset).toNat % 8 = 7 - offset := by
    interval_cases offset <;> rfl
  have value : bit.toUInt8.toNat = bit.toNat := by cases bit <;> rfl
  have here : (7 - place < 8 ∧ 7 - offset ≤ 7 - place ∧ 7 - place - (7 - offset) = 0) ↔
      place = offset := by omega
  rw [UInt8.toNat_shiftLeft, shift, value, Nat.testBit_mod_two_pow, Nat.testBit_shiftLeft,
    Nat.testBit_bool_toNat, Bool.and_comm bit]
  simp [← here, Bool.and_assoc]

theorem bitsOfNat_mark {byte : UInt8} {recent : List Bool} (bit : Bool)
    (filled : bitsOfNat byte.toNat 8 = recent ++ List.replicate (8 - recent.length) false)
    (room : recent.length < 8) :
    bitsOfNat (byte ||| bit.toUInt8 <<< (7 - UInt8.ofNat recent.length)).toNat 8 =
      recent ++ bit :: List.replicate (7 - recent.length) false := by
  have free : List.replicate (8 - recent.length) false =
      false :: List.replicate (7 - recent.length) false := by
    rw [← List.replicate_succ]
    congr 1
    omega
  have marked : bitsOfNat (byte ||| bit.toUInt8 <<< (7 - UInt8.ofNat recent.length)).toNat 8 =
      (bitsOfNat byte.toNat 8).modify recent.length (bit || ·) := by
    apply List.ext_getElem
    · simp
    · intro place within _
      have inByte : place < 8 := by simpa using within
      rw [List.getElem_modify, getElem_bitsOfNat, getElem_bitsOfNat, UInt8.toNat_or,
        Nat.testBit_or, testBit_mark bit room inByte]
      by_cases same : recent.length = place
      · simp [same, Bool.or_comm]
      · simp [same, Ne.symm same]
  rw [marked, filled, free]
  simp [List.modify_eq_set_getElem?]

namespace BitWriter

def missing (length : Nat) : Nat := (8 - length % 8) % 8

/-- The bytes of a writer are the bits it was given, and zeros up to the end of the last byte. -/
structure Holds (writer : BitWriter) (bits : List Bool) : Prop where
  used : writer.used = bits.length
  bytes : bitsOfBytes writer.bytes = bits ++ List.replicate (missing bits.length) false

variable {writer : BitWriter} {bits : List Bool}

theorem Holds.fresh : Holds {} [] := ⟨rfl, rfl⟩

theorem Holds.size (holds : writer.Holds bits) : writer.bytes.size = (bits.length + 7) / 8 := by
  have length := congrArg List.length holds.bytes
  rw [length_bitsOfBytes, List.length_append, List.length_replicate, missing] at length
  omega

theorem Holds.opened (holds : writer.Holds bits) :
    ∃ (full : Array UInt8) (last : UInt8) (recent : List Bool),
      (if writer.used % 8 = 0 then writer.bytes.push 0 else writer.bytes) = full.push last ∧
      bits = bitsOfBytes full ++ recent ∧ recent.length = writer.used % 8 ∧
      bitsOfNat last.toNat 8 = recent ++ List.replicate (8 - recent.length) false := by
  have bytes := holds.bytes
  by_cases aligned : writer.used % 8 = 0
  · refine ⟨writer.bytes, 0, [], if_pos aligned, ?_, aligned.symm, rfl⟩
    rw [bytes, missing, ← holds.used, aligned]
    simp
  · have nonempty : writer.bytes.size ≠ 0 := by
      rw [holds.size, ← holds.used]
      omega
    obtain ⟨full, last, split⟩ := Array.eq_push_of_size_ne_zero nonempty
    have size := holds.size
    rw [split, Array.size_push, ← holds.used] at size
    -- All bits but those in the last byte fill the bytes before it.
    have before : 8 * full.size ≤ bits.length := by rw [← holds.used]; omega
    have parts : bits = bits.take (8 * full.size) ++ bits.drop (8 * full.size) :=
      (List.take_append_drop _ _).symm
    rw [split, bitsOfBytes_push, parts, List.append_assoc] at bytes
    obtain ⟨early, late⟩ := List.append_inj bytes (by simp [before])
    have count : (bits.drop (8 * full.size)).length = writer.used % 8 := by
      rw [List.length_drop, ← holds.used]
      omega
    refine ⟨full, last, bits.drop (8 * full.size), by rw [if_neg aligned, split], ?_, count, ?_⟩
    · rw [early, ← parts]
    · rw [late, ← parts, missing, count, ← holds.used]
      congr 2
      omega

theorem Holds.putBit (holds : writer.Holds bits) (bit : Bool) :
    (writer.putBit bit).Holds (bits ++ [bit]) := by
  obtain ⟨full, last, recent, opened, split, count, filled⟩ := holds.opened
  have room : recent.length < 8 := by omega
  have marked := bitsOfNat_mark bit filled room
  have modified (change : UInt8 → UInt8) :
      (full.push last).modify full.size change = full.push (change last) := by
    apply Array.ext'
    simp [List.modify_eq_set_getElem?]
  refine ⟨by simp [BitWriter.putBit, holds.used], ?_⟩
  simp only [BitWriter.putBit, opened, Array.size_push, Nat.add_sub_cancel, modified]
  rw [← count, bitsOfBytes_push, marked, ← List.append_assoc, ← split, missing, List.length_append,
    List.append_assoc]
  congr 3
  rw [count, holds.used, List.length_singleton]
  omega

theorem Holds.put (holds : writer.Holds bits) (value width : Nat) :
    (writer.put value width).Holds (bits ++ bitsOfNat value width) := by
  induction width generalizing writer bits with
  | zero => rwa [bitsOfNat, List.append_nil]
  | succ width ih =>
      rw [bitsOfNat, List.append_cons]
      exact ih (holds.putBit (value.testBit width))

end BitWriter

end StreamRecorder
