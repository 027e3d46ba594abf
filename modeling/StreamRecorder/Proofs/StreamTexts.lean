import Mathlib
import StreamRecorder.StreamParams

namespace StreamRecorder

namespace Hex

theorem value?_digit {value : Nat} (small : value < 16) : value? (digit value) = some value := by
  interval_cases value <;> rfl

theorem digit_mem {value : Nat} (small : value < 16) : digit value ∈ "0123456789abcdef".toList := by
  interval_cases value <;> decide

theorem decode?_encode (bytes : List UInt8) : decode? (encode bytes) = some bytes := by
  induction bytes with
  | nil => rfl
  | cons byte bytes ih =>
      have bound := byte.toNat_lt
      have high : value? (digit (byte.toNat / 16)) = some (byte.toNat / 16) :=
        value?_digit (by omega)
      have low : value? (digit (byte.toNat % 16)) = some (byte.toNat % 16) :=
        value?_digit (by omega)
      have whole : UInt8.ofNat (16 * (byte.toNat / 16) + byte.toNat % 16) = byte := by
        rw [Nat.div_add_mod, UInt8.ofNat_toNat]
      rw [encode] at ih
      simp only [encode, List.flatMap_cons, ofByte, List.cons_append, List.nil_append, decode?, high,
        low, ih, Option.bind_eq_bind, Option.bind_some, whole]
      rfl

theorem length_encode (bytes : List UInt8) : (encode bytes).length = 2 * bytes.length := by
  simp [encode, ofByte, List.length_flatMap, Nat.mul_comm]

theorem mem_of_mem_encode {bytes : List UInt8} :
    ∀ c ∈ encode bytes, c ∈ "0123456789abcdef".toList := by
  intro c member
  obtain ⟨byte, -, within⟩ := List.mem_flatMap.mp member
  have bound := byte.toNat_lt
  rcases List.mem_pair.mp within with rfl | rfl
  · exact digit_mem (by omega)
  · exact digit_mem (by omega)

end Hex

namespace StreamParams

def item (text : List Char) : List Char × List Char :=
  (text.takeWhile (· ≠ '='), (text.dropWhile (· ≠ '=')).tail)

def items (text : String) : List (List Char × List Char) :=
  (text.toList.splitOn ',').map item

def value? (key : String) (text : String) : Option (List Char) :=
  (items text).lookup key.toList

def number? (digits : List Char) : Option Nat :=
  (String.ofList digits).toNat?

def videoOfMediaType? (type : List Char) : Option VideoCodec :=
  [VideoCodec.h264, .h265].find? fun codec => codec.mediaType.toList = type

def audioOfMediaType? (type : List Char) : Option AudioCodec :=
  [AudioCodec.aacEld, .alac].find? fun codec => codec.mediaType.toList = type

def read? (text : String) : Option StreamParams := do
  let (type, _) ← (items text).head?
  match videoOfMediaType? type with
  | some codec => return .video codec
  | none =>
      let codec ← audioOfMediaType? type
      let channels ← (value? "channels" text).bind number?
      let rate ← (value? "rate" text).bind number?
      let data ← (value? "codec_data" text).bind Hex.decode?
      return .audio codec (.ofNat rate) (.ofNat channels) data.toArray

theorem item_of_value {key value : List Char} (plain : '=' ∉ key) :
    item (key ++ '=' :: value) = (key, value) := by
  have kept : ∀ c ∈ key, decide (c ≠ '=') = true := by
    intro c member
    exact decide_eq_true (ne_of_mem_of_not_mem member plain)
  rw [item, List.takeWhile_append_of_pos kept, List.dropWhile_append_of_pos kept]
  simp

theorem item_of_type {type : List Char} (plain : '=' ∉ type) : item type = (type, []) := by
  have kept : ∀ c ∈ type, decide (c ≠ '=') = true := by
    intro c member
    exact decide_eq_true (ne_of_mem_of_not_mem member plain)
  rw [item, List.takeWhile_eq_self_iff.mpr kept, List.dropWhile_eq_nil_iff.mpr kept]
  rfl

def versionEntries : AudioCodec → List (List Char)
  | .aacEld => ["mpegversion=4".toList]
  | .alac => []

def entries : StreamParams → List (List Char)
  | .video codec =>
      [codec.mediaType.toList, "stream-format=byte-stream".toList, "alignment=au".toList]
  | .audio codec sampleRate channels codecData =>
      codec.mediaType.toList :: (versionEntries codec ++
        ["channels".toList ++ '=' :: Nat.toDigits 10 channels.toNat,
          "rate".toList ++ '=' :: Nat.toDigits 10 sampleRate.toNat,
          "stream-format=raw".toList,
          "codec_data".toList ++ '=' :: Hex.encode codecData.toList])

theorem toList_text (params : StreamParams) :
    params.text.toList = [','].intercalate params.entries := by
  cases params with
  | video codec => cases codec <;> rfl
  | audio codec sampleRate channels codecData =>
      cases codec <;>
        simp [text, entries, versionItem, versionEntries, List.intercalate, Nat.toList_repr]

theorem comma_not_mem_digits (number : Nat) : ',' ∉ Nat.toDigits 10 number := by
  intro member
  have digit : ','.isDigit = true := Nat.isDigit_of_mem_toDigits (by decide) (by decide) member
  cases digit

theorem comma_not_mem_hex (bytes : List UInt8) : ',' ∉ Hex.encode bytes := by
  intro member
  have digit := Hex.mem_of_mem_encode ',' member
  revert digit
  decide

theorem comma_not_mem_entries (params : StreamParams) : ∀ entry ∈ params.entries, ',' ∉ entry := by
  cases params with
  | video codec => cases codec <;> decide
  | audio codec sampleRate channels codecData =>
      cases codec <;>
        simp [entries, versionEntries, AudioCodec.mediaType, comma_not_mem_digits, comma_not_mem_hex]

theorem items_text (params : StreamParams) : items params.text = params.entries.map item := by
  have nonempty : params.entries ≠ [] := by cases params <;> simp [entries]
  rw [items, toList_text, List.splitOn_intercalate ',' params.comma_not_mem_entries nonempty]

section Audio

variable (codec : AudioCodec) (sampleRate : UInt32) (channels : UInt16) (codecData : Array UInt8)

theorem items_audio : items (audio codec sampleRate channels codecData).text =
    (codec.mediaType.toList, []) :: ((versionEntries codec).map item ++
      [("channels".toList, Nat.toDigits 10 channels.toNat),
        ("rate".toList, Nat.toDigits 10 sampleRate.toNat),
        ("stream-format".toList, "raw".toList),
        ("codec_data".toList, Hex.encode codecData.toList)]) := by
  have type : item codec.mediaType.toList = (codec.mediaType.toList, []) :=
    item_of_type (by cases codec <;> decide)
  have stream : item "stream-format=raw".toList = ("stream-format".toList, "raw".toList) := by
    decide
  rw [items_text, entries, List.map_cons, List.map_append, type]
  simp only [List.map_cons, List.map_nil, stream]
  rw [item_of_value (by decide), item_of_value (by decide), item_of_value (by decide)]

theorem value?_channels : value? "channels" (audio codec sampleRate channels codecData).text =
    some (Nat.toDigits 10 channels.toNat) := by
  rw [value?, items_audio]
  cases codec <;> rfl

theorem value?_rate : value? "rate" (audio codec sampleRate channels codecData).text =
    some (Nat.toDigits 10 sampleRate.toNat) := by
  rw [value?, items_audio]
  cases codec <;> rfl

theorem value?_codecData : value? "codec_data" (audio codec sampleRate channels codecData).text =
    some (Hex.encode codecData.toList) := by
  rw [value?, items_audio]
  cases codec <;> rfl

theorem codecData_suffix : ("codec_data=".toList ++ Hex.encode codecData.toList) <:+
    (audio codec sampleRate channels codecData).text.toList := by
  refine ⟨(codec.mediaType ++ versionItem codec ++ ",channels=" ++ toString channels.toNat ++
    ",rate=" ++ toString sampleRate.toNat ++ ",stream-format=raw,").toList, ?_⟩
  simp [text]

end Audio

theorem number?_toDigits (number : Nat) : number? (Nat.toDigits 10 number) = some number := by
  have text : String.ofList (Nat.toDigits 10 number) = number.repr :=
    Nat.toString_eq_ofList_toDigits.symm
  rw [number?, text, Nat.toNat?_repr]

theorem read?_text (params : StreamParams) : read? params.text = some params := by
  cases params with
  | video codec =>
      rw [read?, items_text]
      cases codec <;> rfl
  | audio codec sampleRate channels codecData =>
      have notVideo : videoOfMediaType? codec.mediaType.toList = none := by cases codec <;> decide
      have known : audioOfMediaType? codec.mediaType.toList = some codec := by
        cases codec <;> decide
      rw [read?, items_audio, List.head?_cons]
      simp [notVideo, known, value?_channels, value?_rate, value?_codecData, number?_toDigits,
        Hex.decode?_encode]

/-- The text of stream parameters can be read back, so it is theirs alone. -/
theorem text_is_lossless (params other : StreamParams) :
    read? params.text = some params ∧ (params.text = other.text ↔ params = other) ∧
      ∀ (codec : AudioCodec) (sampleRate : UInt32) (channels : UInt16) (codecData : Array UInt8),
        let text := (audio codec sampleRate channels codecData).text
        ∃ count hertz hex : List Char,
          value? "channels" text = some count ∧ number? count = some channels.toNat ∧
          value? "rate" text = some hertz ∧ number? hertz = some sampleRate.toNat ∧
          (∀ c ∈ count ++ hertz, c.isDigit = true) ∧
          value? "codec_data" text = some hex ∧ ("codec_data=".toList ++ hex) <:+ text.toList ∧
          hex.length = 2 * codecData.size ∧ (∀ c ∈ hex, c ∈ "0123456789abcdef".toList) ∧
          Hex.decode? hex = some codecData.toList := by
  refine ⟨read?_text params, ?_, ?_⟩
  · constructor
    · intro same
      have read := read?_text params
      rw [same, read?_text] at read
      exact (Option.some.inj read).symm
    · rintro rfl
      rfl
  · intro codec sampleRate channels codecData text
    have decimal (number : Nat) : ∀ c ∈ Nat.toDigits 10 number, c.isDigit = true :=
      fun _ member => Nat.isDigit_of_mem_toDigits (by decide) (by decide) member
    exact ⟨Nat.toDigits 10 channels.toNat, Nat.toDigits 10 sampleRate.toNat,
      Hex.encode codecData.toList, value?_channels .., number?_toDigits _, value?_rate ..,
      number?_toDigits _, List.forall_mem_append.mpr ⟨decimal _, decimal _⟩, value?_codecData ..,
      codecData_suffix .., Hex.length_encode _, Hex.mem_of_mem_encode, Hex.decode?_encode _⟩

end StreamParams

end StreamRecorder
