import StreamRecorder.Json.Written
import StreamRecorder.Proofs.Grammar

namespace StreamRecorder.Json

theorem hexNumber?_of_control : ∀ n < 0x20,
    hexNumber? '0' '0' (Hex.digit (n / 16)) (Hex.digit (n % 16)) = some n := by
  decide

theorem toNat_ofNat_of_control {c : Char} (control : c.toNat < 0x20) :
    (UInt8.ofNat c.toNat).toNat = c.toNat := by
  rw [UInt8.toNat_ofNat']
  exact Nat.mod_eq_of_lt (Nat.lt_trans control (by decide))

namespace Piece

def ofChar (c : Char) : Piece :=
  if quote : c = '"' then .short '"' '"' rfl
  else if back : c = '\\' then .short '\\' '\\' rfl
  else if c = '\x08' then .short 'b' '\x08' rfl
  else if c = '\t' then .short 't' '\t' rfl
  else if c = '\n' then .short 'n' '\n' rfl
  else if c = '\x0c' then .short 'f' '\x0c' rfl
  else if c = '\r' then .short 'r' '\r' rfl
  else if control : c.toNat < 0x20 then
    .unit '0' '0' (Hex.digit (c.toNat / 16)) (Hex.digit (c.toNat % 16)) c.toNat
      (hexNumber?_of_control c.toNat control)
  else .plain c ⟨quote, back, control⟩

def ofText (text : String) : List Piece :=
  text.toList.map ofChar

theorem text_ofChar (c : Char) : (ofChar c).text = encodeChar c := by
  unfold ofChar encodeChar
  split_ifs with _ _ _ _ _ _ _ control <;> first | rfl | skip
  rw [Hex.ofByte, toNat_ofNat_of_control control]
  rfl

theorem textOf_ofText (text : String) : textOf (ofText text) = encode text.toList := by
  rw [textOf, ofText, List.flatMap_map, encode]
  exact congrArg (text.toList.flatMap ·) (funext text_ofChar)

theorem decode_ofChar (c : Char) (more : List Piece) :
    decode (ofChar c :: more) = (decode more).map (c :: ·) := by
  unfold ofChar
  split_ifs with _ _ _ _ _ _ _ control <;> try (subst_vars; rfl)
  -- A control character that is written by its number is no surrogate.
  have trailing : isTrailing c.toNat = false := by
    simp only [isTrailing, Bool.and_eq_false_iff, decide_eq_false_iff_not]
    omega
  have leading : isLeading c.toNat = false := by
    simp only [isLeading, Bool.and_eq_false_iff, decide_eq_false_iff_not]
    omega
  rw [decode.eq_def]
  simp [trailing, leading, Char.ofNat_toNat]

theorem decode_map_ofChar (chars : List Char) : decode (chars.map ofChar) = some chars := by
  induction chars with
  | nil => rfl
  | cons c chars ih => rw [List.map_cons, decode_ofChar, ih, Option.map_some]

theorem string?_ofText (text : String) : string? (ofText text) = some text := by
  rw [string?, ofText, decode_map_ofChar, Option.map_some, String.ofList_toList]

end Piece

theorem toDigits_unpadded (n : Nat) (c : Char) (more : List Char) :
    Nat.toDigits 10 n ≠ '0' :: c :: more := by
  induction n using Nat.strongRecOn generalizing c more with
  | ind n ih =>
      by_cases small : n < 10
      · rw [Nat.toDigits_of_lt_base small]
        simp
      · rw [Nat.toDigits_of_base_le (by decide) (Nat.le_of_not_lt small)]
        intro padded
        obtain ⟨first, later, front⟩ :=
          List.exists_cons_of_ne_nil (Nat.toDigits_ne_nil (n := n / 10) (b := 10))
        rw [front, List.cons_append, List.cons.injEq] at padded
        obtain ⟨rfl, -⟩ := padded
        cases later with
        | nil =>
            have value := Nat.ofDigitChars_ten_toDigits (n := n / 10)
            rw [front, show Nat.ofDigitChars 10 ['0'] 0 = 0 from rfl] at value
            omega
        | cons second later => exact ih (n / 10) (by omega) second later front

namespace Numeral

def ofNat (n : Nat) : Numeral where
  whole := Nat.toDigits 10 n
  nonempty := Nat.toDigits_ne_nil
  decimal c digit := by
    rw [List.append_nil] at digit
    exact Nat.isDigit_of_mem_toDigits (by decide) (by decide) digit
  unpadded := toDigits_unpadded n

theorem ofNat_denotes (n : Nat) : (ofNat n).Denotes n :=
  ⟨rfl, ⟨rfl, rfl⟩, Nat.ofDigitChars_ten_toDigits⟩

theorem text_ofNat (n : Nat) : (ofNat n).text = (toString n).toList := by
  rw [Nat.toString_eq_ofList_toDigits, String.toList_ofList]
  simp [text, ofNat, unsigned, fractionText, powerText]

end Numeral

def Writes (text : String) (value : Value) : Prop :=
  text.toList = value.tokens.flatten

def WritesMember (text : String) (member : Member) : Prop :=
  text.toList = (Value.memberTokens member).flatten

theorem writes_quote (text : String) : Writes (quote text) (.string (Piece.ofText text)) := by
  simp [Writes, quote, Value.tokens, Piece.textOf_ofText]

theorem writes_number (n : Nat) : Writes (toString n) (.number (.ofNat n)) := by
  simp [Writes, Value.tokens, Numeral.text_ofNat]

theorem writes_boolean (answer : Bool) : Writes (toString answer) (.word (.boolean answer)) := by
  cases answer <;> rfl

theorem writesMember_member {text : String} {value : Value} (key : String) (writes : Writes text value) :
    WritesMember (member key text) (Piece.ofText key, value) := by
  rw [Writes] at writes
  simp [WritesMember, member, quote, Value.memberTokens, Piece.textOf_ofText, writes]

theorem flatten_laterMembers {texts : List String} {members : List Member}
    (writes : List.Forall₂ WritesMember texts members) :
    (texts.flatMap fun text => ',' :: text.toList) ++ ['\x7d'] =
      (Value.laterMembers members).flatten := by
  induction writes with
  | nil => rfl
  | cons written _ ih =>
      rw [WritesMember] at written
      simp [Value.laterMembers, written, ← ih]

theorem intercalate_eq_flatMap (separator first : List Char) (more : List (List Char)) :
    separator.intercalate (first :: more) = first ++ more.flatMap (separator ++ ·) := by
  induction more generalizing first with
  | nil => simp
  | cons second more ih => simp [List.intercalate_cons_cons, ih]

theorem writes_object {texts : List String} {members : List Member}
    (writes : List.Forall₂ WritesMember texts members) : Writes (object texts) (.object members) := by
  cases writes with
  | nil => rfl
  | cons written later =>
      have tail := flatten_laterMembers later
      rw [WritesMember] at written
      simp [Writes, object, String.toList_intercalate, intercalate_eq_flatMap, written, Value.tokens, ← tail,
        List.flatMap_map]

theorem Writes.spells {text : String} {value : Value} (writes : Writes text value) :
    value.Spells text :=
  ⟨_, [], by rw [List.append_nil]; exact writes, laid_flatten _, by simp [Blanks]⟩

end StreamRecorder.Json
