import Mathlib
import StreamRecorder.OutputPath

/-!
# File names read back

The template of a name may hold dots of its own, so a name is read from the right: behind the
extension come one or two tags or none, then the number. Tags and numbers have no dots and are never
taken for each other.
-/

namespace StreamRecorder.OutputPath

theorem takeField?_append {field : List Char} (undotted : '.' ∉ field) (rest : List Char) :
    takeField? (field.reverse ++ '.' :: rest) = some (field, rest) := by
  have plain : ∀ c ∈ field.reverse, decide (c ≠ '.') = true := by
    intro c member
    exact decide_eq_true (ne_of_mem_of_not_mem (List.mem_reverse.mp member) undotted)
  have left : (field.reverse ++ '.' :: rest).dropWhile (· ≠ '.') = '.' :: rest := by
    rw [List.dropWhile_append_of_pos plain]
    simp
  have taken : (field.reverse ++ '.' :: rest).takeWhile (· ≠ '.') = field.reverse := by
    rw [List.takeWhile_append_of_pos plain]
    simp
  rw [takeField?, left, taken, List.reverse_reverse]

theorem undotted_of_digits {field : List Char} (decimal : ∀ c ∈ field, c.isDigit = true) :
    '.' ∉ field := by
  intro member
  cases decimal '.' member

theorem digits_decimal (number : Nat) : ∀ c ∈ Nat.toDigits 10 number, c.isDigit = true :=
  fun _ member => Nat.isDigit_of_mem_toDigits (by decide) (by decide) member

theorem tags_of_digits {field : List Char} (decimal : ∀ c ∈ field, c.isDigit = true) :
    audioOfTag? field = none ∧ videoOfTag? field = none := by
  constructor
  · rw [audioOfTag?, List.find?_eq_none]
    intro codec _ same
    have letter : 'A' ∈ codec.tag.toList := by cases codec <;> decide
    rw [of_decide_eq_true same] at letter
    cases decimal 'A' letter
  · rw [videoOfTag?, List.find?_eq_none]
    intro codec _ same
    have letter : 'H' ∈ codec.tag.toList := by cases codec <;> decide
    rw [of_decide_eq_true same] at letter
    cases decimal 'H' letter

theorem audioOfTag?_tag (codec : AudioCodec) : audioOfTag? codec.tag.toList = some codec := by
  cases codec <;> decide

theorem videoOfTag?_tag (codec : VideoCodec) : videoOfTag? codec.tag.toList = some codec := by
  cases codec <;> decide

theorem audioOfTag?_video (codec : VideoCodec) : audioOfTag? codec.tag.toList = none := by
  cases codec <;> decide

theorem undotted_audio (codec : AudioCodec) : '.' ∉ codec.tag.toList := by
  cases codec <;> decide

theorem undotted_video (codec : VideoCodec) : '.' ∉ codec.tag.toList := by
  cases codec <;> decide

def tagged (tag : Option String) (rest : List Char) : List Char :=
  match tag with
  | none => rest
  | some tag => tag.toList.reverse ++ '.' :: rest

theorem reverse_text (template : String) (counter : UInt32) (layout : Layout) :
    (text template counter layout).toList.reverse =
      "mp4".toList.reverse ++ '.' :: tagged (layout.audio.map AudioCodec.tag)
        (tagged (layout.video.map VideoCodec.tag)
          ((Nat.toDigits 10 counter.toNat).reverse ++ '.' :: template.toList.reverse)) := by
  obtain ⟨video, audio⟩ := layout
  cases video <;> cases audio <;>
    simp [text, tags, tagged, String.toList_append, Nat.toList_repr]

theorem read?_text (template : String) (counter : UInt32) (layout : Layout) :
    read? (text template counter layout) = some (template, counter.toNat, layout) := by
  have decimal := digits_decimal counter.toNat
  have nonempty : Nat.toDigits 10 counter.toNat ≠ [] := Nat.toDigits_ne_nil
  have number : Nat.ofDigitChars 10 (Nat.toDigits 10 counter.toNat) 0 = counter.toNat :=
    Nat.ofDigitChars_ten_toDigits
  rw [read?, reverse_text]
  generalize Nat.toDigits 10 counter.toNat = digits at decimal nonempty number ⊢
  have extension (rest : List Char) :
      takeField? ("mp4".toList.reverse ++ '.' :: rest) = some ("mp4".toList, rest) :=
    takeField?_append (by decide) rest
  have numbered := takeField?_append (undotted_of_digits decimal) template.toList.reverse
  obtain ⟨notAudio, notVideo⟩ := tags_of_digits decimal
  have all : digits.all Char.isDigit = true := List.all_eq_true.mpr decimal
  obtain ⟨video, audio⟩ := layout
  -- The field behind a tag is the next one, so each medium that is carried moves the rest along.
  cases video <;> cases audio <;>
    simp only [extension, tagged, Option.map_none, Option.map_some, numbered, notAudio, notVideo,
      takeField?_append, undotted_audio, undotted_video, not_false_eq_true, audioOfTag?_tag,
      videoOfTag?_tag, audioOfTag?_video, guard, ne_eq, nonempty, all, and_self, if_true, number,
      Option.bind_eq_bind, Option.bind_some, Option.pure_def, List.reverse_reverse,
      String.ofList_toList]

theorem eq_of_text_eq {template other : String} {counter number : UInt32}
    {layout arrangement : Layout}
    (same : text template counter layout = text other number arrangement) :
    template = other ∧ counter = number ∧ layout = arrangement := by
  have read := read?_text template counter layout
  rw [same, read?_text, Option.some.injEq, Prod.mk.injEq, Prod.mk.injEq] at read
  obtain ⟨sameTemplate, sameNumber, sameLayout⟩ := read
  exact ⟨sameTemplate.symm, (UInt32.toNat_inj.mp sameNumber).symm, sameLayout.symm⟩

/-- A reader from the right finds template, number and layout, so no two choices of them make one
name. -/
theorem text_tells_its_parts (template other : String) (counter number : UInt32)
    (layout arrangement : Layout) :
    read? (text template counter layout) = some (template, counter.toNat, layout) ∧
      (text template counter layout = text other number arrangement ↔
        template = other ∧ counter = number ∧ layout = arrangement) := by
  refine ⟨read?_text template counter layout, eq_of_text_eq, ?_⟩
  rintro ⟨rfl, rfl, rfl⟩
  rfl

example : read? (text "take.7.H265.mp4" 12 { audio := some .alac }) =
    some ("take.7.H265.mp4", 12, { audio := some .alac }) := by decide +kernel

end StreamRecorder.OutputPath
