import Mathlib
import StreamRecorder.Json.Record

namespace StreamRecorder.Json

variable {α β : Type} {text : List Char}

def taken (result : Except Fault (Reading α text)) : Option (α × List Char) :=
  result.toOption.map fun reading => (reading.value, reading.rest)

def takenTail (result : Except Fault (Tail α text)) : Option (α × List Char) :=
  result.toOption.map fun tail => (tail.value, tail.rest)

@[simp] theorem taken_error (fault : Fault) :
    taken (.error fault : Except Fault (Reading α text)) = none := rfl

@[simp] theorem taken_ok (reading : Reading α text) :
    taken (.ok reading) = some (reading.value, reading.rest) := rfl

@[simp] theorem takenTail_error (fault : Fault) :
    takenTail (.error fault : Except Fault (Tail α text)) = none := rfl

@[simp] theorem takenTail_ok (tail : Tail α text) :
    takenTail (.ok tail) = some (tail.value, tail.rest) := rfl

theorem taken_eq_some {result : Except Fault (Reading α text)} {value : α} {rest : List Char} :
    taken result = some (value, rest) ↔
      ∃ reading, result = .ok reading ∧ reading.value = value ∧ reading.rest = rest := by
  cases result with
  | error fault => simp
  | ok reading => simp

theorem takenTail_eq_some {result : Except Fault (Tail α text)} {value : α} {rest : List Char} :
    takenTail result = some (value, rest) ↔
      ∃ tail, result = .ok tail ∧ tail.value = value ∧ tail.rest = rest := by
  cases result with
  | error fault => simp
  | ok tail => simp

theorem taken_cases {result : Except Fault (Reading α text)} {value? : Option α} {rest : List Char}
    (told : taken result = value?.map (·, rest)) :
    (value? = none ∧ ∃ fault, result = .error fault) ∨
      ∃ reading, result = .ok reading ∧ value? = some reading.value ∧ reading.rest = rest := by
  cases result with
  | error fault => exact .inl ⟨by simpa using told.symm, fault, rfl⟩
  | ok reading =>
      obtain ⟨value, same, told⟩ := Option.map_eq_some_iff.mp (told.symm.trans (taken_ok reading))
      obtain ⟨rfl, left⟩ := Prod.mk.inj told
      exact .inr ⟨reading, rfl, same, left.symm⟩

theorem takenTail_cases {result : Except Fault (Tail α text)} {value? : Option α} {rest : List Char}
    (told : takenTail result = value?.map (·, rest)) :
    (value? = none ∧ ∃ fault, result = .error fault) ∨
      ∃ tail, result = .ok tail ∧ value? = some tail.value ∧ tail.rest = rest := by
  cases result with
  | error fault => exact .inl ⟨by simpa using told.symm, fault, rfl⟩
  | ok tail =>
      obtain ⟨value, same, told⟩ := Option.map_eq_some_iff.mp (told.symm.trans (takenTail_ok tail))
      obtain ⟨rfl, left⟩ := Prod.mk.inj told
      exact .inr ⟨tail, rfl, same, left.symm⟩

theorem taken_bind {γ : Type} (result : Except Fault γ) (next : γ → Except Fault (Reading α text)) :
    taken (result >>= next) = result.toOption.bind fun value => taken (next value) := by
  cases result <;> rfl

theorem takenTail_bind {γ : Type} (result : Except Fault γ) (next : γ → Except Fault (Tail α text)) :
    takenTail (result >>= next) = result.toOption.bind fun value => takenTail (next value) := by
  cases result <;> rfl

theorem takenTail_bind_map (result : Except Fault (Tail β text)) (f : β → α) :
    takenTail (result >>= fun tail => pure (tail.map f)) = (takenTail result).map (Prod.map f id) := by
  cases result <;> rfl

theorem taken_map (f : β → α) (reader : Reader β) (text : List Char) :
    taken (reader.map f text) = (taken (reader text)).map (Prod.map f id) := by
  unfold Reader.map
  cases reader text <;> rfl

theorem Reader.map_map {γ : Type} (reader : Reader γ) (f : γ → β) (g : β → α) :
    (reader.map f).map g = reader.map fun value => g (f value) := by
  funext text
  unfold Reader.map
  cases reader text <;> rfl

theorem taken_andThen (first : Reader β) (second : β → Reader α) (text : List Char) :
    taken (first.andThen second text) =
      (taken (first text)).bind fun head => taken (second head.1 head.2) := by
  unfold Reader.andThen
  cases first text with
  | error fault => rfl
  | ok head =>
      simp only [taken_bind, Except.toOption, Option.bind_some, taken_ok]
      cases second head.value head.rest <;> rfl

def Blanks (text : List Char) : Prop :=
  ∀ c ∈ text, isBlank c = true

theorem skipBlanks_of_blanks {blanks : List Char} (blank : Blanks blanks) (text : List Char) :
    skipBlanks (blanks ++ text) = skipBlanks text :=
  List.dropWhile_append_of_pos blank

theorem skipBlanks_cons {c : Char} (inked : isBlank c = false) (rest : List Char) :
    skipBlanks (c :: rest) = c :: rest := by
  simp [skipBlanks, inked]

theorem token_of_skipBlanks {c : Char} {rest : List Char} (found : skipBlanks text = c :: rest) :
    ∃ reading : Reading Char text, token text = .ok reading ∧ reading.value = c ∧
      reading.rest = rest := by
  unfold token
  split
  · rename_i empty
    rw [found] at empty
    cases empty
  · rename_i first after same
    obtain ⟨rfl, rfl⟩ := List.cons.inj (found.symm.trans same)
    exact ⟨_, rfl, rfl, rfl⟩

theorem taken_ofToken {c : Char} {rest : List Char} (found : skipBlanks text = c :: rest)
    (tail : Char → TailReader α) :
    taken (Reader.ofToken tail text) = takenTail (tail c rest) := by
  obtain ⟨reading, read, rfl, rfl⟩ := token_of_skipBlanks found
  simp only [Reader.ofToken, read, taken_bind, Except.toOption, Option.bind_some]
  cases tail reading.value reading.rest <;> rfl

theorem taken_punctuation {c : Char} {rest : List Char} (found : skipBlanks text = c :: rest) :
    taken (punctuation c text) = some ((), rest) := by
  obtain ⟨reading, read, rfl, rfl⟩ := token_of_skipBlanks found
  simp only [punctuation, read, taken_bind, Except.toOption, Option.bind_some, if_true]
  rfl

theorem takenTail_wordTail (word rest : List Char) :
    takenTail (wordTail word (word ++ rest)) = some ((), rest) := by
  induction word with
  | nil => rfl
  | cons letter word ih =>
      rw [← ih, List.cons_append, wordTail]
      simp only [ne_eq, not_true_eq_false, if_false, takenTail_bind]
      cases wordTail word (word ++ rest) <;> rfl

inductive Laid : List (List Char) → List Char → Prop
  | nil : Laid [] []
  | cons {blanks token : List Char} {tokens : List (List Char)} {text : List Char}
      (blank : Blanks blanks) (later : Laid tokens text) :
      Laid (token :: tokens) (blanks ++ token ++ text)

theorem laid_spread {blanks : List Char} (blank : Blanks blanks) (tokens : List (List Char)) :
    Laid tokens (tokens.flatMap (blanks ++ ·)) := by
  induction tokens with
  | nil => exact .nil
  | cons token tokens ih => exact .cons blank ih

theorem laid_flatten (tokens : List (List Char)) : Laid tokens tokens.flatten := by
  have none : Blanks [] := by simp [Blanks]
  simpa using laid_spread none tokens

theorem laid_append {first second : List (List Char)} (laid : Laid (first ++ second) text) :
    ∃ early late, text = early ++ late ∧ Laid first early ∧ Laid second late := by
  induction first generalizing text with
  | nil => exact ⟨[], text, rfl, .nil, laid⟩
  | cons token first ih =>
      cases laid with
      | cons blank later =>
          obtain ⟨early, late, rfl, laidFirst, laidSecond⟩ := ih later
          exact ⟨_, late, (List.append_assoc _ _ _).symm, .cons blank laidFirst, laidSecond⟩

theorem Laid.skipBlanks {c : Char} {token : List Char} {tokens : List (List Char)}
    (laid : Laid ((c :: token) :: tokens) text) (inked : isBlank c = false) (rest : List Char) :
    ∃ later, skipBlanks (text ++ rest) = c :: (token ++ (later ++ rest)) ∧ Laid tokens later := by
  cases laid with
  | @cons blanks _ _ later blank laid =>
      refine ⟨later, ?_, laid⟩
      rw [List.append_assoc, List.append_assoc, skipBlanks_of_blanks blank]
      simpa using skipBlanks_cons inked _

theorem Laid.skipBlanks_mark {c : Char} {tokens : List (List Char)} (laid : Laid ([c] :: tokens) text)
    (inked : isBlank c = false) (rest : List Char) :
    ∃ later, Json.skipBlanks (text ++ rest) = c :: (later ++ rest) ∧ Laid tokens later :=
  laid.skipBlanks inked rest

end StreamRecorder.Json
