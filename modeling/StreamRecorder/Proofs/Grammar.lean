import StreamRecorder.Proofs.Lexemes

namespace StreamRecorder.Json

inductive Word where
  | null
  | boolean (value : Bool)

def Word.text : Word → List Char
  | .null => "null".toList
  | .boolean true => "true".toList
  | .boolean false => "false".toList

inductive Value where
  | word (word : Word)
  | number (numeral : Numeral)
  | string (pieces : List Piece)
  | array (elements : List Value)
  /-- The keys are string literals as they are written. -/
  | object (members : List (List Piece × Value))

abbrev Member := List Piece × Value

namespace Value

mutual

def tokens : Value → List (List Char)
  | .word letters => [letters.text]
  | .number numeral => [numeral.text]
  | .string pieces => ['"' :: (Piece.textOf pieces ++ ['"'])]
  | .array [] => [['['], [']']]
  | .array (first :: more) => ['['] :: (first.tokens ++ laterElements more)
  | .object [] => [['\x7b'], ['\x7d']]
  | .object (first :: more) => ['\x7b'] :: (memberTokens first ++ laterMembers more)

def laterElements : List Value → List (List Char)
  | [] => [[']']]
  | element :: more => [','] :: (element.tokens ++ laterElements more)

def memberTokens : List Piece × Value → List (List Char)
  | (key, value) => ('"' :: (Piece.textOf key ++ ['"'])) :: [':'] :: value.tokens

def laterMembers : List (List Piece × Value) → List (List Char)
  | [] => [['\x7d']]
  | member :: more => [','] :: (memberTokens member ++ laterMembers more)

end

def Spells (value : Value) (text : String) : Prop :=
  ∃ body blanks, text.toList = body ++ blanks ∧ Laid value.tokens body ∧ Blanks blanks

inductive Opens : Value → Char → Prop
  | null : Opens (.word .null) 'n'
  | yes : Opens (.word (.boolean true)) 't'
  | no : Opens (.word (.boolean false)) 'f'
  | number {numeral : Numeral} {c : Char} (starts : startsNumber c = true) : Opens (.number numeral) c
  | string {pieces : List Piece} : Opens (.string pieces) '"'
  | array {elements : List Value} : Opens (.array elements) '['
  | object {members : List Member} : Opens (.object members) '\x7b'

theorem exists_opening (value : Value) :
    ∃ c token more, value.tokens = (c :: token) :: more ∧ value.Opens c := by
  cases value with
  | word letters =>
      cases letters with
      | null => exact ⟨_, _, _, rfl, .null⟩
      | boolean answer =>
          cases answer with
          | false => exact ⟨_, _, _, rfl, .no⟩
          | true => exact ⟨_, _, _, rfl, .yes⟩
  | number numeral =>
      obtain ⟨c, later, written, starts⟩ := numeral.exists_first
      exact ⟨c, later, [], by rw [tokens, written], .number starts⟩
  | string pieces => exact ⟨_, _, _, rfl, .string⟩
  | array elements => cases elements <;> exact ⟨_, _, _, rfl, .array⟩
  | object members => cases members <;> exact ⟨_, _, _, rfl, .object⟩

theorem ne_of_startsNumber {c other : Char} (starts : startsNumber c = true)
    (none : startsNumber other = false) : c ≠ other := by
  rintro rfl
  rw [none] at starts
  cases starts

theorem inked_of_startsNumber {c : Char} (starts : startsNumber c = true) : isBlank c = false := by
  have space : c ≠ ' ' := ne_of_startsNumber starts rfl
  have newline : c ≠ '\n' := ne_of_startsNumber starts rfl
  have tab : c ≠ '\t' := ne_of_startsNumber starts rfl
  have back : c ≠ '\r' := ne_of_startsNumber starts rfl
  simp [isBlank, space, newline, tab, back]

theorem Opens.inked {value : Value} {c : Char} (opens : value.Opens c) :
    isBlank c = false ∧ c ≠ ']' ∧ c ≠ '\x7d' := by
  cases opens with
  | number starts =>
      exact ⟨inked_of_startsNumber starts, ne_of_startsNumber starts rfl, ne_of_startsNumber starts rfl⟩
  | null | yes | no | string | array | object => decide

theorem skipBlanks_of_laid {value : Value} {more : List (List Char)} {text : List Char}
    (laid : Laid (value.tokens ++ more) text) (rest : List Char) :
    ∃ c later, skipBlanks (text ++ rest) = c :: later ∧ value.Opens c := by
  obtain ⟨c, token, others, tokens, opens⟩ := value.exists_opening
  rw [tokens] at laid
  obtain ⟨later, found, -⟩ := laid.skipBlanks opens.inked.1 rest
  exact ⟨c, _, found, opens⟩

def IsScalar : Value → Prop
  | .word _ | .number _ | .string _ => True
  | .array _ | .object _ => False

theorem takenTail_skipScalar {value : Value} (scalar : value.IsScalar) {c : Char} {token : List Char}
    {more : List (List Char)} (written : value.tokens = (c :: token) :: more) {rest : List Char}
    (fenced : Fenced rest) :
    takenTail (skipScalar c (token ++ rest)) = some ((), rest) ∧ c ≠ '[' ∧ c ≠ '\x7b' := by
  cases value with
  | array elements => exact scalar.elim
  | object members => exact scalar.elim
  | word letters =>
      cases letters with
      | null =>
          cases written
          exact ⟨takenTail_wordTail _ rest, by decide, by decide⟩
      | boolean answer =>
          cases answer <;> cases written <;> exact ⟨takenTail_wordTail _ rest, by decide, by decide⟩
  | string pieces =>
      cases written
      refine ⟨?_, by decide, by decide⟩
      rw [List.append_assoc]
      exact takenTail_skippedTail pieces rest
  | number numeral =>
      have text : numeral.text = c :: token := (List.cons.inj written).1
      obtain ⟨first, later, same, starts⟩ := numeral.exists_first
      obtain rfl : first = c := (List.cons.inj (same.symm.trans text)).1
      have read := numeral.takenTail_literalTail .malformed text fenced
      have other (letter : Char) (none : startsNumber letter = false) : first ≠ letter :=
        ne_of_startsNumber starts none
      refine ⟨?_, other _ rfl, other _ rfl⟩
      unfold skipScalar
      rw [if_neg (other _ rfl), if_neg (other _ rfl), if_neg (other _ rfl), if_neg (other _ rfl),
        if_pos starts, takenTail_bind_map, read]
      rfl

end Value

/-- Whatever containers are open, what is passed over ends at `final`. -/
def Passes (containers : List Container) (text final : List Char) : Prop :=
  ∀ (bound : Nat) (h : text.length ≤ bound), ∃ shorter,
    skipWithin containers text h = .ok ⟨final, shorter⟩

def Ends {bound : Nat} (left : Except Fault (Remaining bound)) (final : List Char) : Prop :=
  (∃ within, left = .ok (.done final within)) ∨
    ∃ containers rest within, left = .ok (.value containers rest within) ∧
      Passes containers rest final

def Resumes (containers : List Container) (rest final : List Char) : Prop :=
  ∀ (bound : Nat) (h : rest.length ≤ bound), Ends (skipEnds containers rest h) final

variable {containers : List Container} {container : Container} {text middle rest final : List Char}

theorem passes_of_step {c : Char} (found : skipBlanks text = c :: rest)
    (ends : Ends (skipStep containers c rest (Nat.le_refl _)) final) : Passes containers text final := by
  intro bound h
  obtain ⟨reading, read, rfl, rfl⟩ := token_of_skipBlanks found
  rw [skipWithin, read]
  rcases ends with ⟨within, ended⟩ | ⟨inner, later, within, continued, passes⟩
  · simp only [bind, Except.bind, ended]
    exact ⟨Nat.lt_of_le_of_lt within (Nat.lt_of_lt_of_le reading.shorter h), rfl⟩
  · simp only [bind, Except.bind, continued]
    exact passes _ _

theorem resumes_nil (rest : List Char) : Resumes [] rest rest :=
  fun _ h => .inl ⟨h, rfl⟩

theorem resumes_of_close (found : skipBlanks text = container.close :: rest)
    (resumes : Resumes containers rest final) : Resumes (container :: containers) text final := by
  intro bound h
  obtain ⟨reading, read, closes, rfl⟩ := token_of_skipBlanks found
  simp only [skipEnds, read, bind, Except.bind, closes, if_true]
  exact resumes bound _

theorem resumes_of_element (found : skipBlanks text = ',' :: rest)
    (passes : Passes (.array :: containers) rest final) :
    Resumes (.array :: containers) text final := by
  intro bound h
  obtain ⟨reading, read, comma, rfl⟩ := token_of_skipBlanks found
  have other : ',' ≠ Container.array.close := by decide
  simp only [skipEnds, read, bind, Except.bind, comma, if_neg other, if_true]
  exact .inr ⟨_, _, _, rfl, passes⟩

theorem resumes_of_member (found : skipBlanks text = ',' :: middle)
    (key : taken (skipKey middle) = some ((), rest))
    (passes : Passes (.object :: containers) rest final) :
    Resumes (.object :: containers) text final := by
  intro bound h
  obtain ⟨reading, read, comma, rfl⟩ := token_of_skipBlanks found
  obtain ⟨name, readName, -, rfl⟩ := taken_eq_some.mp key
  have other : ',' ≠ Container.object.close := by decide
  simp only [skipEnds, read, bind, Except.bind, comma, if_neg other, if_true, readName]
  exact .inr ⟨_, _, _, rfl, passes⟩

def Container.opening : Container → Char
  | .array => '['
  | .object => '\x7b'

theorem skipStep_opening {bound : Nat} (h : text.length ≤ bound) :
    skipStep containers container.opening text h = skipOpening container containers text h := by
  cases container <;> rfl

theorem passes_of_close (container : Container) (found : skipBlanks text = container.opening :: middle)
    (closed : skipBlanks middle = container.close :: rest) (resumes : Resumes containers rest final) :
    Passes containers text final := by
  apply passes_of_step found
  rw [skipStep_opening]
  obtain ⟨reading, read, closes, rfl⟩ := token_of_skipBlanks closed
  simp only [skipOpening, read, bind, Except.bind, closes, if_true]
  exact resumes _ _

theorem passes_of_element {c : Char} {later : List Char} (found : skipBlanks text = '[' :: rest)
    (first : skipBlanks rest = c :: later) (inside : c ≠ ']')
    (passes : Passes (.array :: containers) rest final) : Passes containers text final := by
  apply passes_of_step found
  obtain ⟨reading, read, rfl, -⟩ := token_of_skipBlanks first
  have other : reading.value ≠ Container.array.close := inside
  change Ends (skipOpening .array containers rest (Nat.le_refl _)) final
  simp only [skipOpening, read, bind, Except.bind, if_neg other]
  exact .inr ⟨_, _, _, rfl, passes⟩

theorem passes_of_member {later : List Char} (found : skipBlanks text = '\x7b' :: middle)
    (first : skipBlanks middle = '"' :: later) (key : taken (skipKey middle) = some ((), rest))
    (passes : Passes (.object :: containers) rest final) : Passes containers text final := by
  apply passes_of_step found
  obtain ⟨reading, read, quoted, -⟩ := token_of_skipBlanks first
  obtain ⟨name, readName, -, rfl⟩ := taken_eq_some.mp key
  have other : '"' ≠ Container.object.close := by decide
  change Ends (skipOpening .object containers middle (Nat.le_refl _)) final
  simp only [skipOpening, read, bind, Except.bind, quoted, if_neg other, readName]
  exact .inr ⟨_, _, _, rfl, passes⟩

namespace Value

variable {value : Value} {more : List (List Char)}

theorem passes_of_isScalar (scalar : value.IsScalar) (laid : Laid value.tokens text)
    (fenced : Fenced rest) (resumes : Resumes containers rest final) :
    Passes containers (text ++ rest) final := by
  obtain ⟨c, token, more, written, opens⟩ := value.exists_opening
  have single : more = [] := by
    cases value <;> first | exact scalar.elim | exact (List.cons.inj written).2.symm
  rw [written, single] at laid
  obtain ⟨later, found, done⟩ := laid.skipBlanks opens.inked.1 rest
  cases done
  obtain ⟨read, notArray, notObject⟩ := takenTail_skipScalar scalar written fenced
  apply passes_of_step found
  obtain ⟨tail, readTail, -, left⟩ := takenTail_eq_some.mp read
  rw [← left] at resumes
  rw [skipStep, if_neg notArray, if_neg notObject]
  simp only [List.nil_append, readTail, bind, Except.bind]
  exact resumes _ _

theorem taken_skipKey {key : List Piece}
    (laid : Laid (('"' :: (Piece.textOf key ++ ['"'])) :: [':'] :: more) text) (rest : List Char) :
    ∃ opened later, skipBlanks (text ++ rest) = '"' :: opened ∧
      taken (skipKey (text ++ rest)) = some ((), later ++ rest) ∧ Laid more later := by
  obtain ⟨middle, found, laid⟩ := laid.skipBlanks (by decide) rest
  obtain ⟨later, colon, laid⟩ := laid.skipBlanks (by decide) rest
  refine ⟨_, later, found, ?_, laid⟩
  have read := takenTail_skippedTail key (middle ++ rest)
  rw [List.append_assoc] at found
  rw [skipKey, taken_andThen, taken_ofToken found, if_pos rfl]
  simp only [List.singleton_append, read, Option.bind_some]
  exact taken_punctuation colon

theorem fenced_of_laid {c : Char} {token : List Char} (laid : Laid ((c :: token) :: more) text)
    (fence : c = ',' ∨ c = ']' ∨ c = '\x7d') (rest : List Char) : Fenced (text ++ rest) := by
  cases laid with
  | @cons blanks _ _ later blank laid =>
      intro first starts
      cases blanks with
      | nil =>
          obtain rfl : c = first := by simpa using starts
          exact .inr fence
      | cons b blanks =>
          obtain rfl : b = first := by simpa using starts
          exact .inl (blank b List.mem_cons_self)

theorem fenced_laterElements {elements : List Value} (laid : Laid (laterElements elements) text)
    (rest : List Char) : Fenced (text ++ rest) := by
  cases elements with
  | nil => exact fenced_of_laid laid (.inr (.inl rfl)) rest
  | cons element more => exact fenced_of_laid laid (.inl rfl) rest

theorem fenced_laterMembers {members : List Member} (laid : Laid (laterMembers members) text)
    (rest : List Char) : Fenced (text ++ rest) := by
  cases members with
  | nil => exact fenced_of_laid laid (.inr (.inr rfl)) rest
  | cons member more => exact fenced_of_laid laid (.inl rfl) rest

-- The recursion is on the value. What follows it in its container is what its passage resumes.
mutual

theorem passes_of_laid (value : Value) {containers : List Container} {text rest final : List Char}
    (laid : Laid value.tokens text) (fenced : Fenced rest) (resumes : Resumes containers rest final) :
    Passes containers (text ++ rest) final := by
  cases value with
  | word letters => exact passes_of_isScalar (by trivial) laid fenced resumes
  | number numeral => exact passes_of_isScalar (by trivial) laid fenced resumes
  | string pieces => exact passes_of_isScalar (by trivial) laid fenced resumes
  | array elements =>
      cases elements with
      | nil =>
          obtain ⟨middle, found, laid⟩ := laid.skipBlanks_mark (by decide) rest
          obtain ⟨later, closed, laid⟩ := laid.skipBlanks_mark (by decide) rest
          cases laid
          exact passes_of_close .array found closed resumes
      | cons first more =>
          obtain ⟨middle, found, laid⟩ := laid.skipBlanks_mark (by decide) rest
          obtain ⟨c, later, starts, opens⟩ := skipBlanks_of_laid laid rest
          obtain ⟨early, late, rfl, laidFirst, laidMore⟩ := laid_append laid
          apply passes_of_element found starts opens.inked.2.1
          rw [List.append_assoc]
          exact passes_of_laid first laidFirst (fenced_laterElements laidMore rest)
            (resumes_of_elements more laidMore resumes)
  | object members =>
      cases members with
      | nil =>
          obtain ⟨middle, found, laid⟩ := laid.skipBlanks_mark (by decide) rest
          obtain ⟨later, closed, laid⟩ := laid.skipBlanks_mark (by decide) rest
          cases laid
          exact passes_of_close .object found closed resumes
      | cons first more =>
          obtain ⟨key, member⟩ := first
          obtain ⟨middle, found, laid⟩ := laid.skipBlanks_mark (by decide) rest
          obtain ⟨opened, later, starts, read, laid⟩ := taken_skipKey laid rest
          obtain ⟨early, late, rfl, laidMember, laidMore⟩ := laid_append laid
          apply passes_of_member found starts read
          rw [List.append_assoc]
          exact passes_of_laid member laidMember (fenced_laterMembers laidMore rest)
            (resumes_of_members more laidMore resumes)

theorem resumes_of_elements (elements : List Value) {containers : List Container}
    {text rest final : List Char} (laid : Laid (laterElements elements) text)
    (resumes : Resumes containers rest final) : Resumes (.array :: containers) (text ++ rest) final := by
  cases elements with
  | nil =>
      obtain ⟨later, closed, laid⟩ := laid.skipBlanks_mark (by decide) rest
      cases laid
      exact resumes_of_close closed resumes
  | cons element more =>
      obtain ⟨middle, found, laid⟩ := laid.skipBlanks_mark (by decide) rest
      obtain ⟨early, late, rfl, laidElement, laidMore⟩ := laid_append laid
      apply resumes_of_element found
      rw [List.append_assoc]
      exact passes_of_laid element laidElement (fenced_laterElements laidMore rest)
        (resumes_of_elements more laidMore resumes)

theorem resumes_of_members (members : List (List Piece × Value)) {containers : List Container}
    {text rest final : List Char} (laid : Laid (laterMembers members) text)
    (resumes : Resumes containers rest final) :
    Resumes (.object :: containers) (text ++ rest) final := by
  cases members with
  | nil =>
      obtain ⟨later, closed, laid⟩ := laid.skipBlanks_mark (by decide) rest
      cases laid
      exact resumes_of_close closed resumes
  | cons member more =>
      obtain ⟨key, value⟩ := member
      obtain ⟨middle, found, laid⟩ := laid.skipBlanks_mark (by decide) rest
      obtain ⟨opened, later, starts, read, laid⟩ := taken_skipKey laid rest
      obtain ⟨early, late, rfl, laidMember, laidMore⟩ := laid_append laid
      apply resumes_of_member found read
      rw [List.append_assoc]
      exact passes_of_laid value laidMember (fenced_laterMembers laidMore rest)
        (resumes_of_members more laidMore resumes)

end

/-- Whatever a value holds, passing over it leaves just what follows it. -/
theorem taken_skipValue (value : Value) {text rest : List Char} (laid : Laid value.tokens text)
    (fenced : Fenced rest) : taken (skipValue (text ++ rest)) = some ((), rest) := by
  obtain ⟨shorter, passed⟩ :=
    value.passes_of_laid laid fenced (resumes_nil rest) _ (length_le_length _)
  simp only [skipValue, passed, bind, Except.bind]
  rfl

end Value

end StreamRecorder.Json
