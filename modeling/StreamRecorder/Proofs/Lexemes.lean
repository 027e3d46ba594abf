import StreamRecorder.Proofs.Scanning

namespace StreamRecorder.Json

/-! ## Strings -/

inductive Piece where
  | plain (c : Char) (allowed : c ≠ '"' ∧ c ≠ '\\' ∧ ¬ c.toNat < 0x20)
  | short (letter c : Char) (stands : letterEscape? letter = some c)
  | unit (a b c d : Char) (number : Nat) (stands : hexNumber? a b c d = some number)

namespace Piece

def text : Piece → List Char
  | plain c _ => [c]
  | short letter _ _ => ['\\', letter]
  | unit a b c d _ _ => ['\\', 'u', a, b, c, d]

def textOf (pieces : List Piece) : List Char :=
  pieces.flatMap text

@[simp] theorem textOf_plain (c : Char) (allowed) (more : List Piece) :
    textOf (.plain c allowed :: more) = c :: textOf more := rfl

@[simp] theorem textOf_short (letter c : Char) (stands) (more : List Piece) :
    textOf (.short letter c stands :: more) = '\\' :: letter :: textOf more := rfl

@[simp] theorem textOf_unit (a b c d : Char) (number : Nat) (stands) (more : List Piece) :
    textOf (.unit a b c d number stands :: more) = '\\' :: 'u' :: a :: b :: c :: d :: textOf more := rfl

/-- The characters that pieces stand for. A leading surrogate has to be followed by a trailing one. -/
def decode : List Piece → Option (List Char)
  | [] => some []
  | .plain c _ :: more => (decode more).map (c :: ·)
  | .short _ c _ :: more => (decode more).map (c :: ·)
  | .unit _ _ _ _ number _ :: more =>
      if isTrailing number then none
      else if isLeading number then
        match more with
        | .unit _ _ _ _ second _ :: later =>
            if isTrailing second then (decode later).map (joinSurrogates number second :: ·) else none
        | _ => none
      else (decode more).map (Char.ofNat number :: ·)

def string? (pieces : List Piece) : Option String :=
  (decode pieces).map String.ofList

end Piece

variable {α : Type}

theorem takenTail_stringTail_cons (unit : TailReader Char) (c : Char) (text : List Char) :
    takenTail (stringTail unit (c :: text)) =
      if c = '"' then some ([], text)
      else if c = '\\' then (takenTail (escapeTail unit text)).bind fun char =>
        (takenTail (stringTail unit char.2)).map (Prod.map (char.1 :: ·) id)
      else if c.toNat < 0x20 then none
      else (takenTail (stringTail unit text)).map (Prod.map (c :: ·) id) := by
  rw [stringTail]
  split_ifs with quote escape control
  · rfl
  · simp only [takenTail_bind]
    cases escapeTail unit text with
    | error fault => rfl
    | ok char =>
        simp only [Except.toOption, Option.bind_some, takenTail_ok]
        cases stringTail unit char.rest <;> rfl
  · rfl
  · simp only [takenTail_bind]
    cases stringTail unit text <;> rfl

theorem takenTail_hexTail (a b c d : Char) (rest : List Char) :
    takenTail (hexTail (a :: b :: c :: d :: rest)) = (hexNumber? a b c d).map (·, rest) := by
  rw [hexTail]
  cases hexNumber? a b c d <;> rfl

theorem letter_ne_unit {letter c : Char} (stands : letterEscape? letter = some c) : letter ≠ 'u' := by
  rintro rfl
  cases stands

theorem takenTail_escapeTail_short (unit : TailReader Char) {letter c : Char}
    (stands : letterEscape? letter = some c) (rest : List Char) :
    takenTail (escapeTail unit (letter :: rest)) = some (c, rest) := by
  rw [escapeTail.eq_3 unit letter rest (letter_ne_unit stands), stands]
  rfl

theorem takenTail_escapeTail_unit (unit : TailReader Char) (rest : List Char) :
    takenTail (escapeTail unit ('u' :: rest)) = takenTail (unit rest) := by
  simp only [escapeTail, takenTail_bind]
  cases unit rest <;> rfl

theorem takenTail_anyUnitTail (text : List Char) :
    takenTail (anyUnitTail text) = (takenTail (hexTail text)).map (Prod.map Char.ofNat id) :=
  takenTail_bind_map (hexTail text) Char.ofNat

theorem takenTail_unitTail (text : List Char) :
    takenTail (unitTail text) = (takenTail (hexTail text)).bind fun unit =>
      if isTrailing unit.1 then none
      else if isLeading unit.1 then takenTail (trailingTail unit.1 unit.2)
      else some (Char.ofNat unit.1, unit.2) := by
  simp only [unitTail, takenTail_bind]
  cases hexTail text with
  | error fault => rfl
  | ok unit =>
      simp only [Except.toOption, Option.bind_some, takenTail_ok]
      split_ifs with trailing leading
      · rfl
      · simp only [takenTail_bind]
        cases trailingTail unit.value unit.rest <;> rfl
      · rfl

theorem takenTail_trailingTail (leading : Nat) (text : List Char) :
    takenTail (trailingTail leading ('\\' :: 'u' :: text)) =
      (takenTail (hexTail text)).bind fun unit =>
        if isTrailing unit.1 then some (joinSurrogates leading unit.1, unit.2) else none := by
  simp only [trailingTail, takenTail_bind]
  cases hexTail text with
  | error fault => rfl
  | ok unit =>
      simp only [Except.toOption, Option.bind_some, takenTail_ok]
      cases isTrailing unit.value with
      | false => rfl
      | true => simp [pure, Except.pure, Tail.cons, Tail.map]

theorem trailingTail_of_ne {leading : Nat} {c : Char} (other : c ≠ '\\') (text : List Char) :
    takenTail (trailingTail leading (c :: text)) = none := by
  rw [trailingTail.eq_4] <;> simp [other]

theorem trailingTail_of_short {leading : Nat} {letter : Char} (other : letter ≠ 'u')
    (text : List Char) : takenTail (trailingTail leading ('\\' :: letter :: text)) = none := by
  rw [trailingTail.eq_4] <;> simp [other]

theorem takenTail_stringTail_quote (unit : TailReader Char) (rest : List Char) :
    takenTail (stringTail unit ('"' :: rest)) = some ([], rest) := by
  rw [takenTail_stringTail_cons, if_pos rfl]

theorem takenTail_stringTail_escape (unit : TailReader Char) (text : List Char) :
    takenTail (stringTail unit ('\\' :: text)) =
      (takenTail (escapeTail unit text)).bind fun char =>
        (takenTail (stringTail unit char.2)).map (Prod.map (char.1 :: ·) id) := by
  rw [takenTail_stringTail_cons, if_neg (by decide), if_pos rfl]

theorem takenTail_stringTail_plain (unit : TailReader Char) {c : Char}
    (allowed : c ≠ '"' ∧ c ≠ '\\' ∧ ¬ c.toNat < 0x20) (text : List Char) :
    takenTail (stringTail unit (c :: text)) =
      (takenTail (stringTail unit text)).map (Prod.map (c :: ·) id) := by
  rw [takenTail_stringTail_cons, if_neg allowed.1, if_neg allowed.2.1, if_neg allowed.2.2]

theorem takenTail_stringTail_short (unit : TailReader Char) {letter c : Char}
    (stands : letterEscape? letter = some c) (text : List Char) :
    takenTail (stringTail unit ('\\' :: letter :: text)) =
      (takenTail (stringTail unit text)).map (Prod.map (c :: ·) id) := by
  rw [takenTail_stringTail_escape, takenTail_escapeTail_short unit stands]
  rfl

theorem takenTail_trailingTail_pieces (number : Nat) (pieces : List Piece) (rest : List Char) :
    takenTail (trailingTail number (Piece.textOf pieces ++ '"' :: rest)) =
      match pieces with
      | .unit _ _ _ _ second _ :: later =>
          if isTrailing second then
            some (joinSurrogates number second, Piece.textOf later ++ '"' :: rest)
          else none
      | _ => none := by
  cases pieces with
  | nil => exact trailingTail_of_ne (by decide) rest
  | cons piece later =>
      cases piece with
      | plain c allowed => exact trailingTail_of_ne allowed.2.1 _
      | short letter c stands => exact trailingTail_of_short (letter_ne_unit stands) _
      | unit a b c d second stands =>
          simp only [Piece.textOf_unit, List.cons_append, takenTail_trailingTail, takenTail_hexTail, stands,
            Option.map_some, Option.bind_some]

theorem takenTail_stringTail_unit {a b c d : Char} {number : Nat}
    (stands : hexNumber? a b c d = some number) (text : List Char) :
    takenTail (stringTail unitTail ('\\' :: 'u' :: a :: b :: c :: d :: text)) =
      if isTrailing number then none
      else if isLeading number then
        (takenTail (trailingTail number text)).bind fun char =>
          (takenTail (stringTail unitTail char.2)).map (Prod.map (char.1 :: ·) id)
      else (takenTail (stringTail unitTail text)).map (Prod.map (Char.ofNat number :: ·) id) := by
  rw [takenTail_stringTail_escape, takenTail_escapeTail_unit, takenTail_unitTail, takenTail_hexTail,
    stands]
  simp only [Option.map_some, Option.bind_some]
  split_ifs <;> rfl

/-- A string that is decoded gives what its pieces stand for, and is refused if they stand for nothing. -/
theorem takenTail_stringTail (pieces : List Piece) (rest : List Char) :
    takenTail (stringTail unitTail (Piece.textOf pieces ++ '"' :: rest)) =
      (Piece.decode pieces).map (·, rest) := by
  fun_induction Piece.decode pieces with
  | case1 => exact takenTail_stringTail_quote unitTail rest
  | case2 c allowed more ih =>
      rw [Piece.textOf_plain, List.cons_append, takenTail_stringTail_plain unitTail allowed, ih]
      cases Piece.decode more <;> rfl
  | case3 letter c stands more ih =>
      simp only [Piece.textOf_short, List.cons_append, takenTail_stringTail_short unitTail stands, ih]
      cases Piece.decode more <;> rfl
  | case4 a b c d number stands more trailing =>
      simp only [Piece.textOf_unit, List.cons_append, takenTail_stringTail_unit stands, trailing, if_true]
      rfl
  | case5 a b c d number stands lone leading e f g h second paired later trailing ih =>
      rw [Piece.textOf_unit]
      simp only [List.cons_append, takenTail_stringTail_unit stands, lone, leading,
        takenTail_trailingTail_pieces, trailing, if_true, Option.bind_some, ih]
      cases Piece.decode later <;> rfl
  | case6 a b c d number stands lone leading e f g h second paired later other =>
      rw [Piece.textOf_unit]
      simp only [List.cons_append, takenTail_stringTail_unit stands, lone, leading,
        takenTail_trailingTail_pieces, other, if_true]
      rfl
  | case7 a b c d number stands more lone leading unpaired =>
      simp only [Piece.textOf_unit, List.cons_append, takenTail_stringTail_unit stands, lone, leading,
        takenTail_trailingTail_pieces, Bool.false_eq_true, if_false, if_true]
      rfl
  | case8 a b c d number stands more lone plain ih =>
      simp only [Piece.textOf_unit, List.cons_append, takenTail_stringTail_unit stands, lone, plain, ih]
      cases Piece.decode more <;> rfl

theorem takenTail_decodedTail (pieces : List Piece) (rest : List Char) :
    takenTail (decodedTail (Piece.textOf pieces ++ '"' :: rest)) =
      (Piece.string? pieces).map (·, rest) := by
  rw [decodedTail, takenTail_bind_map, takenTail_stringTail, Piece.string?, Option.map_map, Option.map_map]
  rfl

theorem takenTail_skippedTail (pieces : List Piece) (rest : List Char) :
    takenTail (skippedTail (Piece.textOf pieces ++ '"' :: rest)) = some ((), rest) := by
  have passed : ∃ chars, takenTail (stringTail anyUnitTail (Piece.textOf pieces ++ '"' :: rest)) =
      some (chars, rest) := by
    induction pieces with
    | nil => exact ⟨[], takenTail_stringTail_quote anyUnitTail rest⟩
    | cons piece pieces ih =>
        obtain ⟨chars, passed⟩ := ih
        cases piece with
        | plain c allowed =>
            refine ⟨c :: chars, ?_⟩
            rw [Piece.textOf_plain, List.cons_append, takenTail_stringTail_plain anyUnitTail allowed, passed]
            rfl
        | short letter c stands =>
            refine ⟨c :: chars, ?_⟩
            simp only [Piece.textOf_short, List.cons_append,
              takenTail_stringTail_short anyUnitTail stands, passed]
            rfl
        | unit a b c d number stands =>
            refine ⟨Char.ofNat number :: chars, ?_⟩
            simp only [Piece.textOf_unit, List.cons_append, takenTail_stringTail_escape,
              takenTail_escapeTail_unit, takenTail_anyUnitTail, takenTail_hexTail, stands,
              Option.map_some, Option.bind_some, Prod.map, id, passed]
  obtain ⟨chars, passed⟩ := passed
  rw [skippedTail, takenTail_bind_map, passed]
  rfl

/-! ## Numbers -/

structure Power where
  mark : Char
  sign : List Char
  digits : List Char
  marked : mark = 'e' ∨ mark = 'E'
  signed : sign = [] ∨ sign = ['+'] ∨ sign = ['-']
  nonempty : digits ≠ []
  decimal : ∀ c ∈ digits, c.isDigit = true

namespace Power

def text (power : Power) : List Char :=
  power.mark :: (power.sign ++ power.digits)

def value (power : Power) : Int :=
  if power.sign = ['-'] then -(Nat.ofDigitChars 10 power.digits 0) else Nat.ofDigitChars 10 power.digits 0

end Power

structure Numeral where
  negative : Bool := false
  whole : List Char
  fraction : List Char := []
  power : Option Power := none
  nonempty : whole ≠ []
  decimal : ∀ c ∈ whole ++ fraction, c.isDigit = true
  unpadded : ∀ c more, whole ≠ '0' :: c :: more

namespace Numeral

def literal (numeral : Numeral) : Literal :=
  { negative := numeral.negative
    whole := numeral.whole
    fraction := numeral.fraction
    exponent := numeral.power.map Power.value }

def powerText (numeral : Numeral) : List Char :=
  (numeral.power.map Power.text).getD []

def fractionText (numeral : Numeral) : List Char :=
  if numeral.fraction = [] then [] else '.' :: numeral.fraction

def unsigned (numeral : Numeral) : List Char :=
  numeral.whole ++ (numeral.fractionText ++ numeral.powerText)

def text (numeral : Numeral) : List Char :=
  if numeral.negative then '-' :: numeral.unsigned else numeral.unsigned

structure Denotes (numeral : Numeral) (n : Nat) : Prop where
  unsigned : numeral.negative = false
  plain : numeral.fraction = [] ∧ numeral.power = none
  digits : Nat.ofDigitChars 10 numeral.whole 0 = n

end Numeral

/-- What can follow a value: the end, a blank, a comma or the end of a container. -/
def Fenced (rest : List Char) : Prop :=
  ∀ c ∈ rest.head?, isBlank c = true ∨ c = ',' ∨ c = ']' ∨ c = '\x7d'

theorem Fenced.not_mem_number {rest : List Char} (fenced : Fenced rest) :
    ∀ c ∈ rest.head?, c.isDigit = false ∧ c ≠ '.' ∧ c ≠ 'e' ∧ c ≠ 'E' := by
  intro c first
  have possible : c = ' ' ∨ c = '\n' ∨ c = '\t' ∨ c = '\r' ∨ c = ',' ∨ c = ']' ∨ c = '\x7d' := by
    simpa [isBlank, or_assoc] using fenced c first
  rcases possible with rfl | rfl | rfl | rfl | rfl | rfl | rfl <;> decide

theorem taken_digits (early : Fault) {found rest : List Char} (nonempty : found ≠ [])
    (decimal : ∀ c ∈ found, c.isDigit = true) (ends : ∀ c ∈ rest.head?, c.isDigit = false) :
    taken (digits early (found ++ rest)) = some (found, rest) := by
  have stops : rest.takeWhile Char.isDigit = [] ∧ rest.dropWhile Char.isDigit = rest := by
    cases rest with
    | nil => exact ⟨rfl, rfl⟩
    | cons c rest => simp [ends c rfl]
  have taken : (found ++ rest).takeWhile Char.isDigit = found := by
    rw [List.takeWhile_append_of_pos decimal, stops.1, List.append_nil]
  have left : (found ++ rest).dropWhile Char.isDigit = rest := by
    rw [List.dropWhile_append_of_pos decimal, stops.2]
  unfold digits
  split
  · rename_i none
    exact absurd (taken.symm.trans none) nonempty
  · rename_i c more some
    simp [left, ← some, taken]

theorem rest_signTail {sign digits : List Char} (signed : sign = [] ∨ sign = ['+'] ∨ sign = ['-'])
    (nonempty : digits ≠ []) (decimal : ∀ c ∈ digits, c.isDigit = true) (rest : List Char) :
    (signTail (sign ++ digits ++ rest)).rest = digits ++ rest ∧
      ((signTail (sign ++ digits ++ rest)).value = true ↔ sign = ['-']) := by
  rcases signed with rfl | rfl | rfl
  · obtain ⟨c, more, rfl⟩ := List.exists_cons_of_ne_nil nonempty
    have digit : c.isDigit = true := decimal c List.mem_cons_self
    have unsigned : c ≠ '+' ∧ c ≠ '-' := by
      constructor <;> (rintro rfl; cases digit)
    rw [List.nil_append, List.cons_append, signTail.eq_3] <;> simp_all [Tail.here]
  · exact ⟨rfl, by simp [signTail, Tail.cons, Tail.here]⟩
  · exact ⟨rfl, by simp [signTail, Tail.cons, Tail.here]⟩

theorem takenTail_exponentTail (early : Fault) (power : Power) {rest : List Char}
    (ends : ∀ c ∈ rest.head?, c.isDigit = false) :
    takenTail (exponentTail early (power.text ++ rest)) = some (some power.value, rest) := by
  obtain ⟨after, negative⟩ := rest_signTail power.signed power.nonempty power.decimal rest
  have read := taken_digits early power.nonempty power.decimal ends
  rw [← after] at read
  rw [Power.text, List.cons_append, exponentTail.eq_2, if_pos power.marked]
  simp only [takenTail_bind]
  cases found : digits early (signTail (power.sign ++ power.digits ++ rest)).rest with
  | error fault => simp [found] at read
  | ok reading =>
      simp only [found, taken_ok, Option.some.injEq, Prod.mk.injEq] at read
      simp [Except.toOption, pure, Except.pure, Tail.cons, Tail.map, Tail.join, Reading.tail, read,
        Power.value, negative]

theorem takenTail_exponentTail_absent (early : Fault) {rest : List Char}
    (ends : ∀ c ∈ rest.head?, c ≠ 'e' ∧ c ≠ 'E') :
    takenTail (exponentTail early rest) = some (none, rest) := by
  cases rest with
  | nil => rfl
  | cons c rest =>
      have other : ¬ (c = 'e' ∨ c = 'E') := by simpa using ends c rfl
      rw [exponentTail.eq_2, if_neg other]
      rfl

theorem takenTail_fractionTail (early : Fault) {fraction rest : List Char} (nonempty : fraction ≠ [])
    (decimal : ∀ c ∈ fraction, c.isDigit = true) (ends : ∀ c ∈ rest.head?, c.isDigit = false) :
    takenTail (fractionTail early ('.' :: (fraction ++ rest))) = some (fraction, rest) := by
  rw [← taken_digits early nonempty decimal ends, fractionTail.eq_1, takenTail_bind]
  cases digits early (fraction ++ rest) <;> rfl

theorem takenTail_fractionTail_absent (early : Fault) {rest : List Char}
    (ends : ∀ c ∈ rest.head?, c ≠ '.') :
    takenTail (fractionTail early rest) = some ([], rest) := by
  rw [fractionTail.eq_2]
  · rfl
  · rintro text rfl
    exact ends '.' rfl rfl

theorem taken_whole (early : Fault) {found rest : List Char} (nonempty : found ≠ [])
    (decimal : ∀ c ∈ found, c.isDigit = true) (unpadded : ∀ c more, found ≠ '0' :: c :: more)
    (ends : ∀ c ∈ rest.head?, c.isDigit = false) :
    taken (whole early (found ++ rest)) = some (found, rest) := by
  have read := taken_digits early nonempty decimal ends
  unfold whole
  rw [taken_bind]
  cases found' : digits early (found ++ rest) with
  | error fault => simp [found'] at read
  | ok reading =>
      rw [found', taken_ok, Option.some.injEq, Prod.mk.injEq] at read
      simp only [Except.toOption, Option.bind_some]
      split
      · rename_i c more padded
        exact absurd (read.1.symm.trans padded) (unpadded c more)
      · simp [pure, Except.pure, read]

namespace Numeral

variable (numeral : Numeral) {rest : List Char}

theorem head_powerText (fenced : Fenced rest) :
    ∀ c ∈ (numeral.powerText ++ rest).head?, c.isDigit = false ∧ c ≠ '.' := by
  intro c first
  cases exponent : numeral.power with
  | none =>
      rw [powerText, exponent] at first
      obtain ⟨digit, point, -⟩ := fenced.not_mem_number c first
      exact ⟨digit, point⟩
  | some power =>
      rw [powerText, exponent] at first
      obtain rfl : power.mark = c := by simpa [Power.text] using first
      rcases power.marked with mark | mark <;> rw [mark] <;> decide

theorem takenTail_power (early : Fault) (fenced : Fenced rest) :
    takenTail (exponentTail early (numeral.powerText ++ rest)) =
      some (numeral.power.map Power.value, rest) := by
  cases exponent : numeral.power with
  | none =>
      rw [powerText, exponent]
      exact takenTail_exponentTail_absent early fun c first => (fenced.not_mem_number c first).2.2
  | some power =>
      rw [powerText, exponent]
      exact takenTail_exponentTail early power fun c first => (fenced.not_mem_number c first).1

theorem takenTail_fraction (early : Fault) (fenced : Fenced rest) :
    takenTail (fractionTail early (numeral.fractionText ++ (numeral.powerText ++ rest))) =
      some (numeral.fraction, numeral.powerText ++ rest) := by
  have head := numeral.head_powerText fenced
  by_cases none : numeral.fraction = []
  · rw [fractionText, if_pos none, none]
    exact takenTail_fractionTail_absent early fun c first => (head c first).2
  · rw [fractionText, if_neg none]
    refine takenTail_fractionTail early none ?_ fun c first => (head c first).1
    exact fun c member => numeral.decimal c (List.mem_append_right _ member)

theorem head_fractionText (fenced : Fenced rest) :
    ∀ c ∈ (numeral.fractionText ++ (numeral.powerText ++ rest)).head?, c.isDigit = false := by
  intro c first
  by_cases none : numeral.fraction = []
  · rw [fractionText, if_pos none] at first
    exact (numeral.head_powerText fenced c first).1
  · rw [fractionText, if_neg none] at first
    obtain rfl : '.' = c := by simpa using first
    decide

theorem taken_literal (early : Fault) (fenced : Fenced rest) :
    taken (Json.literal early numeral.negative (numeral.unsigned ++ rest)) =
      some (numeral.literal, rest) := by
  have decimal : ∀ c ∈ numeral.whole, c.isDigit = true := fun c member =>
    numeral.decimal c (List.mem_append_left _ member)
  have text : numeral.unsigned ++ rest =
      numeral.whole ++ (numeral.fractionText ++ (numeral.powerText ++ rest)) := by
    simp [unsigned]
  obtain ⟨whole, readWhole, wholeValue, wholeRest⟩ := taken_eq_some.mp
    (taken_whole early numeral.nonempty decimal numeral.unpadded (numeral.head_fractionText fenced))
  have fractionTaken := numeral.takenTail_fraction early fenced
  rw [← wholeRest] at fractionTaken
  obtain ⟨fraction, readFraction, fractionValue, fractionRest⟩ := takenTail_eq_some.mp fractionTaken
  have powerTaken := numeral.takenTail_power early fenced
  rw [← fractionRest] at powerTaken
  obtain ⟨power, readPower, powerValue, powerRest⟩ := takenTail_eq_some.mp powerTaken
  rw [text]
  simp only [Json.literal, readWhole, readFraction, readPower, bind, Except.bind, pure, Except.pure, taken_ok]
  simp [Reading.map, Reading.join, Tail.join, literal, wholeValue, fractionValue, powerValue, powerRest]

theorem exists_first : ∃ c later, numeral.text = c :: later ∧ startsNumber c = true := by
  cases sign : numeral.negative with
  | true => exact ⟨'-', numeral.unsigned, by simp [text, sign], rfl⟩
  | false =>
      obtain ⟨c, more, whole⟩ := List.exists_cons_of_ne_nil numeral.nonempty
      have digit : c.isDigit = true := numeral.decimal c (by simp [whole])
      exact ⟨c, _, by simp [text, sign, unsigned, whole]; rfl, by simp [startsNumber, digit]⟩

theorem takenTail_literalTail (early : Fault) {c : Char} {later : List Char}
    (written : numeral.text = c :: later) (fenced : Fenced rest) :
    takenTail (literalTail early c (later ++ rest)) = some (numeral.literal, rest) := by
  have read := numeral.taken_literal early fenced
  unfold literalTail
  cases sign : numeral.negative with
  | true =>
      obtain ⟨rfl, rfl⟩ : '-' = c ∧ numeral.unsigned = later := by simpa [text, sign] using written
      rw [sign] at read
      rw [← read, if_pos rfl, takenTail_bind]
      cases Json.literal early true (numeral.unsigned ++ rest) <;> rfl
  | false =>
      have unsigned : numeral.unsigned = c :: later := by simpa [text, sign] using written
      have digit : c ≠ '-' := by
        obtain ⟨first, more, whole⟩ := List.exists_cons_of_ne_nil numeral.nonempty
        have decimal : first.isDigit = true := numeral.decimal first (by simp [whole])
        rw [Numeral.unsigned, whole, List.cons_append, List.cons.injEq] at unsigned
        rintro rfl
        rw [unsigned.1] at decimal
        cases decimal
      rw [sign, unsigned, List.cons_append] at read
      rw [← read, if_neg digit, takenTail_bind]
      cases Json.literal early false (c :: (later ++ rest)) <;> rfl

theorem takenTail_numberTail {c : Char} {later : List Char} (written : numeral.text = c :: later)
    (fenced : Fenced rest) : takenTail (numberTail c (later ++ rest)) =
      numeral.literal.value.toOption.map (·, rest) := by
  obtain ⟨tail, read, value, left⟩ :=
    takenTail_eq_some.mp (numeral.takenTail_literalTail .endOfInput written fenced)
  simp only [numberTail, read, bind, Except.bind]
  rw [value]
  cases numeral.literal.value with
  | error fault => rfl
  | ok number => simp [pure, Except.pure, Tail.map, Except.toOption, left]

end Numeral

end StreamRecorder.Json
