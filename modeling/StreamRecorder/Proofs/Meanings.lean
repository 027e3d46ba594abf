import StreamRecorder.Proofs.Grammar

/-!
# What readers make of values

A reader is steady if what it makes of a value depends on the value alone, however this is laid out
and whatever follows it. A reader of records is steady if the readers of its fields are.
-/

namespace StreamRecorder.Json

variable {α β : Type}

def Reads (reader : Reader α) (meaning : Value → Option α) : Prop :=
  ∀ (value : Value) (text rest : List Char), Laid value.tokens text → Fenced rest →
    taken (reader (text ++ rest)) = (meaning value).map (·, rest)

def Reader.on (reader : Reader α) (value : Value) : Option α :=
  (taken (reader value.tokens.flatten)).map Prod.fst

def Steady (reader : Reader α) : Prop :=
  Reads reader reader.on

theorem fenced_nil : Fenced [] := by
  simp [Fenced]

theorem Reads.on_eq {reader : Reader α} {meaning : Value → Option α} (reads : Reads reader meaning)
    (value : Value) : reader.on value = meaning value := by
  have read := reads value _ [] (laid_flatten _) fenced_nil
  rw [List.append_nil] at read
  rw [Reader.on, read]
  cases meaning value <;> rfl

theorem Reads.steady {reader : Reader α} {meaning : Value → Option α} (reads : Reads reader meaning) :
    Steady reader := by
  intro value text rest laid fenced
  rw [reads.on_eq, reads value text rest laid fenced]

theorem Reads.map {reader : Reader β} {meaning : Value → Option β} (reads : Reads reader meaning)
    (f : β → α) : Reads (reader.map f) fun value => (meaning value).map f := by
  intro value text rest laid fenced
  rw [taken_map, reads value text rest laid fenced, Option.map_map, Option.map_map]
  rfl

theorem takenTail_refuse (expected : Expected) (c : Char) (text : List Char) :
    takenTail (refuse (α := α) expected c text) = none := by
  unfold refuse
  rw [takenTail_bind]
  cases found c text <;> rfl

/-! ## Strings, booleans and words -/

namespace Value

def string? : Value → Option String
  | .string pieces => Piece.string? pieces
  | _ => none

def boolean? : Value → Option Bool
  | .word (.boolean answer) => some answer
  | _ => none

def word? (bits : Nat) : Value → Option Nat
  | .number numeral => numeral.literal.value.toOption.bind fun number => (number.word bits).toOption
  | _ => none

theorem reads_ofToken {tail : Char → TailReader α} {meaning : Value → Option α}
    (reads : ∀ (value : Value) {c : Char} {token rest : List Char} {more : List (List Char)}
      {later : List Char}, value.tokens = (c :: token) :: more → value.Opens c → Laid more later →
      Fenced rest → takenTail (tail c (token ++ (later ++ rest))) = (meaning value).map (·, rest)) :
    Reads (Reader.ofToken tail) meaning := by
  intro value text rest laid fenced
  obtain ⟨c, token, more, written, opens⟩ := value.exists_opening
  rw [written] at laid
  obtain ⟨later, found, laid⟩ := laid.skipBlanks opens.inked.1 rest
  rw [taken_ofToken found, reads value written opens laid fenced]

end Value

theorem reads_string : Reads string Value.string? := by
  apply Value.reads_ofToken
  intro value c token rest more later written opens laid fenced
  cases opens with
  | string =>
      cases written
      cases laid
      rw [if_pos rfl, List.append_assoc]
      exact takenTail_decodedTail _ rest
  | number starts =>
      rw [if_neg (Value.ne_of_startsNumber starts rfl)]
      exact takenTail_refuse _ _ _
  | null | yes | no | array | object => exact takenTail_refuse _ _ _

theorem reads_boolean : Reads boolean Value.boolean? := by
  apply Value.reads_ofToken
  intro value c token rest more later written opens laid fenced
  cases opens with
  | yes =>
      cases written
      cases laid
      rw [if_pos rfl, takenTail_bind_map]
      exact congrArg (Option.map _) (takenTail_wordTail "rue".toList rest)
  | no =>
      cases written
      cases laid
      rw [if_neg (by decide), if_pos rfl, takenTail_bind_map]
      exact congrArg (Option.map _) (takenTail_wordTail "alse".toList rest)
  | number starts =>
      rw [if_neg (Value.ne_of_startsNumber starts rfl), if_neg (Value.ne_of_startsNumber starts rfl)]
      exact takenTail_refuse _ _ _
  | null | string | array | object => exact takenTail_refuse _ _ _

theorem reads_word (bits : Nat) : Reads (word bits) (Value.word? bits) := by
  apply Value.reads_ofToken
  intro value c token rest more later written opens laid fenced
  cases opens with
  | @number numeral _ starts =>
      have text : numeral.text = c :: token := (List.cons.inj written).1
      obtain rfl : [] = more := (List.cons.inj written).2
      cases laid
      rw [if_pos starts, List.nil_append, Value.word?]
      rcases takenTail_cases (numeral.takenTail_numberTail text fenced) with
        ⟨none, fault, refused⟩ | ⟨tail, read, some, left⟩
      · rw [refused, none]
        rfl
      · rw [read, some]
        cases inRange : tail.value.word bits with
        | error fault => simp [bind, Except.bind, inRange, Except.toOption]
        | ok number =>
            simp [bind, Except.bind, pure, Except.pure, inRange, Except.toOption, Tail.map, left]
  | null | yes | no | string | array | object => exact takenTail_refuse _ _ _

theorem Numeral.Denotes.word? {numeral : Numeral} {n bits : Nat} (denotes : numeral.Denotes n)
    (fits : n < 2 ^ bits) (small : bits ≤ 64) : (Value.number numeral).word? bits = some n := by
  have size : n < UInt64.size := Nat.lt_of_lt_of_le fits (Nat.pow_le_pow_right (by decide) small)
  have whole : numeral.literal.whole? = some (n : Int) := by
    simp [Literal.whole?, Numeral.literal, denotes.unsigned, denotes.plain, denotes.digits, size]
  have inRange : 0 ≤ (n : Int) ∧ (n : Int).toNat < 1 <<< bits :=
    ⟨Int.natCast_nonneg n, by rwa [Int.toNat_natCast, Nat.one_shiftLeft]⟩
  simp only [Value.word?, Literal.value, whole, Except.toOption, Option.bind_some]
  rw [Number.word, if_pos inRange]
  rfl

/-! ## Records -/

namespace Shape

variable {δ : Type} (shape : Shape δ α)

def field (draft : δ) (key : String) (value : Value) : Option δ :=
  (shape.member draft key).toOption.bind fun
    | none => some draft
    | some reader => reader.on value

def step (draft : δ) (member : Member) : Option δ :=
  (Piece.string? member.1).bind fun key => shape.field draft key member.2

def gather (draft : δ) (members : List Member) : Option δ :=
  members.foldlM shape.step draft

def gatherElements (count : Nat) (draft : δ) : List (δ → Reader δ) → List Value → Option α
  | _, [] => (shape.ofElements count draft).toOption
  | [], _ :: _ => none
  | field :: fields, value :: values =>
      ((field draft).on value).bind fun next => gatherElements (count + 1) next fields values

def record? : Value → Option α
  | .object members =>
      (shape.gather shape.start members).bind fun draft => (shape.ofMembers draft).toOption
  | .array values => shape.gatherElements 0 shape.start shape.elements values
  | _ => none

structure SteadyFields : Prop where
  member : ∀ draft key reader, shape.member draft key = .ok (some reader) → Steady reader
  element : ∀ field ∈ shape.elements, ∀ draft, Steady (field draft)

variable {shape} {draft : δ} {text rest : List Char}

theorem gather_cons (member : Member) (more : List Member) :
    shape.gather draft (member :: more) =
      (shape.step draft member).bind fun next => shape.gather next more := rfl

theorem taken_memberValue (steady : shape.SteadyFields) (key : String) {value : Value}
    (laid : Laid ([':'] :: value.tokens) text) (fenced : Fenced rest) :
    taken (shape.memberValue draft key (text ++ rest)) = (shape.field draft key value).map (·, rest) := by
  obtain ⟨later, colon, laid⟩ := laid.skipBlanks_mark (by decide) rest
  unfold memberValue field
  rw [taken_bind]
  cases known : shape.member draft key with
  | error fault => rfl
  | ok reader? =>
      cases reader? with
      | none =>
          simp only [Except.toOption, Option.bind_some, taken_andThen, taken_punctuation colon, taken_map,
            value.taken_skipValue laid fenced]
          rfl
      | some reader =>
          simp only [Except.toOption, Option.bind_some, taken_andThen, taken_punctuation colon]
          exact steady.member _ _ _ known value later rest laid fenced

theorem takenTail_memberTail_quote (text : List Char) :
    takenTail (shape.memberTail draft '"' text) =
      (takenTail (decodedTail text)).bind fun key => taken (shape.memberValue draft key.1 key.2) := by
  unfold memberTail
  rw [if_neg (by decide)]
  cases decodedTail text with
  | error fault => rfl
  | ok key =>
      simp only [takenTail_ok, Option.bind_some, bind, Except.bind]
      cases shape.memberValue draft key.value key.rest <;> rfl

theorem takenTail_laterMembers_close (found : skipBlanks text = '\x7d' :: rest) :
    takenTail (shape.laterMembers draft text) = some (draft, rest) := by
  obtain ⟨reading, read, close, rfl⟩ := token_of_skipBlanks found
  rw [laterMembers]
  simp only [read, bind, Except.bind, close, if_true]
  rfl

theorem takenTail_laterMembers_next (found : skipBlanks text = ',' :: rest) :
    takenTail (shape.laterMembers draft text) =
      (taken (Reader.ofToken (shape.memberTail draft) rest)).bind fun member =>
        takenTail (shape.laterMembers member.1 member.2) := by
  obtain ⟨reading, read, comma, rfl⟩ := token_of_skipBlanks found
  have other : ',' ≠ '\x7d' := by decide
  rw [laterMembers]
  simp only [read, bind, Except.bind, comma, if_neg other, if_true]
  cases Reader.ofToken (shape.memberTail draft) reading.rest with
  | error fault => rfl
  | ok member =>
      simp only [taken_ok, Option.bind_some]
      cases shape.laterMembers member.value member.rest <;> rfl

theorem takenTail_objectTail_close (found : skipBlanks text = '\x7d' :: rest) :
    takenTail (shape.objectTail text) = (shape.ofMembers shape.start).toOption.map (·, rest) := by
  obtain ⟨reading, read, close, rfl⟩ := token_of_skipBlanks found
  unfold objectTail
  simp only [read, bind, Except.bind, close, if_true]
  cases shape.ofMembers shape.start <;> rfl

theorem takenTail_objectTail_next {c : Char} (found : skipBlanks text = c :: rest) (other : c ≠ '\x7d') :
    takenTail (shape.objectTail text) =
      (takenTail (shape.memberTail shape.start c rest)).bind fun member =>
        (takenTail (shape.laterMembers member.1 member.2)).bind fun last =>
          (shape.ofMembers last.1).toOption.map (·, last.2) := by
  obtain ⟨reading, read, rfl, rfl⟩ := token_of_skipBlanks found
  unfold objectTail
  simp only [read, bind, Except.bind, if_neg other]
  cases shape.memberTail shape.start reading.value reading.rest with
  | error fault => rfl
  | ok member =>
      simp only [takenTail_ok, Option.bind_some]
      cases shape.laterMembers member.value member.rest with
      | error fault => rfl
      | ok last =>
          simp only [takenTail_ok, Option.bind_some]
          cases shape.ofMembers last.value <;> rfl

theorem exists_member (steady : shape.SteadyFields) {member : Member} {more : List Member}
    (laid : Laid (Value.memberTokens member ++ Value.laterMembers more) text) (draft : δ)
    (rest : List Char) :
    ∃ early late, skipBlanks (text ++ rest) = '"' :: early ∧
      takenTail (shape.memberTail draft '"' early) = (shape.step draft member).map (·, late ++ rest) ∧
        Laid (Value.laterMembers more) late := by
  obtain ⟨key, value⟩ := member
  obtain ⟨middle, found, laid⟩ := laid.skipBlanks (by decide) rest
  obtain ⟨early, late, rfl, laidValue, laidMore⟩ := laid_append laid
  refine ⟨_, late, found, ?_, laidMore⟩
  have text : Piece.textOf key ++ ['"'] ++ (early ++ late ++ rest) =
      Piece.textOf key ++ '"' :: (early ++ (late ++ rest)) := by simp
  rw [text, takenTail_memberTail_quote, takenTail_decodedTail, step]
  cases Piece.string? key with
  | none => rfl
  | some name => exact taken_memberValue steady name laidValue (Value.fenced_laterMembers laidMore rest)

theorem takenTail_laterMembers (steady : shape.SteadyFields) {members : List Member}
    (laid : Laid (Value.laterMembers members) text) (draft : δ) (rest : List Char) :
    takenTail (shape.laterMembers draft (text ++ rest)) =
      (shape.gather draft members).map (·, rest) := by
  -- The draft varies: each member that is read changes it for the members behind it.
  induction members generalizing draft text with
  | nil =>
      obtain ⟨later, closed, laid⟩ := laid.skipBlanks_mark (by decide) rest
      cases laid
      exact takenTail_laterMembers_close closed
  | cons member more ih =>
      obtain ⟨middle, found, laid⟩ := laid.skipBlanks_mark (by decide) rest
      obtain ⟨early, late, starts, read, laid⟩ := exists_member steady laid draft rest
      rw [takenTail_laterMembers_next found, taken_ofToken starts, read, gather_cons]
      cases shape.step draft member with
      | none => rfl
      | some next => exact ih laid next

theorem takenTail_objectTail (steady : shape.SteadyFields) (members : List Member)
    (laid : Laid (Value.object members).tokens.tail text) (rest : List Char) :
    takenTail (shape.objectTail (text ++ rest)) =
      (shape.record? (.object members)).map (·, rest) := by
  cases members with
  | nil =>
      obtain ⟨later, closed, laid⟩ := laid.skipBlanks_mark (by decide) rest
      cases laid
      exact takenTail_objectTail_close closed
  | cons member more =>
      obtain ⟨early, late, starts, read, laid⟩ := exists_member steady laid shape.start rest
      rw [takenTail_objectTail_next starts (by decide), read, record?, gather_cons]
      cases shape.step shape.start member with
      | none => rfl
      | some next =>
          simp only [Option.map_some, Option.bind_some, takenTail_laterMembers steady laid]
          cases shape.gather next more <;> rfl

theorem takenTail_laterElements_close {count : Nat} {fields : List (δ → Reader δ)}
    (found : skipBlanks text = ']' :: rest) :
    takenTail (shape.laterElements count draft fields text) =
      (shape.ofElements count draft).toOption.map (·, rest) := by
  obtain ⟨reading, read, close, rfl⟩ := token_of_skipBlanks found
  unfold laterElements
  simp only [read, bind, Except.bind, close, if_true]
  cases shape.ofElements count draft <;> rfl

theorem takenTail_laterElements_next {count : Nat} {fields : List (δ → Reader δ)} {c : Char}
    (found : skipBlanks text = c :: rest) (other : c ≠ ']') :
    takenTail (shape.laterElements count draft fields text) =
      match fields with
      | [] => none
      | field :: later =>
          (takenTail (separator count text)).bind fun start =>
            (taken (field draft start.2)).bind fun element =>
              takenTail (shape.laterElements (count + 1) element.1 later element.2) := by
  obtain ⟨reading, read, rfl, rfl⟩ := token_of_skipBlanks found
  cases fields with
  | nil =>
      unfold laterElements
      simp only [read, bind, Except.bind, if_neg other]
      rfl
  | cons field later =>
      rw [laterElements]
      simp only [read, bind, Except.bind, if_neg other]
      cases separator count text with
      | error fault => rfl
      | ok start =>
          simp only [takenTail_ok, Option.bind_some]
          cases field draft start.rest with
          | error fault => rfl
          | ok element =>
              simp only [taken_ok, Option.bind_some]
              cases shape.laterElements (count + 1) element.value later element.rest <;> rfl

theorem takenTail_separator_zero (text : List Char) : takenTail (separator 0 text) = some ((), text) := rfl

theorem takenTail_separator_succ (count : Nat) {c : Char} {later : List Char}
    (found : skipBlanks text = ',' :: rest) (starts : skipBlanks rest = c :: later) (other : c ≠ ']') :
    takenTail (separator (count + 1) text) = some ((), rest) := by
  obtain ⟨comma, readComma, -, rfl⟩ := taken_eq_some.mp (taken_punctuation found)
  obtain ⟨next, readNext, rfl, -⟩ := token_of_skipBlanks starts
  unfold separator
  rw [if_neg (Nat.succ_ne_zero count)]
  simp only [readComma, readNext, bind, Except.bind, if_neg other]
  rfl

theorem exists_element {field : Reader δ} (steady : Steady field) {value : Value} {more : List Value}
    (laid : Laid (value.tokens ++ Value.laterElements more) text) (rest : List Char) :
    ∃ late, taken (field (text ++ rest)) = (field.on value).map (·, late ++ rest) ∧
      Laid (Value.laterElements more) late := by
  obtain ⟨early, late, rfl, laidValue, laidMore⟩ := laid_append laid
  refine ⟨late, ?_, laidMore⟩
  rw [List.append_assoc]
  exact steady value early _ laidValue (Value.fenced_laterElements laidMore rest)

theorem takenTail_laterElements_succ {fields : List (δ → Reader δ)}
    (steady : ∀ field ∈ fields, ∀ draft, Steady (field draft)) {values : List Value}
    (laid : Laid (Value.laterElements values) text) (count : Nat) (draft : δ) (rest : List Char) :
    takenTail (shape.laterElements (count + 1) draft fields (text ++ rest)) =
      (shape.gatherElements (count + 1) draft fields values).map (·, rest) := by
  induction values generalizing count draft fields text with
  | nil =>
      obtain ⟨later, closed, laid⟩ := laid.skipBlanks_mark (by decide) rest
      cases laid
      rw [takenTail_laterElements_close closed]
      cases fields <;> rfl
  | cons value more ih =>
      obtain ⟨middle, comma, laid⟩ := laid.skipBlanks_mark (by decide) rest
      obtain ⟨c, later, starts, opens⟩ := Value.skipBlanks_of_laid laid rest
      rw [takenTail_laterElements_next comma (by decide)]
      cases fields with
      | nil => rfl
      | cons field fields =>
          obtain ⟨late, read, laid⟩ := exists_element (steady field List.mem_cons_self draft) laid rest
          simp only [takenTail_separator_succ count comma starts opens.inked.2.1, Option.bind_some, read,
            gatherElements]
          cases (field draft).on value with
          | none => rfl
          | some next =>
              exact ih (fun field member => steady field (List.mem_cons_of_mem _ member)) laid _ next

theorem takenTail_laterElements (steady : shape.SteadyFields) (values : List Value)
    (laid : Laid (Value.array values).tokens.tail text) (rest : List Char) :
    takenTail (shape.laterElements 0 shape.start shape.elements (text ++ rest)) =
      (shape.record? (.array values)).map (·, rest) := by
  cases values with
  | nil =>
      obtain ⟨later, closed, laid⟩ := laid.skipBlanks_mark (by decide) rest
      cases laid
      rw [takenTail_laterElements_close closed, record?]
      cases shape.elements <;> rfl
  | cons value more =>
      obtain ⟨c, later, starts, opens⟩ := Value.skipBlanks_of_laid laid rest
      have steady := steady.element
      rw [takenTail_laterElements_next starts opens.inked.2.1, record?]
      cases same : shape.elements with
      | nil => rfl
      | cons field fields =>
          rw [same] at steady
          obtain ⟨late, read, laid⟩ :=
            exists_element (steady field List.mem_cons_self shape.start) laid rest
          simp only [takenTail_separator_zero, Option.bind_some, read, gatherElements]
          cases (field shape.start).on value with
          | none => rfl
          | some next =>
              exact takenTail_laterElements_succ
                (fun field member => steady field (List.mem_cons_of_mem _ member)) laid 0 next rest

theorem reads_reader (steady : shape.SteadyFields) : Reads shape.reader shape.record? := by
  apply Value.reads_ofToken
  intro value c token rest more later written opens laid fenced
  cases opens with
  | @object members =>
      have tail : (Value.object members).tokens.tail = more := by rw [written]; rfl
      have none : token = [] := by
        cases members <;> (cases written; rfl)
      subst none
      rw [if_pos rfl]
      exact takenTail_objectTail steady members (tail ▸ laid) rest
  | @array values =>
      have tail : (Value.array values).tokens.tail = more := by rw [written]; rfl
      have none : token = [] := by
        cases values <;> (cases written; rfl)
      subst none
      rw [if_neg (by decide), if_pos rfl]
      exact takenTail_laterElements steady values (tail ▸ laid) rest
  | number starts =>
      rw [if_neg (Value.ne_of_startsNumber starts rfl), if_neg (Value.ne_of_startsNumber starts rfl)]
      exact takenTail_refuse _ _ _
  | null | yes | no | string => exact takenTail_refuse _ _ _

end Shape

end StreamRecorder.Json
