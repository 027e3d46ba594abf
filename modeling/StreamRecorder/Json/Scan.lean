import StreamRecorder.Json.Fault

/-!
# Scanning

A reading takes a value off the front of a text and leaves a rest that is shorter, so whoever reads
again and again comes to an end. A tail is what follows the first character of a value, and may be
empty. The grammar's blanks, punctuation and literal words are read here.
-/

namespace StreamRecorder.Json

structure Reading (α : Type) (text : List Char) where
  value : α
  rest : List Char
  shorter : rest.length < text.length

structure Tail (α : Type) (text : List Char) where
  value : α
  rest : List Char
  noLonger : rest.length ≤ text.length

abbrev Reader (α : Type) := (text : List Char) → Except Fault (Reading α text)

abbrev TailReader (α : Type) := (text : List Char) → Except Fault (Tail α text)

variable {α β : Type}

namespace Tail

variable {text : List Char}

def here (value : α) (text : List Char) : Tail α text :=
  ⟨value, text, Nat.le_refl _⟩

def map (f : β → α) (tail : Tail β text) : Tail α text :=
  ⟨f tail.value, tail.rest, tail.noLonger⟩

def cons (c : Char) (tail : Tail α text) : Tail α (c :: text) :=
  ⟨tail.value, tail.rest, Nat.le_succ_of_le tail.noLonger⟩

def join (head : Tail β text) (tail : Tail α head.rest) : Tail α text :=
  ⟨tail.value, tail.rest, Nat.le_trans tail.noLonger head.noLonger⟩

end Tail

namespace Reading

variable {text : List Char}

def map (f : β → α) (reading : Reading β text) : Reading α text :=
  ⟨f reading.value, reading.rest, reading.shorter⟩

def join (head : Reading β text) (tail : Tail α head.rest) : Reading α text :=
  ⟨tail.value, tail.rest, Nat.lt_of_le_of_lt tail.noLonger head.shorter⟩

def tail (reading : Reading α text) : Tail α text :=
  ⟨reading.value, reading.rest, Nat.le_of_lt reading.shorter⟩

def afterFirst {c : Char} (reading : Reading α (c :: text)) : Tail α text :=
  ⟨reading.value, reading.rest, Nat.le_of_lt_succ reading.shorter⟩

end Reading

def Reader.map (f : β → α) (reader : Reader β) : Reader α := fun text => do
  let reading ← reader text
  return reading.map f

def Reader.andThen (first : Reader β) (second : β → Reader α) : Reader α := fun text => do
  let head ← first text
  let next ← second head.value head.rest
  return head.join next.tail

def isBlank (c : Char) : Bool :=
  c = ' ' || c = '\n' || c = '\t' || c = '\r'

def skipBlanks (text : List Char) : List Char :=
  text.dropWhile isBlank

theorem length_skipBlanks_le (text : List Char) : (skipBlanks text).length ≤ text.length :=
  (List.dropWhile_sublist isBlank).length_le

theorem length_lt_of_skipBlanks {text rest : List Char} {c : Char}
    (h : skipBlanks text = c :: rest) : rest.length < text.length := by
  have := length_skipBlanks_le text
  rw [h] at this
  exact this

def token : Reader Char := fun text =>
  match h : skipBlanks text with
  | [] => .error .endOfInput
  | c :: rest => .ok ⟨c, rest, length_lt_of_skipBlanks h⟩

def Reader.ofToken (tail : Char → TailReader α) : Reader α := fun text => do
  let head ← token text
  let rest ← tail head.value head.rest
  return head.join rest

def punctuation (c : Char) : Reader Unit := fun text => do
  let found ← token text
  if found.value = c then return found.map fun _ => () else throw .malformed

def wordTail : List Char → TailReader Unit
  | [], text => .ok (.here () text)
  | _ :: _, [] => .error .endOfInput
  | letter :: word, c :: text => do
      if c ≠ letter then throw .malformed
      let tail ← wordTail word text
      return tail.cons c

end StreamRecorder.Json
