import StreamRecorder.Json.Skip

namespace StreamRecorder.Json

def found (first : Char) (text : List Char) : Except Fault Found := do
  if first = 'n' then
    let _ ← wordTail "ull".toList text
    return .null
  else if first = 't' then
    let _ ← wordTail "rue".toList text
    return .boolean true
  else if first = 'f' then
    let _ ← wordTail "alse".toList text
    return .boolean false
  else if startsNumber first then
    let number ← numberTail first text
    return .number number.value
  else if first = '"' then
    let string ← decodedTail text
    return .string string.value
  else if first = '[' then return .array
  else if first = '\x7b' then return .object
  else throw .malformed

def refuse {α : Type} (expected : Expected) (first : Char) : TailReader α := fun text => do
  let found ← found first text
  throw (.mismatch (.kind found expected))

def string : Reader String := .ofToken fun first =>
  if first = '"' then decodedTail else refuse .string first

def boolean : Reader Bool := .ofToken fun first text =>
  if first = 't' then do
    let tail ← wordTail "rue".toList text
    return tail.map fun _ => true
  else if first = 'f' then do
    let tail ← wordTail "alse".toList text
    return tail.map fun _ => false
  else refuse .boolean first text

def Number.word (bits : Nat) : Number → Except Fault Nat
  | .whole value =>
      if 0 ≤ value ∧ value.toNat < 1 <<< bits then .ok value.toNat
      else .error (.mismatch (.outOfRange value (.word bits)))
  | .rounded value => .error (.mismatch (.kind (.number (.rounded value)) (.word bits)))

def word (bits : Nat) : Reader Nat := .ofToken fun first text =>
  if startsNumber first then do
    let number ← numberTail first text
    let value ← number.value.word bits
    return number.map fun _ => value
  else refuse (.word bits) first text

end StreamRecorder.Json
