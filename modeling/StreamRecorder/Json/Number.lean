import StreamRecorder.Json.Scan

/-!
# Numbers

A number literal is read into its parts, and `Literal.value` says which number the parts stand for:
a whole number of at most 64 bits exactly, and any other rounded to binary64 by one multiplication
or division with a power of ten.
-/

namespace StreamRecorder.Json

structure Literal where
  negative : Bool
  whole : List Char
  fraction : List Char
  exponent : Option Int

theorem length_dropWhile_lt {text : List Char} {c : Char} {digits : List Char}
    (h : text.takeWhile Char.isDigit = c :: digits) :
    (text.dropWhile Char.isDigit).length < text.length := by
  have split := congrArg List.length (List.takeWhile_append_dropWhile (p := Char.isDigit) (l := text))
  rw [h] at split
  simp only [List.length_append, List.length_cons] at split
  omega

def digits (early : Fault) : Reader (List Char) := fun text =>
  match h : text.takeWhile Char.isDigit with
  | [] => .error (if text.isEmpty then early else .malformed)
  | c :: more => .ok ⟨c :: more, text.dropWhile Char.isDigit, length_dropWhile_lt h⟩

def whole (early : Fault) : Reader (List Char) := fun text => do
  let digits ← digits early text
  match digits.value with
  | '0' :: _ :: _ => throw .malformed
  | _ => return digits

def fractionTail (early : Fault) : TailReader (List Char)
  | '.' :: text => do
      let digits ← digits early text
      return digits.tail.cons '.'
  | text => .ok (.here [] text)

def signTail (text : List Char) : Tail Bool text :=
  match text with
  | '+' :: rest => (Tail.here false rest).cons '+'
  | '-' :: rest => (Tail.here true rest).cons '-'
  | rest => .here false rest

def exponentTail (early : Fault) : TailReader (Option Int)
  | [] => .ok (.here none [])
  | c :: text =>
      if c = 'e' ∨ c = 'E' then do
        let sign := signTail text
        let digits ← digits early sign.rest
        let size : Int := Nat.ofDigitChars 10 digits.value 0
        let exponent := if sign.value then -size else size
        return ((sign.join digits.tail).map fun _ => some exponent).cons c
      else .ok (.here none (c :: text))

def literal (early : Fault) (negative : Bool) : Reader Literal := fun text => do
  let whole ← whole early text
  let fraction ← fractionTail early whole.rest
  let exponent ← exponentTail early fraction.rest
  return (whole.join (fraction.join exponent)).map fun exponent =>
    { negative, whole := whole.value, fraction := fraction.value, exponent }

def literalTail (early : Fault) (first : Char) : TailReader Literal := fun text =>
  if first = '-' then do
    let parts ← literal early true text
    return parts.tail
  else do
    let parts ← literal early false (first :: text)
    return parts.afterFirst

def startsNumber (c : Char) : Bool := c = '-' || c.isDigit

def greatestPower : Nat := 308

def powerOfTen (exponent : Nat) : Float := Float.ofScientific 1 false exponent

def gather (number : Nat) : List Char → Nat × List Char
  | [] => (number, [])
  | digit :: digits =>
      let longer := 10 * number + (digit.toNat - '0'.toNat)
      if longer < UInt64.size then gather longer digits else (number, digit :: digits)

/-- Scales a value by a power of ten. A value out of range is refused; one too small becomes zero. -/
def scale (value : Float) (exponent : Int) : Except Fault Float :=
  if exponent.natAbs ≤ greatestPower then
    if 0 ≤ exponent then
      let scaled := value * powerOfTen exponent.natAbs
      if scaled.isInf then .error .malformed else .ok scaled
    else .ok (value / powerOfTen exponent.natAbs)
  else if value == 0 then .ok value
  else if 0 ≤ exponent then .error .malformed
  else scale (value / powerOfTen greatestPower) (exponent + greatestPower)
termination_by exponent.natAbs
decreasing_by
  simp only [greatestPower] at *
  omega

def signed (negative : Bool) (value : Float) : Float :=
  if negative then -value else value

namespace Literal

/-- The digits as a number and a power of ten. Digits of the whole part that do not fit are counted,
and those of the fraction are left out. -/
def significand (literal : Literal) : Nat × Int :=
  let (whole, uncounted) := gather 0 literal.whole
  let (number, unused) := gather whole literal.fraction
  (number, uncounted.length - (literal.fraction.length - unused.length))

def rounded (literal : Literal) : Except Fault Float :=
  let (number, exponent) := literal.significand
  (scale (UInt64.ofNat number).toFloat (exponent + literal.exponent.getD 0)).map
    (signed literal.negative)

/-- The whole number of 64 bits that a literal without fraction and exponent writes. Minus zero is
no whole number. -/
def whole? (literal : Literal) : Option Int :=
  if literal.fraction ≠ [] ∨ literal.exponent.isSome then none
  else
    let size := Nat.ofDigitChars 10 literal.whole 0
    if literal.negative then
      if 0 < size ∧ 2 * size ≤ UInt64.size then some (-size) else none
    else if size < UInt64.size then some size
    else none

def value (literal : Literal) : Except Fault Number :=
  match literal.whole? with
  | some number => .ok (.whole number)
  | none => literal.rounded.map .rounded

end Literal

def numberTail (first : Char) : TailReader Number := fun text => do
  let parts ← literalTail .endOfInput first text
  let number ← parts.value.value
  return parts.map fun _ => number

end StreamRecorder.Json
