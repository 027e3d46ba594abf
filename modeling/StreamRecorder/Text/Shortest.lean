import StreamRecorder.Text.Binary64

/-!
# Shortest decimal text

The decimal with the fewest digits that reads back as a given binary value. A binary value stands
for the interval of reals that round to it, with its ends if the mantissa is even. For one digit,
two digits and so on, the value's two neighbours among the decimals of so many digits are tried; of
two neighbours in the interval the nearer is taken.
-/

namespace StreamRecorder.Decimal

structure Scaled where
  digits : Nat
  exponent : Int
  deriving DecidableEq

structure Ratio where
  numerator : Nat
  denominator : Nat

namespace Ratio

/-- The number of decimal places to the left of the point, or minus the zeros to its right: the `k`
with `10 ^ (k - 1) ≤ r < 10 ^ k`. -/
def magnitude (r : Ratio) : Int :=
  let whole := r.numerator / r.denominator
  if whole = 0 then
    1 - ((Nat.toDigits 10 ((r.denominator - 1) / r.numerator)).length : Int)
  else (Nat.toDigits 10 whole).length

end Ratio

structure Interval where
  low : Nat
  value : Nat
  high : Nat
  closed : Bool

/-- The interval of a positive value in quarters of its unit. Below a power of two the neighbour is
only half as far. -/
def Interval.ofBinary (x : Binary64) : Interval :=
  let gapBelow :=
    if x.mantissa = Binary64.hiddenBit ∧ Binary64.leastExponent < x.exponent then 1 else 2
  { low := 4 * x.mantissa - gapBelow
    value := 4 * x.mantissa
    high := 4 * x.mantissa + 2
    closed := x.mantissa % 2 = 0 }

def Interval.holds (interval : Interval) (unit step point : Nat) : Bool :=
  let low := interval.low * unit
  let high := interval.high * unit
  let point := point * step
  if interval.closed then low ≤ point && point ≤ high else low < point && point < high

def nearest? (interval : Interval) (unit step : Nat) : Option Nat :=
  let value := interval.value * unit
  let below := value / step
  match interval.holds unit step below, interval.holds unit step (below + 1) with
  | true, true =>
      let down := value - below * step
      let up := (below + 1) * step - value
      some (if down < up ∨ (down = up ∧ below % 2 = 0) then below else below + 1)
  | true, false => some below
  | false, true => some (below + 1)
  | false, false => none

/-- The decimal with the fewest digits that reads back as a positive value; 17 always suffice. -/
def shortest (x : Binary64) : Scaled :=
  let interval := Interval.ofBinary x
  let unitExponent := x.exponent - 2
  let unit := 1 <<< unitExponent.toNat
  let denominator := 1 <<< (-unitExponent).toNat
  let magnitude := Ratio.magnitude ⟨interval.value * unit, denominator⟩
  let attempt (digits : Nat) : Option Scaled :=
    let exponent := magnitude - digits
    let scale := Nat.pow 10 (-exponent).toNat
    let step := Nat.pow 10 exponent.toNat * denominator
    (nearest? interval (unit * scale) step).map fun point => ⟨point, exponent⟩
  ((List.range 17).findSome? fun digits => attempt (digits + 1)).getD ⟨0, 0⟩

structure Format where
  leastPositional : Int
  greatestPositional : Int
  wholeSuffix : String
  exponentMark : String
  positiveSign : String

namespace Format

def positional (format : Format) (digits : List Char) (exponent : Int) : String :=
  if exponent < 0 then
    "0." ++ String.ofList (List.replicate (-exponent - 1).toNat '0' ++ digits)
  else
    let whole := exponent.toNat + 1
    if digits.length ≤ whole then
      String.ofList (digits ++ List.replicate (whole - digits.length) '0') ++ format.wholeSuffix
    else String.ofList (digits.take whole) ++ "." ++ String.ofList (digits.drop whole)

def scientific (format : Format) (digits : List Char) (exponent : Int) : String :=
  let fraction := if digits.length ≤ 1 then "" else "." ++ String.ofList (digits.drop 1)
  let sign := if exponent < 0 then "-" else format.positiveSign
  String.ofList (digits.take 1) ++ fraction ++ format.exponentMark ++ sign
    ++ toString exponent.natAbs

def text (format : Format) (x : Float) : String :=
  let parts := Binary64.ofFloat x
  let sign := if parts.negative then "-" else ""
  if parts.mantissa = 0 then sign ++ "0" ++ format.wholeSuffix
  else
    let decimal := shortest parts
    let all := Nat.toDigits 10 decimal.digits
    let digits := (all.reverse.dropWhile (· = '0')).reverse
    let exponent := decimal.exponent + all.length - 1
    let written :=
      if format.leastPositional ≤ exponent ∧ exponent ≤ format.greatestPositional then
        format.positional digits exponent
      else format.scientific digits exponent
    sign ++ written

end Format

end StreamRecorder.Decimal
