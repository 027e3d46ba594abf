namespace StreamRecorder

/-- The value `mantissa * 2 ^ exponent`, with its sign apart. -/
structure Binary64 where
  negative : Bool
  mantissa : Nat
  exponent : Int
  deriving DecidableEq

namespace Binary64

def leastExponent : Int := -1074

def hiddenBit : Nat := 1 <<< 52

def ofFloat (x : Float) : Binary64 :=
  let bits := x.toBits.toNat
  let fraction := bits % hiddenBit
  let biased : Nat := bits / hiddenBit % 2048
  { negative := bits >>> 63 = 1
    mantissa := if biased = 0 then fraction else hiddenBit + fraction
    exponent := if biased = 0 then leastExponent else (biased : Int) - 1075 }

end Binary64

def roundDiv (numerator denominator : Nat) : Nat :=
  let quotient := numerator / denominator
  let twice := 2 * (numerator % denominator)
  if twice > denominator ∨ (twice = denominator ∧ quotient % 2 = 1) then quotient + 1
  else quotient

end StreamRecorder
