import StreamRecorder.Text.Binary64

namespace StreamRecorder.Duration

def padded (width value : Nat) : List Char :=
  let digits := Nat.toDigits 10 value
  List.replicate (width - digits.length) '0' ++ digits

def thousandths (value : Nat) : String :=
  if value = 0 then ""
  else "." ++ String.ofList ((padded 3 value).reverse.dropWhile (· = '0')).reverse

def ofMilliseconds (milliseconds : Nat) : String :=
  if milliseconds = 0 then "0ns"
  else if milliseconds < 1000 then toString milliseconds ++ "ms"
  else toString (milliseconds / 1000) ++ thousandths (milliseconds % 1000) ++ "s"

def hundredths (x : Float) : Nat :=
  let parts := Binary64.ofFloat x
  let scaled := 100 * parts.mantissa
  if 0 ≤ parts.exponent then scaled <<< parts.exponent.toNat
  else roundDiv scaled (1 <<< (-parts.exponent).toNat)

def secondsOfNanoseconds (nanoseconds : UInt64) : String :=
  let value := hundredths (nanoseconds.toFloat / 1e9)
  toString (value / 100) ++ "." ++ String.ofList (padded 2 (value % 100))

end StreamRecorder.Duration
