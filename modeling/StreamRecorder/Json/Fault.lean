import StreamRecorder.Text.Quoted
import StreamRecorder.Text.Shortest

namespace StreamRecorder.Json

/-- A number as it is read: exactly if it is a whole number of 64 bits, rounded otherwise. -/
inductive Number where
  | whole (value : Int)
  | rounded (value : Float)

inductive Found where
  | null
  | boolean (value : Bool)
  | number (value : Number)
  | string (text : String)
  | array
  | object

inductive Expected where
  | string
  | boolean
  | word (bits : Nat)
  | record (name : String)

inductive Mismatch where
  | kind (found : Found) (expected : Expected)
  | outOfRange (value : Int) (expected : Expected)
  | duplicateField (name : String)
  | missingField (name : String)
  | tooShort (length : Nat) (record : String) (fields : Nat)

inductive Fault where
  | endOfInput
  | malformed
  | mismatch (difference : Mismatch)

/-- Floating point values are told with the fewest digits that read back: positionally while the
exponent is from -5 to 15, and with the sign of the exponent outside that range. -/
def floatFormat : Decimal.Format :=
  { leastPositional := -5, greatestPositional := 15, wholeSuffix := ".0",
    exponentMark := "e", positiveSign := "+" }

def Number.text : Number → String
  | .whole value => "integer `" ++ toString value ++ "`"
  | .rounded value => "floating point `" ++ floatFormat.text value ++ "`"

def Found.text : Found → String
  | .null => "null"
  | .boolean value => "boolean `" ++ toString value ++ "`"
  | .number value => value.text
  | .string text => "string " ++ Text.quoted text
  | .array => "sequence"
  | .object => "map"

def Expected.text : Expected → String
  | .string => "a string"
  | .boolean => "a boolean"
  | .word bits => "u" ++ toString bits
  | .record name => "struct " ++ name

def Mismatch.message : Mismatch → String
  | .kind found expected => "invalid type: " ++ found.text ++ ", expected " ++ expected.text
  | .outOfRange value expected =>
      "invalid value: integer `" ++ toString value ++ "`, expected " ++ expected.text
  | .duplicateField name => "duplicate field `" ++ name ++ "`"
  | .missingField name => "missing field `" ++ name ++ "`"
  | .tooShort length record fields =>
      "invalid length " ++ toString length ++ ", expected struct " ++ record ++ " with "
        ++ toString fields ++ " elements"

def Fault.message : Fault → String
  | .endOfInput => "the text ends too early"
  | .malformed => "the text is not well formed"
  | .mismatch difference => difference.message

end StreamRecorder.Json
