import StreamRecorder.Json.Scan
import StreamRecorder.Text.Hex

/-!
# Quoted strings

`encode` writes the characters between the quotes, and `stringTail` reads them back. In a string
that is decoded, the surrogates among the `\u` escapes have to come in pairs; in one that is passed
over they need not.
-/

namespace StreamRecorder.Json

def encodeChar (c : Char) : List Char :=
  if c = '"' then ['\\', '"']
  else if c = '\\' then ['\\', '\\']
  else if c = '\x08' then ['\\', 'b']
  else if c = '\t' then ['\\', 't']
  else if c = '\n' then ['\\', 'n']
  else if c = '\x0c' then ['\\', 'f']
  else if c = '\r' then ['\\', 'r']
  else if c.toNat < 0x20 then '\\' :: 'u' :: '0' :: '0' :: Hex.ofByte (UInt8.ofNat c.toNat)
  else [c]

def encode (text : List Char) : List Char :=
  text.flatMap encodeChar

def letterEscape? : Char → Option Char
  | '"' => some '"'
  | '\\' => some '\\'
  | '/' => some '/'
  | 'b' => some '\x08'
  | 'f' => some '\x0c'
  | 'n' => some '\n'
  | 'r' => some '\r'
  | 't' => some '\t'
  | _ => none

def hexNumber? (a b c d : Char) : Option Nat := do
  let a ← Hex.value? a
  let b ← Hex.value? b
  let c ← Hex.value? c
  let d ← Hex.value? d
  return ((a * 16 + b) * 16 + c) * 16 + d

/-- Reads four hexadecimal digits. The text ends too early if it has not four bytes left. -/
def hexTail : TailReader Nat
  | a :: b :: c :: d :: rest =>
      match hexNumber? a b c d with
      | some number => .ok ((Tail.here number rest).cons d |>.cons c |>.cons b |>.cons a)
      | none => .error .malformed
  | text =>
      if (String.ofList text).utf8ByteSize < 4 then .error .endOfInput else .error .malformed

def isLeading (unit : Nat) : Bool := 0xd800 ≤ unit && unit ≤ 0xdbff

def isTrailing (unit : Nat) : Bool := 0xdc00 ≤ unit && unit ≤ 0xdfff

def joinSurrogates (leading trailing : Nat) : Char :=
  Char.ofNat (0x10000 + (leading - 0xd800) * 0x400 + (trailing - 0xdc00))

def trailingTail (leading : Nat) : TailReader Char
  | '\\' :: 'u' :: text => do
      let unit ← hexTail text
      if !isTrailing unit.value then throw .malformed
      return (unit.map (joinSurrogates leading)).cons 'u' |>.cons '\\'
  | [] | ['\\'] => .error .endOfInput
  | _ => .error .malformed

def unitTail : TailReader Char := fun text => do
  let unit ← hexTail text
  if isTrailing unit.value then throw .malformed
  else if isLeading unit.value then
    let char ← trailingTail unit.value unit.rest
    return unit.join char
  else return unit.map Char.ofNat

/-- Reads the digits of a `\u` escape of a string that is passed over. -/
def anyUnitTail : TailReader Char := fun text => do
  let unit ← hexTail text
  return unit.map Char.ofNat

def escapeTail (unit : TailReader Char) : TailReader Char
  | [] => .error .endOfInput
  | 'u' :: text => do
      let char ← unit text
      return char.cons 'u'
  | c :: text =>
      match letterEscape? c with
      | some char => .ok ((Tail.here char text).cons c)
      | none => .error .malformed

def stringTail (unit : TailReader Char) (text : List Char) :
    Except Fault (Tail (List Char) text) :=
  match text with
  | [] => .error .endOfInput
  | c :: text =>
      if c = '"' then .ok ((Tail.here [] text).cons c)
      else if c = '\\' then do
        let char ← escapeTail unit text
        let tail ← stringTail unit char.rest
        return (char.join (tail.map (char.value :: ·))).cons c
      else if c.toNat < 0x20 then .error .malformed
      else do
        let tail ← stringTail unit text
        return (tail.map (c :: ·)).cons c
termination_by text.length
decreasing_by
  · exact Nat.lt_succ_of_le char.noLonger
  · exact Nat.lt_succ_self _

def decodedTail : TailReader String := fun text => do
  let tail ← stringTail unitTail text
  return tail.map String.ofList

def skippedTail : TailReader Unit := fun text => do
  let tail ← stringTail anyUnitTail text
  return tail.map fun _ => ()

end StreamRecorder.Json
