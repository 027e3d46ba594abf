import StreamRecorder.Json.Number
import StreamRecorder.Json.Quoted

/-!
# Passing over values

`skipValue` reads any value of the grammar and forgets it. The containers that are open are kept in
a list, so values may be nested as deeply as they like.
-/

namespace StreamRecorder.Json

inductive Container where
  | array
  | object
  deriving DecidableEq

def Container.close : Container → Char
  | .array => ']'
  | .object => '}'

/-- What is left after a value: nothing that belongs to it, or another value inside the containers
that are still open. The rest is no longer than `bound`. -/
inductive Remaining (bound : Nat) where
  | done (rest : List Char) (within : rest.length ≤ bound)
  | value (containers : List Container) (rest : List Char) (within : rest.length ≤ bound)

def skipKey : Reader Unit :=
  (Reader.ofToken fun c => if c = '"' then skippedTail else fun _ => .error .malformed).andThen
    fun _ => punctuation ':'

def skipEnds {bound : Nat} (containers : List Container) (text : List Char)
    (h : text.length ≤ bound) : Except Fault (Remaining bound) :=
  match containers with
  | [] => .ok (.done text h)
  | container :: outer => do
      let next ← token text
      have within := Nat.le_trans (Nat.le_of_lt next.shorter) h
      if next.value = container.close then skipEnds outer next.rest within
      else if next.value = ',' then
        match container with
        | .array => return .value (.array :: outer) next.rest within
        | .object => do
            let key ← skipKey next.rest
            return .value (.object :: outer) key.rest
              (Nat.le_trans (Nat.le_of_lt key.shorter) within)
      else throw .malformed

def skipOpening {bound : Nat} (container : Container) (outer : List Container)
    (text : List Char) (h : text.length ≤ bound) : Except Fault (Remaining bound) := do
  let next ← token text
  if next.value = container.close then
    skipEnds outer next.rest (Nat.le_trans (Nat.le_of_lt next.shorter) h)
  else
    match container with
    | .array => return .value (.array :: outer) text h
    | .object => do
        let key ← skipKey text
        return .value (.object :: outer) key.rest (Nat.le_trans (Nat.le_of_lt key.shorter) h)

def skipScalar (first : Char) : TailReader Unit := fun text =>
  if first = 'n' then wordTail "ull".toList text
  else if first = 't' then wordTail "rue".toList text
  else if first = 'f' then wordTail "alse".toList text
  else if first = '"' then skippedTail text
  else if startsNumber first then do
    let parts ← literalTail .malformed first text
    return parts.map fun _ => ()
  else throw .malformed

def skipStep {bound : Nat} (containers : List Container) (first : Char) (text : List Char)
    (h : text.length ≤ bound) : Except Fault (Remaining bound) :=
  if first = '[' then skipOpening .array containers text h
  else if first = '\x7b' then skipOpening .object containers text h
  else do
    let scalar ← skipScalar first text
    skipEnds containers scalar.rest (Nat.le_trans scalar.noLonger h)

def skipWithin {bound : Nat} (containers : List Container) (text : List Char)
    (h : text.length ≤ bound) : Except Fault { rest : List Char // rest.length < bound } := do
  let first ← token text
  match ← skipStep containers first.value first.rest (Nat.le_refl _) with
  | .done rest within => return ⟨rest, by have := first.shorter; omega⟩
  | .value containers rest within =>
      skipWithin containers rest (by have := first.shorter; omega)
termination_by text.length
decreasing_by
  have := first.shorter
  omega

theorem length_le_length (text : List Char) : text.length ≤ text.length :=
  Nat.le_refl _

def skipValue : Reader Unit := fun text => do
  let rest ← skipWithin [] text (length_le_length text)
  return ⟨(), rest.1, rest.2⟩

end StreamRecorder.Json
