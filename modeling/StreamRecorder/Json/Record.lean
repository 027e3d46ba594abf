import StreamRecorder.Json.Value

namespace StreamRecorder.Json

/-- How a record `α` is gathered. A draft `δ` holds the fields that have been read. -/
structure Shape (δ α : Type) where
  name : String
  start : δ
  member : δ → String → Except Fault (Option (Reader δ))
  elements : List (δ → Reader δ)
  ofMembers : δ → Except Fault α
  ofElements : Nat → δ → Except Fault α

def once {α δ : Type} (name : String) (read? : Option α) (reader : Reader δ) :
    Except Fault (Option (Reader δ)) :=
  if read?.isSome then .error (.mismatch (.duplicateField name)) else .ok (some reader)

def required {α : Type} (name : String) : Option α → Except Fault α
  | some value => .ok value
  | none => .error (.mismatch (.missingField name))

namespace Shape

variable {δ α : Type}

def memberValue (shape : Shape δ α) (draft : δ) (key : String) : Reader δ := fun text => do
  match ← shape.member draft key with
  | none => ((punctuation ':').andThen fun _ => skipValue.map fun _ => draft) text
  | some value => ((punctuation ':').andThen fun _ => value) text

def memberTail (shape : Shape δ α) (draft : δ) (first : Char) : TailReader δ := fun text => do
  if first ≠ '"' then throw .malformed
  let key ← decodedTail text
  let value ← shape.memberValue draft key.value key.rest
  return key.join value.tail

def laterMembers (shape : Shape δ α) (draft : δ) (text : List Char) :
    Except Fault (Tail δ text) := do
  let next ← token text
  if next.value = '}' then
    return next.tail.map fun _ => draft
  else if next.value = ',' then
    let member ← Reader.ofToken (shape.memberTail draft) next.rest
    let tail ← shape.laterMembers member.value member.rest
    return next.tail.join (member.tail.join tail)
  else throw .malformed
termination_by text.length
decreasing_by exact Nat.lt_trans member.shorter next.shorter

def objectTail (shape : Shape δ α) : TailReader α := fun text => do
  let first ← token text
  if first.value = '}' then
    let record ← shape.ofMembers shape.start
    return first.tail.map fun _ => record
  else
    let member ← shape.memberTail shape.start first.value first.rest
    let tail ← shape.laterMembers member.value member.rest
    let record ← shape.ofMembers tail.value
    return first.tail.join (member.join (tail.map fun _ => record))

def separator (count : Nat) : TailReader Unit := fun text =>
  if count = 0 then .ok (.here () text)
  else do
    let comma ← punctuation ',' text
    let next ← token comma.rest
    if next.value = ']' then throw .malformed
    return comma.tail

def laterElements (shape : Shape δ α) (count : Nat) (draft : δ) :
    List (δ → Reader δ) → TailReader α
  | fields, text => do
      let next ← token text
      if next.value = ']' then
        let record ← shape.ofElements count draft
        return next.tail.map fun _ => record
      else match fields with
        | [] => throw .malformed
        | field :: later => do
            let start ← separator count text
            let element ← field draft start.rest
            let tail ← shape.laterElements (count + 1) element.value later element.rest
            return start.join (element.tail.join tail)

def reader (shape : Shape δ α) : Reader α := .ofToken fun first =>
  if first = '\x7b' then shape.objectTail
  else if first = '[' then shape.laterElements 0 shape.start shape.elements
  else refuse (.record shape.name) first

end Shape

end StreamRecorder.Json
