import StreamRecorder.Layout

namespace StreamRecorder.OutputPath

def tags (layout : Layout) : String :=
  (match layout.video with | some codec => codec.tag ++ "." | none => "")
    ++ (match layout.audio with | some codec => codec.tag ++ "." | none => "")

def text (template : String) (counter : UInt32) (layout : Layout) : String :=
  template ++ "." ++ toString counter.toNat ++ "." ++ tags layout ++ "mp4"

def takeField? (reversed : List Char) : Option (List Char × List Char) :=
  match reversed.dropWhile (· ≠ '.') with
  | [] => none
  | _ :: rest => some ((reversed.takeWhile (· ≠ '.')).reverse, rest)

def audioOfTag? (field : List Char) : Option AudioCodec :=
  [AudioCodec.aacEld, .alac].find? fun codec => codec.tag.toList = field

def videoOfTag? (field : List Char) : Option VideoCodec :=
  [VideoCodec.h264, .h265].find? fun codec => codec.tag.toList = field

def read? (path : String) : Option (String × Nat × Layout) := do
  let (extension, rest) ← takeField? path.toList.reverse
  guard (extension = "mp4".toList)
  let (field, rest) ← takeField? rest
  let (audio, field, rest) ← match audioOfTag? field with
    | none => some (none, field, rest)
    | some codec => (takeField? rest).map fun (field, rest) => (some codec, field, rest)
  let (video, field, rest) ← match videoOfTag? field with
    | none => some (none, field, rest)
    | some codec => (takeField? rest).map fun (field, rest) => (some codec, field, rest)
  guard (field ≠ [] ∧ field.all Char.isDigit)
  return (String.ofList rest.reverse, Nat.ofDigitChars 10 field 0, { video, audio })

end StreamRecorder.OutputPath
