import StreamRecorder.Json.Quoted

namespace StreamRecorder.Json

def quote (text : String) : String :=
  "\"" ++ String.ofList (encode text.toList) ++ "\""

def member (key value : String) : String :=
  quote key ++ ":" ++ value

def object (members : List String) : String :=
  "\x7b" ++ String.intercalate "," members ++ "\x7d"

end StreamRecorder.Json
