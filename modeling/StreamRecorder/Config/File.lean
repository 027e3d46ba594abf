import StreamRecorder.Config.Json
import StreamRecorder.Notice
import StreamRecorder.RecorderError

/-!
# Configuration files

A configuration is loaded from what stands under a name: a file that is UTF-8 text, JSON of the
right shape, and valid. The first of these that fails is the error.
-/

namespace StreamRecorder

inductive FileEntry where
  | missing
  | directory
  | file (content : ByteArray)

namespace FileName

def greatestPart : Nat := 255

def greatestPath : Nat := 4095

/-- The size in bytes of the path to the directory that names are looked up in, with its slash. -/
def directorySize : Nat := 16

def pathSize (name : String) : Nat :=
  if name.startsWith "/" then name.utf8ByteSize else directorySize + name.utf8ByteSize

/-- The parts of a name between slashes, without those that stay in a directory or leave it for the
one above: these are there anyway. -/
def parts (name : String) : List String :=
  (name.splitOn "/").filter fun part => part ∉ ["", ".", ".."]

end FileName

/-- What comes of reading a name under which nothing was put. The first of its parts is looked for,
and only a name without parts is found, as a directory. -/
def FileFault.ofMissing (name : String) : FileFault :=
  if name.contains '\x00' then .zeroInName
  else if FileName.greatestPath < FileName.pathSize name then .nameTooLong
  else match FileName.parts name with
    | [] => .isDirectory
    | part :: _ => if FileName.greatestPart < part.utf8ByteSize then .nameTooLong else .notFound

namespace FileEntry

def text (name : String) : FileEntry → Except FileFault String
  | .missing => .error (.ofMissing name)
  | .directory => .error .isDirectory
  | .file content =>
      match String.fromUTF8? content with
      | some text => .ok text
      | none => .error .notUtf8

end FileEntry

namespace Config

def ofText (text : String) : Except RecorderError Config := do
  let config ← (ofJson text).mapError .json
  config.validate.mapError .config
  return config

def ofEntry (name : String) (entry : FileEntry) : Except RecorderError Config := do
  let text ← (entry.text name).mapError .file
  ofText text

def load (name : String) (entry : FileEntry) : Except RecorderError Config × List Notice :=
  match ofEntry name entry with
  | .ok config => (.ok config, [.configLoaded name])
  | .error fault => (.error fault, [])

end Config

end StreamRecorder
