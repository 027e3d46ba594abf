import StreamRecorder.Config
import StreamRecorder.Json.Record
import StreamRecorder.Json.Written

namespace StreamRecorder

open Json

def AudioFormat.json (format : AudioFormat) : String :=
  object
    [ member "sampleRate" (toString format.sampleRate.toNat),
      member "channels" (toString format.channels.toNat),
      member "bitsPerSample" (toString format.bitsPerSample.toNat) ]

def Config.json (config : Config) : String :=
  object
    [ member "outputTemplate" (quote config.outputTemplate),
      member "audioEnabled" (toString config.audioEnabled),
      member "videoEnabled" (toString config.videoEnabled),
      member "flushTimeoutMs" (toString config.flushTimeout.toNat),
      member "audioFormat" config.audioFormat.json ]

namespace AudioFormat

structure Draft where
  sampleRate : Option UInt32 := none
  channels : Option UInt16 := none
  bitsPerSample : Option UInt16 := none

namespace Draft

def readSampleRate (draft : Draft) : Reader Draft :=
  (word 32).map fun value => { draft with sampleRate := some (UInt32.ofNat value) }

def readChannels (draft : Draft) : Reader Draft :=
  (word 16).map fun value => { draft with channels := some (UInt16.ofNat value) }

def readBitsPerSample (draft : Draft) : Reader Draft :=
  (word 16).map fun value => { draft with bitsPerSample := some (UInt16.ofNat value) }

def member (draft : Draft) (key : String) : Except Json.Fault (Option (Reader Draft)) :=
  if key = "sampleRate" then once key draft.sampleRate draft.readSampleRate
  else if key = "channels" then once key draft.channels draft.readChannels
  else if key = "bitsPerSample" then once key draft.bitsPerSample draft.readBitsPerSample
  else .ok none

def complete (draft : Draft) : Except Json.Fault AudioFormat := do
  let sampleRate ← required "sampleRate" draft.sampleRate
  let channels ← required "channels" draft.channels
  let bitsPerSample ← required "bitsPerSample" draft.bitsPerSample
  return { sampleRate, channels, bitsPerSample }

end Draft

def shape : Shape Draft AudioFormat where
  name := "AudioFormat"
  start := {}
  member := Draft.member
  elements := [Draft.readSampleRate, Draft.readChannels, Draft.readBitsPerSample]
  ofMembers := Draft.complete
  ofElements count draft :=
    if count < 3 then .error (.mismatch (.tooShort count "AudioFormat" 3)) else draft.complete

end AudioFormat

namespace Config

structure Draft where
  outputTemplate : Option String := none
  audioEnabled : Option Bool := none
  videoEnabled : Option Bool := none
  flushTimeout : Option UInt64 := none
  audioFormat : Option AudioFormat := none

namespace Draft

def readOutputTemplate (draft : Draft) : Reader Draft :=
  string.map fun value => { draft with outputTemplate := some value }

def readAudioEnabled (draft : Draft) : Reader Draft :=
  boolean.map fun value => { draft with audioEnabled := some value }

def readVideoEnabled (draft : Draft) : Reader Draft :=
  boolean.map fun value => { draft with videoEnabled := some value }

def readFlushTimeout (draft : Draft) : Reader Draft :=
  (word 64).map fun value => { draft with flushTimeout := some (UInt64.ofNat value) }

def readAudioFormat (draft : Draft) : Reader Draft :=
  AudioFormat.shape.reader.map fun value => { draft with audioFormat := some value }

def member (draft : Draft) (key : String) : Except Json.Fault (Option (Reader Draft)) :=
  if key = "outputTemplate" then once key draft.outputTemplate draft.readOutputTemplate
  else if key = "audioEnabled" then once key draft.audioEnabled draft.readAudioEnabled
  else if key = "videoEnabled" then once key draft.videoEnabled draft.readVideoEnabled
  else if key = "flushTimeoutMs" then once key draft.flushTimeout draft.readFlushTimeout
  else if key = "audioFormat" then once key draft.audioFormat draft.readAudioFormat
  else .ok none

def withDefaults (draft : Draft) : Config :=
  let defaults : Config := {}
  { outputTemplate := draft.outputTemplate.getD defaults.outputTemplate
    audioEnabled := draft.audioEnabled.getD defaults.audioEnabled
    videoEnabled := draft.videoEnabled.getD defaults.videoEnabled
    flushTimeout := draft.flushTimeout.getD defaults.flushTimeout
    audioFormat := draft.audioFormat.getD defaults.audioFormat }

end Draft

def shape : Shape Draft Config where
  name := "RecorderConfig"
  start := {}
  member := Draft.member
  elements :=
    [Draft.readOutputTemplate, Draft.readAudioEnabled, Draft.readVideoEnabled,
     Draft.readFlushTimeout, Draft.readAudioFormat]
  ofMembers draft := .ok draft.withDefaults
  ofElements _ draft := .ok draft.withDefaults

def ofJson (text : String) : Except Json.Fault Config := do
  let config ← shape.reader text.toList
  if skipBlanks config.rest ≠ [] then throw .malformed
  return config.value

end Config

end StreamRecorder
