/-!
# Timelines

Senders stamp both streams with one absolute clock in nanoseconds, and each stream starts at its own
time. A timeline moves the stamps to a common zero, the first stamp seen, and decides once whether
the audio track needs silence in front of it to meet the video track.
-/

namespace StreamRecorder

structure Timeline where
  origin : Option UInt64 := none
  firstVideo : Option UInt64 := none
  firstAudio : Option UInt64 := none
  audioStarted : Bool := false
  deriving DecidableEq

structure AudioStamp where
  presentation : UInt64
  silence : Option UInt64
  deriving DecidableEq

namespace Timeline

def relative (timeline : Timeline) (timestamp : UInt64) : UInt64 :=
  let origin := timeline.origin.getD timestamp
  if timestamp < origin then 0 else timestamp - origin

def precededOrigin (timeline : Timeline) (timestamp : UInt64) : Option UInt64 :=
  timeline.origin.filter (timestamp < ·)

def anchored (timeline : Timeline) (timestamp : UInt64) : Timeline :=
  { timeline with origin := some (timeline.origin.getD timestamp) }

def stampVideo (timeline : Timeline) (timestamp : UInt64) : UInt64 × Timeline :=
  let noted := { timeline with firstVideo := some (timeline.firstVideo.getD timestamp) }
  (noted.relative timestamp, noted.anchored timestamp)

/-- The gap in front of an audio frame that decides about silence: from the first video frame to
it, if it is the first of its stream and comes later. -/
def gapBefore (timeline : Timeline) (timestamp : UInt64) : Option UInt64 :=
  match timeline.firstVideo, timeline.firstAudio with
  | some video, none => if timestamp > video then some (timestamp - video) else none
  | _, _ => none

/-- Whether the frame after these decides about silence: a session without video does not wait for a
video frame. -/
def decidesSilence (timeline : Timeline) (expectsVideo : Bool) : Bool :=
  !timeline.audioStarted && (!expectsVideo || timeline.firstVideo.isSome)

/-- Places an audio frame. Audio that flowed before the video came is never padded. -/
def stampAudio (timeline : Timeline) (timestamp : UInt64) (expectsVideo : Bool) :
    AudioStamp × Timeline :=
  let decides := timeline.decidesSilence expectsVideo
  let silence := if decides && expectsVideo then timeline.gapBefore timestamp else none
  let noted :=
    { timeline with
      firstAudio := some (timeline.firstAudio.getD timestamp)
      audioStarted := timeline.audioStarted || decides }
  (⟨noted.relative timestamp, silence⟩, noted.anchored timestamp)

def reset (_ : Timeline) : Timeline := {}

end Timeline

end StreamRecorder
