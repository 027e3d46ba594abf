import Mathlib
import StreamRecorder.Layout
import StreamRecorder.Silence
import StreamRecorder.Timeline

/-!
# The track of a graph

What a graph gets is said of all its frames at once; a timeline decides the same frame by frame,
since it only ever pads from the first video frame when that is the origin.
-/

namespace StreamRecorder

structure Frame where
  endpoint : Endpoint
  data : Payload
  timestamp : UInt64

namespace Track

def since (origin timestamp : UInt64) : UInt64 :=
  if timestamp < origin then 0 else timestamp - origin

def origin (frames : List Frame) : UInt64 :=
  (frames.head?.map Frame.timestamp).getD 0

def placed (origin : UInt64) (frame : Frame) : Endpoint × Buffer :=
  (frame.endpoint,
    { data := frame.data
      presentation := since origin frame.timestamp
      decode := since origin frame.timestamp
      duration := none })

def silence (format : AudioFormat) (gap : UInt64) : Endpoint × Buffer :=
  (.audio,
    { data := Array.replicate (Silence.length gap format).toNat 0
      presentation := 0
      decode := 0
      duration := some gap })

def gap? (layout : Layout) (frames : List Frame) : Option UInt64 :=
  match frames.head?, frames.find? (·.endpoint = .audio) with
  | some first, some audio =>
      if layout.hasVideo ∧ layout.hasAudio ∧ first.endpoint = .video ∧
          first.timestamp < audio.timestamp then
        some (audio.timestamp - first.timestamp)
      else none
  | _, _ => none

def buffers (format : AudioFormat) (layout : Layout) (frames : List Frame) :
    List (Endpoint × Buffer) :=
  let track := frames.map (placed (origin frames))
  match gap? layout frames with
  | none => track
  | some gap =>
      track.takeWhile (·.1 = .video) ++ silence format gap :: track.dropWhile (·.1 = .video)

variable {format : AudioFormat} {layout : Layout} {frames early late : List Frame} {audio : Frame}

def gapAfter (layout : Layout) (early : List Frame) (audio : Frame) : Option UInt64 :=
  early.head?.bind fun first =>
    if layout.hasVideo ∧ layout.hasAudio ∧ first.timestamp < audio.timestamp then
      some (audio.timestamp - first.timestamp)
    else none

theorem find?_audio_of_video (video : ∀ frame ∈ frames, frame.endpoint = .video) :
    frames.find? (·.endpoint = .audio) = none := by
  rw [List.find?_eq_none]
  intro frame member
  simp [video frame member]

theorem video_of_find?_audio (none : frames.find? (·.endpoint = .audio) = none) :
    ∀ frame ∈ frames, frame.endpoint = .video := by
  intro frame member
  have other := List.find?_eq_none.mp none frame member
  cases kind : frame.endpoint with
  | video => rfl
  | audio => simp [kind] at other

theorem gap?_of_video (video : ∀ frame ∈ frames, frame.endpoint = .video) :
    gap? layout frames = none := by
  rw [gap?, find?_audio_of_video video]
  cases frames.head? <;> rfl

theorem gap?_of_split (video : ∀ frame ∈ early, frame.endpoint = .video)
    (sound : audio.endpoint = .audio) :
    gap? layout (early ++ audio :: late) = gapAfter layout early audio := by
  have found : (early ++ audio :: late).find? (·.endpoint = .audio) = some audio := by
    rw [List.find?_append, find?_audio_of_video video]
    simp [sound]
  rw [gap?, found]
  cases early with
  | nil => simp [gapAfter, sound]
  | cons first early =>
      have firstVideo := video first List.mem_cons_self
      simp [gapAfter, firstVideo]

theorem buffers_of_video (video : ∀ frame ∈ frames, frame.endpoint = .video) :
    buffers format layout frames = frames.map (placed (origin frames)) := by
  rw [buffers, gap?_of_video video]

theorem buffers_of_split (video : ∀ frame ∈ early, frame.endpoint = .video)
    (sound : audio.endpoint = .audio) :
    let start := origin (early ++ audio :: late)
    buffers format layout (early ++ audio :: late) = early.map (placed start) ++
      ((gapAfter layout early audio).toList.map (silence format) ++
        (audio :: late).map (placed start)) := by
  rw [buffers, gap?_of_split video sound]
  generalize origin (early ++ audio :: late) = start
  have videoPlaced : ∀ entry ∈ early.map (placed start), decide (entry.1 = .video) = true := by
    intro entry member
    obtain ⟨frame, listed, rfl⟩ := List.mem_map.mp member
    exact decide_eq_true (video frame listed)
  cases gapAfter layout early audio with
  | none => simp
  | some gap =>
      simp only [List.map_append]
      rw [List.takeWhile_append_of_pos videoPlaced, List.dropWhile_append_of_pos videoPlaced]
      simp [placed, sound]

theorem origin_append (nonempty : frames ≠ []) (more : List Frame) :
    origin (frames ++ more) = origin frames := by
  cases frames with
  | nil => exact absurd rfl nonempty
  | cons first frames => rfl

def gapBefore (layout : Layout) (frames : List Frame) (frame : Frame) : Option UInt64 :=
  if frame.endpoint = .audio ∧ frames.find? (·.endpoint = .audio) = none then
    gapAfter layout frames frame
  else none

theorem endpoint_of_gapBefore {frame : Frame} {gap : UInt64}
    (filled : gap ∈ gapBefore layout frames frame) : frame.endpoint = .audio := by
  unfold gapBefore at filled
  split at filled
  · rename_i first
    exact first.1
  · cases filled

theorem buffers_append (frames : List Frame) (frame : Frame) :
    buffers format layout (frames ++ [frame]) = buffers format layout frames ++
      ((gapBefore layout frames frame).toList.map (silence format) ++
        [placed (origin (frames ++ [frame])) frame]) := by
  cases found : frames.find? (·.endpoint = .audio) with
  | none =>
      have video := video_of_find?_audio found
      have same : frames.map (placed (origin (frames ++ [frame]))) =
          frames.map (placed (origin frames)) := by
        cases frames <;> rfl
      cases kind : frame.endpoint with
      | video =>
          have allVideo : ∀ earlier ∈ frames ++ [frame], earlier.endpoint = .video := by
            intro earlier member
            rcases List.mem_append.mp member with old | new
            · exact video earlier old
            · rw [List.mem_singleton.mp new, kind]
          rw [buffers_of_video allVideo, buffers_of_video video, List.map_append, same]
          simp [gapBefore, kind]
      | audio =>
          rw [buffers_of_split video kind, buffers_of_video video, same]
          simp [gapBefore, kind, found]
  | some audio =>
      obtain ⟨sound, early, late, rfl, before⟩ := List.find?_eq_some_iff_append.mp found
      have video : ∀ earlier ∈ early, earlier.endpoint = .video := by
        apply video_of_find?_audio
        rw [List.find?_eq_none]
        intro earlier member
        simpa using before earlier member
      have audible : audio.endpoint = .audio := by simpa using sound
      have nonempty : early ++ audio :: late ≠ [] := by simp
      rw [origin_append nonempty, buffers_of_split video audible]
      have longer : buffers format layout (early ++ audio :: (late ++ [frame])) = _ :=
        buffers_of_split video audible
      have same : origin (early ++ audio :: (late ++ [frame])) = origin (early ++ audio :: late) := by
        cases early <;> rfl
      rw [List.append_assoc, List.cons_append, longer, same]
      simp [gapBefore, found]

theorem duration_placed (start : UInt64) (frames : List Frame) :
    (frames.map (placed start)).filter (·.2.duration.isSome) = [] := by
  rw [List.filter_eq_nil_iff]
  intro entry member
  obtain ⟨frame, -, rfl⟩ := List.mem_map.mp member
  simp [placed]

theorem filter_duration (format : AudioFormat) (layout : Layout) (frames : List Frame) :
    (buffers format layout frames).filter (·.2.duration.isSome) =
      (gap? layout frames).toList.map (silence format) := by
  rw [buffers]
  cases gap? layout frames with
  | none => exact duration_placed _ frames
  | some gap =>
      have whole := duration_placed (origin frames) frames
      generalize frames.map (placed (origin frames)) = track at whole ⊢
      have halves : track.takeWhile (·.1 = .video) ++ track.dropWhile (·.1 = .video) = track :=
        List.takeWhile_append_dropWhile
      rw [← halves, List.filter_append, List.append_eq_nil_iff] at whole
      simp [List.filter_append, whole, silence]

/-- Silence ends where the first audio frame starts. -/
theorem buffers_of_gap {gap : UInt64} (filled : gap ∈ gap? layout frames) :
    ∃ early audio late, frames = early ++ audio :: late ∧
      (∀ frame ∈ early, frame.endpoint = .video) ∧ audio.endpoint = .audio ∧
      buffers format layout frames = early.map (placed (origin frames)) ++
        silence format gap :: placed (origin frames) audio :: late.map (placed (origin frames)) ∧
      gap = (placed (origin frames) audio).2.presentation := by
  cases found : frames.find? (·.endpoint = .audio) with
  | none =>
      rw [gap?_of_video (video_of_find?_audio found)] at filled
      cases filled
  | some audio =>
      obtain ⟨sound, early, late, rfl, before⟩ := List.find?_eq_some_iff_append.mp found
      have audible : audio.endpoint = .audio := by simpa using sound
      have video : ∀ frame ∈ early, frame.endpoint = .video := by
        apply video_of_find?_audio
        rw [List.find?_eq_none]
        intro frame member
        simpa using before frame member
      rw [gap?_of_split video audible] at filled
      refine ⟨early, audio, late, rfl, video, audible, ?_, ?_⟩
      · rw [buffers_of_split video audible, Option.mem_def.mp filled]
        simp
      · obtain ⟨first, head, due⟩ := Option.bind_eq_some_iff.mp filled
        have start : origin (early ++ audio :: late) = first.timestamp := by
          rw [origin, List.head?_append, head]
          rfl
        split at due
        · rename_i carried
          have later : ¬ audio.timestamp < first.timestamp := UInt64.lt_asymm carried.2.2
          rw [start, ← Option.some.inj due]
          simp [placed, since, later]
        · cases due

end Track

namespace Timeline

open Track

structure Records (timeline : Timeline) (frames : List Frame) : Prop where
  origin : timeline.origin = frames.head?.map Frame.timestamp
  firstVideo : timeline.firstVideo =
    (frames.find? (·.endpoint = .video)).map Frame.timestamp
  firstAudio : timeline.firstAudio =
    (frames.find? (·.endpoint = .audio)).map Frame.timestamp
  decided : timeline.audioStarted = true → timeline.firstAudio.isSome

variable {timeline : Timeline} {frames : List Frame} {layout : Layout}

theorem Records.start : Records {} [] :=
  ⟨rfl, rfl, rfl, nofun⟩

theorem Records.relative (records : timeline.Records frames) (frame : Frame) :
    timeline.relative frame.timestamp = since (Track.origin (frames ++ [frame])) frame.timestamp := by
  rw [Timeline.relative, records.origin]
  cases frames <;> rfl

theorem Records.origin_append (records : timeline.Records frames) (frame : Frame) :
    some (timeline.origin.getD frame.timestamp) =
      (frames ++ [frame]).head?.map Frame.timestamp := by
  rw [records.origin]
  cases frames <;> rfl

theorem Records.video (records : timeline.Records frames) (data : Payload) (timestamp : UInt64) :
    let frame : Frame := ⟨.video, data, timestamp⟩
    (timeline.stampVideo timestamp).1 = since (Track.origin (frames ++ [frame])) timestamp ∧
      (timeline.stampVideo timestamp).2.Records (frames ++ [frame]) := by
  intro frame
  refine ⟨records.relative frame, records.origin_append frame, ?_, ?_, records.decided⟩
  · simp only [stampVideo, anchored, records.firstVideo, List.find?_append]
    cases frames.find? (·.endpoint = .video) <;> simp [frame]
  · simp only [stampVideo, anchored, records.firstAudio, List.find?_append]
    cases frames.find? (·.endpoint = .audio) <;> simp [frame]

/-- The decision about silence, made from flags, is the one made from the frames. -/
theorem Records.silence (records : timeline.Records frames) (carried : layout.hasAudio = true)
    (data : Payload) (timestamp : UInt64) :
    (timeline.stampAudio timestamp layout.hasVideo).1.silence =
      Track.gapBefore layout frames ⟨.audio, data, timestamp⟩ := by
  cases heard : frames.find? (·.endpoint = .audio) with
  | some audio =>
      have known : timeline.firstAudio = some audio.timestamp := by rw [records.firstAudio, heard]; rfl
      have unfilled : timeline.gapBefore timestamp = none := by
        rw [Timeline.gapBefore, known]
        cases timeline.firstVideo <;> rfl
      simp [stampAudio, unfilled, Track.gapBefore, heard]
  | none =>
      have unknown : timeline.firstAudio = none := by rw [records.firstAudio, heard]; rfl
      have undecided : timeline.audioStarted = false := by
        cases started : timeline.audioStarted with
        | false => rfl
        | true => simpa [unknown] using records.decided started
      -- Without audio so far all frames are video, and the first of them is the origin.
      have video := video_of_find?_audio heard
      have first : timeline.firstVideo = frames.head?.map Frame.timestamp := by
        rw [records.firstVideo]
        cases frames with
        | nil => rfl
        | cons first rest => simp [video first List.mem_cons_self]
      simp only [stampAudio, decidesSilence, undecided, Timeline.gapBefore, first, unknown,
        Track.gapBefore, heard, gapAfter, carried]
      cases layout.hasVideo <;> cases frames.head? <;> simp

theorem Records.audio (records : timeline.Records frames) (carried : layout.hasAudio = true)
    (data : Payload) (timestamp : UInt64) :
    let frame : Frame := ⟨.audio, data, timestamp⟩
    let stamped := timeline.stampAudio timestamp layout.hasVideo
    stamped.1.presentation = since (Track.origin (frames ++ [frame])) timestamp ∧
      stamped.1.silence = Track.gapBefore layout frames frame ∧
      stamped.2.Records (frames ++ [frame]) := by
  intro frame stamped
  refine ⟨records.relative frame, records.silence carried data timestamp,
    records.origin_append frame, ?_, ?_, fun _ => rfl⟩
  · simp only [stamped, stampAudio, anchored, records.firstVideo, List.find?_append]
    cases frames.find? (·.endpoint = .video) <;> simp [frame]
  · simp only [stamped, stampAudio, anchored, records.firstAudio, List.find?_append]
    cases frames.find? (·.endpoint = .audio) <;> simp [frame]

def place (timeline : Timeline) (layout : Layout) (frame : Frame) : AudioStamp × Timeline :=
  match frame.endpoint with
  | .video =>
      (⟨(timeline.stampVideo frame.timestamp).1, none⟩, (timeline.stampVideo frame.timestamp).2)
  | .audio => timeline.stampAudio frame.timestamp layout.hasVideo

theorem place_silence_of_video {frame : Frame} (video : frame.endpoint = .video) :
    (timeline.place layout frame).1.silence = none := by
  simp [place, video]

theorem Records.place (records : timeline.Records frames) {frame : Frame}
    (carried : frame.endpoint ∈ layout.endpoints) :
    let stamped := timeline.place layout frame
    stamped.1.presentation = since (Track.origin (frames ++ [frame])) frame.timestamp ∧
      stamped.1.silence = Track.gapBefore layout frames frame ∧
      stamped.2.Records (frames ++ [frame]) := by
  obtain ⟨endpoint, data, timestamp⟩ := frame
  cases endpoint with
  | video =>
      obtain ⟨presentation, after⟩ := records.video data timestamp
      exact ⟨presentation, by simp [Timeline.place, Track.gapBefore], after⟩
  | audio =>
      have heard : layout.hasAudio = true := by
        cases audible : layout.hasAudio with
        | true => rfl
        | false => simp [Layout.endpoints, audible] at carried
      exact records.audio heard data timestamp

end Timeline
end StreamRecorder
