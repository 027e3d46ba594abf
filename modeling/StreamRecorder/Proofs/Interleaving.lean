import StreamRecorder.Proofs.Timing

/-!
# Streams that interleave

The timeline depends on the order in which two streams meet as long as it is not anchored.
`Timeline.Anchored` names the states in which it no longer does.
-/

namespace StreamRecorder

abbrev Stream := List (Payload × UInt64)

namespace Stream

def start? (stream : Stream) : Option UInt64 :=
  stream.head?.map Prod.snd

def track (start : UInt64) (stream : Stream) : List Buffer :=
  stream.map fun frame =>
    { data := frame.1
      presentation := Track.since start frame.2
      decode := Track.since start frame.2
      duration := none }

theorem or_start?_cons (first : Option UInt64) (data : Payload) (timestamp : UInt64)
    (stream : Stream) : (some (first.getD timestamp)).or stream.start? =
      first.or (start? ((data, timestamp) :: stream)) := by
  cases first <;> rfl

end Stream

/-- The commands deliver both streams, each in its own order, and there is memory for each frame. -/
inductive Interleaves : Stream → Stream → List Command → Prop where
  | nil : Interleaves [] [] []
  | video {video audio : Stream} {commands : List Command} (data : Payload) (timestamp : UInt64)
      (memory : Memory) (fits : memory.frame data.size = true)
      (rest : Interleaves video audio commands) :
      Interleaves ((data, timestamp) :: video) audio
        (.pushVideo data timestamp memory :: commands)
  | audio {video audio : Stream} {commands : List Command} (data : Payload) (timestamp : UInt64)
      (memory : Memory) (fits : memory.frame data.size = true)
      (rest : Interleaves video audio commands) :
      Interleaves video ((data, timestamp) :: audio)
        (.pushAudio data timestamp memory :: commands)

/-! ## Anchored timelines -/

namespace Timeline

open Track

/-- A timeline that places all frames to come from one start and pads none of them. -/
inductive Anchored (start : UInt64) : Timeline → Stream → Stream → Prop where
  | heard {timeline : Timeline} {video audio : Stream} (origin : timeline.origin = some start)
      (audible : timeline.firstAudio.isSome = true) : Anchored start timeline video audio
  | led {timeline : Timeline} {video audio : Stream} (origin : timeline.origin = some start)
      (ahead : timeline.firstVideo = some start) (unheard : timeline.firstAudio = none)
      (joins : audio.start? = some start) : Anchored start timeline video audio
  | blank {video audio : Stream} (videoStart : video.start? = some start)
      (audioStart : audio.start? = some start) : Anchored start {} video audio

variable {start : UInt64} {timeline : Timeline} {video audio : Stream} {data : Payload}
  {timestamp : UInt64}

theorem relative_of_origin (origin : timeline.origin = some start) (timestamp : UInt64) :
    timeline.relative timestamp = since start timestamp := by
  rw [relative, origin]
  rfl

theorem gapBefore_of_heard (audible : timeline.firstAudio.isSome = true) (timestamp : UInt64) :
    timeline.gapBefore timestamp = none := by
  obtain ⟨first, known⟩ := Option.isSome_iff_exists.mp audible
  rw [gapBefore, known]
  cases timeline.firstVideo <;> rfl

theorem Anchored.stampVideo
    (anchored : Anchored start timeline ((data, timestamp) :: video) audio) :
    (timeline.stampVideo timestamp).1 = since start timestamp ∧
      Anchored start (timeline.stampVideo timestamp).2 video audio := by
  cases anchored with
  | heard origin audible =>
      refine ⟨relative_of_origin origin timestamp, .heard ?_ audible⟩
      simp [Timeline.stampVideo, Timeline.anchored, origin]
  | led origin ahead unheard joins =>
      refine ⟨relative_of_origin origin timestamp, .led ?_ ?_ unheard joins⟩
      · simp [Timeline.stampVideo, Timeline.anchored, origin]
      · simp [Timeline.stampVideo, Timeline.anchored, ahead]
  | blank videoStart audioStart =>
      obtain rfl : timestamp = start := Option.some.inj videoStart
      exact ⟨rfl, .led rfl rfl rfl audioStart⟩

theorem Anchored.stampAudio
    (anchored : Anchored start timeline video ((data, timestamp) :: audio)) :
    (timeline.stampAudio timestamp true).1 = ⟨since start timestamp, none⟩ ∧
      Anchored start (timeline.stampAudio timestamp true).2 video audio := by
  cases anchored with
  | heard origin audible =>
      refine ⟨?_, .heard ?_ rfl⟩
      · simp [Timeline.stampAudio, gapBefore_of_heard audible, relative, origin, since]
      · simp [Timeline.stampAudio, Timeline.anchored, origin]
  | led origin ahead unheard joins =>
      obtain rfl : timestamp = start := Option.some.inj joins
      refine ⟨?_, .heard ?_ rfl⟩
      · simp [Timeline.stampAudio, gapBefore, ahead, unheard, relative, origin, since]
      · simp [Timeline.stampAudio, Timeline.anchored, origin]
  | blank videoStart audioStart =>
      obtain rfl : timestamp = start := Option.some.inj audioStart
      exact ⟨rfl, .heard rfl rfl⟩

theorem Anchored.origin (anchored : Anchored start timeline [] []) :
    timeline.origin = some start := by
  cases anchored with
  | heard origin audible => exact origin
  | led origin ahead unheard joins => cases joins
  | blank videoStart audioStart => cases videoStart

end Timeline

/-! ## Delivering both streams -/

def Request.bufferFor? (endpoint : Endpoint) : Request → Option Buffer
  | .push _ reached buffer => if reached = endpoint then some buffer else none
  | _ => none

theorem Recorder.Sound.carries {recorder : Recorder} (sound : recorder.Sound) {session : Session}
    (live : recorder.session = some session) :
    session.layout.hasVideo = recorder.config.videoEnabled ∧
      session.layout.hasAudio = recorder.config.audioEnabled := by
  rw [sound.layout session live]
  cases video : recorder.config.videoEnabled <;> cases audio : recorder.config.audioEnabled <;>
    simp [desiredLayout, Layout.hasVideo, Layout.hasAudio, video, audio]

namespace Studio

variable {σ : Type}

def pushedTo (studio : Studio (TracedEngine σ)) (endpoint : Endpoint) : List Buffer :=
  (studio.engine.transcript.toList.map Exchange.request).filterMap (Request.bufferFor? endpoint)

structure Laid (start : UInt64) (session : Session) (video audio : Stream)
    (before after : Studio (TracedEngine σ)) : Prop where
  videoTrack : after.pushedTo .video = before.pushedTo .video ++ video.track start
  audioTrack : after.pushedTo .audio = before.pushedTo .audio ++ audio.track start
  timeline : ∃ timeline : Timeline,
    after.recorder.session = some { session with timeline } ∧
    timeline.origin = some start ∧
    timeline.firstVideo = session.timeline.firstVideo.or video.start? ∧
    timeline.firstAudio = session.timeline.firstAudio.or audio.start?

variable [Engine σ] {studio : Studio (TracedEngine σ)} {session : Session} {command : Command}
  {start : UInt64}

theorem perform_of_placed (sound : studio.recorder.Sound) {frame : Frame} {timeline : Timeline}
    (live : studio.recorder.session = some session)
    (delivers : command.frame? studio.recorder.config = some frame)
    (copied : command.memory.frame frame.data.size = true)
    (placed : session.timeline.place session.layout frame =
      (⟨Track.since start frame.timestamp, none⟩, timeline)) :
    (studio.perform command).recorder =
        { studio.recorder with session := some { session with timeline } } ∧
      ∀ endpoint, (studio.perform command).pushedTo endpoint = studio.pushedTo endpoint ++
        if frame.endpoint = endpoint then [(Track.placed start frame).2] else [] := by
  have moved := (sound.move_of_copied live delivers copied).2
  rw [placed] at moved
  refine ⟨?_, ?_⟩
  · rw [(perform_follows studio sound command).recorder, moved]
    rfl
  · intro endpoint
    rw [pushedTo, perform_transcript sound, List.map_append, List.filterMap_append,
      Engine.exchanges_requests, moved]
    by_cases same : frame.endpoint = endpoint
    all_goals
      simp [Recorder.feeding, Move.requests, Recorder.padding, Frame.stamped, Request.bufferFor?,
        pushedTo, same, Track.placed, Buffer.withTimestamp]

/-- Both streams are laid in one way, whatever their frames' common order is. -/
theorem run_laid {video audio : Stream} {commands : List Command}
    (interleaves : Interleaves video audio commands) (sound : studio.recorder.Sound)
    (live : studio.recorder.session = some session)
    (both : session.layout.hasVideo = true ∧ session.layout.hasAudio = true)
    (anchored : Timeline.Anchored start session.timeline video audio) :
    Laid start session video audio studio (studio.run commands) := by
  -- One case for each stream that the next frame can be of; either leaves the timeline anchored.
  induction interleaves generalizing studio session with
  | nil =>
      refine ⟨(List.append_nil _).symm, (List.append_nil _).symm, session.timeline, live,
        anchored.origin, ?_, ?_⟩
      · exact Option.or_none.symm
      · exact Option.or_none.symm
  | @video video audio commands data timestamp memory fits rest ih =>
      obtain ⟨presentation, next⟩ := anchored.stampVideo
      have delivers : (Command.pushVideo data timestamp memory).frame? studio.recorder.config =
          some ⟨.video, data, timestamp⟩ := by
        rw [Command.frame?, if_pos ((sound.carries live).1.symm.trans both.1)]
      have placed : session.timeline.place session.layout ⟨.video, data, timestamp⟩ =
          (⟨Track.since start timestamp, none⟩, (session.timeline.stampVideo timestamp).2) := by
        rw [Timeline.place, presentation]
      obtain ⟨recorder, pushed⟩ := perform_of_placed sound live delivers fits placed
      have laid := ih (perform_sound sound _) (congrArg Recorder.session recorder) both next
      obtain ⟨timeline, last, origin, firstVideo, firstAudio⟩ := laid.timeline
      refine ⟨?_, ?_, timeline, last, origin, ?_, firstAudio⟩
      · exact laid.videoTrack.trans (by rw [pushed]; simp [Stream.track, Track.placed])
      · exact laid.audioTrack.trans (by rw [pushed]; simp)
      · exact firstVideo.trans (Stream.or_start?_cons _ data timestamp video)
  | @audio video audio commands data timestamp memory fits rest ih =>
      obtain ⟨stamp, next⟩ := anchored.stampAudio
      have delivers : (Command.pushAudio data timestamp memory).frame? studio.recorder.config =
          some ⟨.audio, data, timestamp⟩ := by
        rw [Command.frame?, if_pos ((sound.carries live).2.symm.trans both.2)]
      have placed : session.timeline.place session.layout ⟨.audio, data, timestamp⟩ =
          (⟨Track.since start timestamp, none⟩, (session.timeline.stampAudio timestamp true).2) := by
        rw [Timeline.place, both.1, ← stamp]
      obtain ⟨recorder, pushed⟩ := perform_of_placed sound live delivers fits placed
      have laid := ih (perform_sound sound _) (congrArg Recorder.session recorder) both next
      obtain ⟨timeline, last, origin, firstVideo, firstAudio⟩ := laid.timeline
      refine ⟨?_, ?_, timeline, last, origin, firstVideo, ?_⟩
      · exact laid.videoTrack.trans (by rw [pushed]; simp)
      · exact laid.audioTrack.trans (by rw [pushed]; simp [Stream.track, Track.placed])
      · exact firstAudio.trans (Stream.or_start?_cons _ data timestamp audio)

end Studio

/-! ## Timelines of live sessions -/

theorem Recorder.Admits.outcome_unfed {σ : Type} [Engine σ] {recorder : Recorder} {move : Move}
    (admitted : recorder.Admits move) (unfed : move.isFeed = false) (engine : σ) :
    ∀ session ∈ (move.outcome engine recorder).session,
      session ∈ recorder.session ∨ session.timeline = {} := by
  intro session live
  cases admitted with
  | rest video audio matching => exact .inl live
  | feed session timeline buffers live => cases unfed
  | close video audio =>
      have idle : (recorder.closed.withCodecs video audio).session = none := recorder.closed_session
      rw [Move.outcome, idle] at live
      cases live
  | renew video audio active differs =>
      exact .inr (launched_timeline (by simp [attempting]) session live)

theorem Recorder.Sound.move_records {σ : Type} [Engine σ] {recorder : Recorder}
    (sound : recorder.Sound)
    (records : ∀ session ∈ recorder.session, ∃ frames, session.timeline.Records frames)
    (engine : σ) (command : Command) :
    ∀ session ∈ ((recorder.move command).outcome engine recorder).session,
      ∃ frames, session.timeline.Records frames := by
  have admitted := sound.move_admitted command
  have unfed (quiet : (recorder.move command).isFeed = false) :
      ∀ session ∈ ((recorder.move command).outcome engine recorder).session,
        ∃ frames, session.timeline.Records frames := by
    intro session live
    rcases admitted.outcome_unfed quiet engine session live with old | blank
    · exact records session old
    · exact ⟨[], blank ▸ .start⟩
  cases live : recorder.session with
  | none => exact unfed (move_isFeed_of_idle live)
  | some session =>
      cases delivers : command.frame? recorder.config with
      | none => exact unfed (move_isFeed_of_no_frame delivers)
      | some frame =>
          cases copied : command.memory.frame frame.data.size with
          | false =>
              rw [move_of_uncopied delivers copied]
              exact records
          | true =>
              obtain ⟨carried, moved⟩ := sound.move_of_copied live delivers copied
              obtain ⟨frames, known⟩ := records session live
              rw [moved]
              intro fed member
              obtain rfl := Option.some.inj (Option.mem_def.mp member)
              exact ⟨frames ++ [frame], (known.place carried).2.2⟩

theorem Timeline.Records.origin_of_heard {timeline : Timeline} {frames : List Frame}
    (records : timeline.Records frames) (audible : timeline.firstAudio.isSome = true) :
    ∃ start, timeline.origin = some start := by
  rw [records.firstAudio] at audible
  rw [records.origin]
  cases frames with
  | nil => cases audible
  | cons frame frames => exact ⟨frame.timestamp, rfl⟩

namespace Studio

variable {σ : Type} [Engine σ]

theorem run_records {studio : Studio σ} (sound : studio.recorder.Sound)
    (records : ∀ session ∈ studio.recorder.session, ∃ frames, session.timeline.Records frames)
    (commands : List Command) : ∀ session ∈ (studio.run commands).recorder.session,
      ∃ frames, session.timeline.Records frames := by
  induction commands generalizing studio with
  | nil => exact records
  | cons command commands ih =>
      refine ih (perform_sound sound command) ?_
      rw [(perform_follows studio sound command).recorder]
      exact sound.move_records records studio.engine command

/-- From an anchored timeline on, the common order of two streams makes no difference to what either
endpoint is to take, whatever the engine answers. -/
theorem interleavings_agree (config : Config) (engine : σ) (history : List Command)
    {session : Session} {video audio : Stream} {one two : List Command}
    (live : (resumed config engine history).recorder.session = some session)
    (both : session.layout.hasVideo = true ∧ session.layout.hasAudio = true)
    (anchored : session.timeline.firstAudio.isSome = true ∨
      session.timeline = {} ∧ video.start?.isSome = true ∧ video.start? = audio.start?)
    (first : Interleaves video audio one) (second : Interleaves video audio two) :
    let studio := resumed config engine history
    (∀ endpoint, (studio.run one).pushedTo endpoint = (studio.run two).pushedTo endpoint) ∧
      (∀ endpoint, ∀ buffer ∈ (studio.run one).pushedTo endpoint, buffer.duration = none) ∧
      ∃ start, session.timeline.origin.or video.start? = some start ∧
        Laid start session video audio studio (studio.run one) ∧
        Laid start session video audio studio (studio.run two) := by
  intro studio
  have sound : studio.recorder.Sound := resumed_sound config engine history
  have reached : ∃ start, session.timeline.origin.or video.start? = some start ∧
      Timeline.Anchored start session.timeline video audio := by
    rcases anchored with audible | ⟨blank, begins, joined⟩
    · have begins : (ofConfig config engine).recorder.Sound := Recorder.ofConfig_sound config
      have idle : (ofConfig config engine).recorder.session = none := rfl
      obtain ⟨frames, records⟩ := run_records begins (by simp [idle]) history session live
      obtain ⟨start, origin⟩ := records.origin_of_heard audible
      exact ⟨start, by rw [origin, Option.some_or], .heard origin audible⟩
    · obtain ⟨start, begun⟩ := Option.isSome_iff_exists.mp begins
      refine ⟨start, by rw [blank]; exact begun, ?_⟩
      rw [blank]
      exact .blank begun (joined ▸ begun)
  obtain ⟨start, origin, settled⟩ := reached
  have laidOne := run_laid first sound live both settled
  have laidTwo := run_laid second sound live both settled
  refine ⟨?_, ?_, start, origin, laidOne, laidTwo⟩
  · intro endpoint
    cases endpoint with
    | video => exact laidOne.videoTrack.trans laidTwo.videoTrack.symm
    | audio => exact laidOne.audioTrack.trans laidTwo.audioTrack.symm
  · intro endpoint buffer member
    have nothing : studio.pushedTo endpoint = [] := rfl
    cases endpoint with
    | video =>
        rw [laidOne.videoTrack, nothing] at member
        obtain ⟨frame, -, rfl⟩ := List.mem_map.mp member
        rfl
    | audio =>
        rw [laidOne.audioTrack, nothing] at member
        obtain ⟨frame, -, rfl⟩ := List.mem_map.mp member
        rfl

theorem interleavings_agree_on_blank_timeline :
    let engine : DryEngine := { engine := {} }
    let session : Session :=
      { graph := 1
        layout := { video := some .h265, audio := some .aacEld }
        location := "recording.1.H265.AAC.mp4" }
    let video : Stream := [(#[1], 5000000000), (#[2], 4999000000)]
    let audio : Stream := [(#[3], 5000000000), (#[4], 5001000000)]
    let one : List Command :=
      [.pushVideo #[1] 5000000000 .whole, .pushVideo #[2] 4999000000 .whole,
        .pushAudio #[3] 5000000000 .whole, .pushAudio #[4] 5001000000 .whole]
    let two : List Command :=
      [.pushAudio #[3] 5000000000 .whole, .pushVideo #[1] 5000000000 .whole,
        .pushAudio #[4] 5001000000 .whole, .pushVideo #[2] 4999000000 .whole]
    let studio := resumed {} engine [.chooseVideo true]
    studio.recorder.session = some session ∧ Interleaves video audio one ∧
      Interleaves video audio two ∧
      ∀ endpoint, (studio.run one).pushedTo endpoint = (studio.run two).pushedTo endpoint := by
  intro engine session video audio one two studio
  have live : studio.recorder.session = some session := by decide +kernel
  have first : Interleaves video audio one :=
    .video _ _ _ (by decide) (.video _ _ _ (by decide)
      (.audio _ _ _ (by decide) (.audio _ _ _ (by decide) .nil)))
  have second : Interleaves video audio two :=
    .audio _ _ _ (by decide) (.video _ _ _ (by decide)
      (.audio _ _ _ (by decide) (.video _ _ _ (by decide) .nil)))
  have joined : video.start?.isSome = true ∧ video.start? = audio.start? := ⟨rfl, rfl⟩
  have agreed := interleavings_agree {} engine [.chooseVideo true] live ⟨rfl, rfl⟩
    (.inr ⟨rfl, joined⟩) first second
  exact ⟨live, first, second, agreed.1⟩

end Studio
end StreamRecorder
