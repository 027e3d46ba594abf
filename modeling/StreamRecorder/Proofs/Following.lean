import StreamRecorder.Proofs.Moves

namespace StreamRecorder

namespace Studio

variable {σ : Type} [Engine σ]

theorem teardown_build_recorder (studio : Studio σ) (active : studio.recorder.config.isActive = true) :
    (studio.teardown.build studio.recorder.desiredLayout).recorder =
      studio.recorder.attempting.launched studio.recorder.planned
        (Engine.build (Engine.afterAll studio.engine studio.recorder.closing)
          studio.recorder.planned).1 := by
  have same : studio.recorder.desiredLayout = studio.teardown.recorder.desiredLayout := by
    simp [teardown_recorder]
  rw [same, build_recorder]
  · simp [teardown_recorder, teardown_engine, Recorder.attempting]
  · simp [← same, Recorder.desiredLayout_isEmpty, active]

theorem teardown_build_engine (studio : Studio σ) (active : studio.recorder.config.isActive = true) :
    (studio.teardown.build studio.recorder.desiredLayout).engine =
      Engine.afterAll studio.engine (studio.recorder.closing ++ [.build studio.recorder.planned]) := by
  have same : studio.recorder.desiredLayout = studio.teardown.recorder.desiredLayout := by
    simp [teardown_recorder]
  rw [same, build_engine, Engine.afterAll_append]
  · simp [teardown_recorder, teardown_engine, Engine.afterAll, Engine.serve]
  · simp [← same, Recorder.desiredLayout_isEmpty, active]

structure Follows (before after : Studio σ) (move : Move) : Prop where
  engine : after.engine = Engine.afterAll before.engine (move.requests before.recorder)
  recorder : after.recorder = move.outcome before.engine before.recorder

theorem start_follows (studio : Studio σ) (active : studio.recorder.config.isActive = true) :
    studio.Follows studio.start studio.recorder.starting := by
  unfold start Recorder.starting
  by_cases matching : studio.recorder.layout = some studio.recorder.desiredLayout
  · simp only [matching, if_true]
    exact ⟨rfl, rfl⟩
  · simp only [matching, if_false]
    exact ⟨teardown_build_engine studio active, teardown_build_recorder studio active⟩

/-- Tearing down first what does not match leaves a start as it was. -/
theorem start_follows_of_torn (studio torn : Studio σ)
    (recorder : torn.recorder = studio.recorder.closed)
    (engine : torn.engine = Engine.afterAll studio.engine studio.recorder.closing)
    (active : studio.recorder.config.isActive = true)
    (differs : studio.recorder.layout ≠ some studio.recorder.desiredLayout) :
    studio.Follows torn.start studio.recorder.starting := by
  have started := start_follows torn (by simpa [recorder] using active)
  rw [Recorder.starting_of_differs (by simp [recorder])] at started
  rw [Recorder.starting_of_differs differs]
  refine ⟨started.engine.trans ?_, started.recorder.trans ?_⟩
  · simp [Move.requests, recorder, engine, Engine.afterAll_append]
  · simp [Move.outcome, Recorder.attempting, recorder, engine]

theorem adoptAudio_config (studio : Studio σ) (codec : AudioCodec) :
    (studio.adoptAudio codec).recorder.config = studio.recorder.config := by
  simp only [adoptAudio]
  split
  · rw [teardown_recorder, Recorder.closed_config, note_recorder]
  · rfl

theorem adoptVideo_config (studio : Studio σ) (codec : VideoCodec) :
    (studio.adoptVideo codec).recorder.config = studio.recorder.config := by
  simp only [adoptVideo]
  split
  · rw [teardown_recorder, Recorder.closed_config, note_recorder]
  · rfl

theorem Follows.rest (studio : Studio σ) : studio.Follows studio (.rest studio.recorder) :=
  ⟨rfl, rfl⟩

theorem chooseAudio_follows (studio : Studio σ) (codec : AudioCodec) :
    studio.Follows (studio.chooseAudio codec) (studio.recorder.move (.chooseAudio codec)) := by
  cases enabled : studio.recorder.config.audioEnabled with
  | false =>
      simp only [chooseAudio, Recorder.move, enabled, Bool.not_false, if_true]
      exact Follows.rest studio
  | true =>
      let chosen : Studio σ := { studio with recorder.audioCodec := codec }
      have active : chosen.recorder.config.isActive = true := by simp [chosen, Config.isActive, enabled]
      simp only [chooseAudio, Recorder.move, enabled, Bool.not_true, Bool.false_eq_true, if_false]
      change studio.Follows _ chosen.recorder.hearing
      unfold adoptAudio
      cases other : chosen.recorder.carriesOtherAudio codec with
      | false =>
          simp only [chosen] at other
          simp only [other, Bool.false_eq_true, if_false]
          cases codec with
          | aacEld =>
              simp only [Recorder.hearing, chosen, other, Bool.false_eq_true, if_false]
              exact ⟨rfl, rfl⟩
          | alac =>
              have started := start_follows chosen active
              exact ⟨started.engine, started.recorder⟩
      | true =>
          -- The codec is stored already, so the graph just closed is not the one a start would want.
          have differs : chosen.recorder.layout ≠ some chosen.recorder.desiredLayout := by
            intro same
            simp [Recorder.carriesOtherAudio, same, Recorder.desiredLayout, chosen, enabled] at other
          let noted := chosen.note (.audioCodecChanged codec)
          simp only [chosen] at other
          simp only [other, if_true]
          cases codec with
          | aacEld =>
              simp only [Recorder.hearing, chosen, other, if_true]
              exact ⟨teardown_engine noted, teardown_recorder noted⟩
          | alac =>
              have started := start_follows_of_torn noted noted.teardown
                (teardown_recorder noted) (teardown_engine noted) active differs
              exact ⟨started.engine, started.recorder⟩

theorem chooseVideo_follows (studio : Studio σ) (hevc : Bool) :
    studio.Follows (studio.chooseVideo hevc) (studio.recorder.move (.chooseVideo hevc)) := by
  cases active : studio.recorder.config.isActive with
  | false =>
      simp only [chooseVideo, Recorder.move, active, Bool.not_false, if_true]
      exact Follows.rest studio
  | true =>
      let codec := VideoCodec.ofHevc hevc
      let chosen : Studio σ := { studio with recorder.videoCodec := codec }
      simp only [chooseVideo, Recorder.move, active, Bool.not_true, Bool.false_eq_true, if_false]
      unfold adoptVideo
      cases other : chosen.recorder.config.videoEnabled && chosen.recorder.carriesOtherVideo codec with
      | false =>
          have started := start_follows (chosen.note (.videoCodecChosen hevc)) active
          simp only [chosen, codec] at other
          simp only [other, Bool.false_eq_true, if_false]
          exact ⟨started.engine, started.recorder⟩
      | true =>
          have differs : chosen.recorder.layout ≠ some chosen.recorder.desiredLayout := by
            intro same
            rw [Bool.and_eq_true] at other
            simp [Recorder.carriesOtherVideo, same, Recorder.desiredLayout, other.1] at other
            simp [chosen] at other
          let torn := (chosen.note (.videoCodecChanged codec)).teardown
          have started := start_follows_of_torn chosen (torn.note (.videoCodecChosen hevc))
            (teardown_recorder (chosen.note _)) (teardown_engine (chosen.note _)) active differs
          simp only [chosen, codec] at other
          simp only [other, if_true]
          exact ⟨started.engine, started.recorder⟩

omit [Engine σ] in
@[simp] theorem advance_recorder (studio : Studio σ) (session : Session) (timeline : Timeline)
    (timestamp : UInt64) : (studio.advance session timeline timestamp).recorder =
      { studio.recorder with session := some { session with timeline } } := by
  simp [advance]

omit [Engine σ] in
@[simp] theorem advance_engine (studio : Studio σ) (session : Session) (timeline : Timeline)
    (timestamp : UInt64) : (studio.advance session timeline timestamp).engine = studio.engine := by
  simp [advance]

@[simp] theorem pushFrame_recorder (studio : Studio σ) (graph : GraphId) (endpoint : Endpoint)
    (buffer : Buffer) : (studio.pushFrame graph endpoint buffer).recorder = studio.recorder := by
  unfold pushFrame
  split
  split <;> rfl

@[simp] theorem pushFrame_engine (studio : Studio σ) (graph : GraphId) (endpoint : Endpoint)
    (buffer : Buffer) : (studio.pushFrame graph endpoint buffer).engine =
      Engine.afterAll studio.engine [.push graph endpoint buffer] := by
  simp only [Engine.afterAll, Engine.serve]
  unfold pushFrame
  split
  split <;> simp_all

@[simp] theorem pushSilence_recorder (studio : Studio σ) (memory : Memory) (graph : GraphId)
    (gap : UInt64) : (studio.pushSilence memory graph gap).recorder = studio.recorder := by
  unfold pushSilence
  split
  · rfl
  · split
    split <;> rfl

theorem pushSilence_engine (studio : Studio σ) (memory : Memory) (graph : GraphId) (gap : UInt64) :
    (studio.pushSilence memory graph gap).engine =
      Engine.afterAll studio.engine ((studio.recorder.silenceBefore memory (some gap)).map
        fun (endpoint, buffer) => .push graph endpoint buffer) := by
  unfold pushSilence Recorder.silenceBefore
  cases silence : Silence.buffer memory.silence gap studio.recorder.config.audioFormat with
  | error fault => simp [silence]
  | ok silence =>
      simp only [silence, List.map_cons, List.map_nil, Engine.afterAll, Engine.serve]
      split <;> simp

theorem pushVideo_follows (studio : Studio σ) (sound : studio.recorder.Sound) (data : Payload)
    (timestamp : UInt64) (memory : Memory) :
    studio.Follows (studio.pushVideo memory data timestamp)
      (studio.recorder.move (.pushVideo data timestamp memory)) := by
  unfold pushVideo Recorder.move
  cases enabled : studio.recorder.config.videoEnabled with
  | false => exact Follows.rest studio
  | true =>
      cases live : studio.recorder.session with
      | none => exact Follows.rest studio
      | some session =>
          have carried : session.layout.hasVideo = true := by
            simp [sound.layout session live, Recorder.desiredLayout, Layout.hasVideo, enabled]
          cases copied : Buffer.copy memory.frame data with
          | error fault =>
              simp only [copied, carried, Bool.not_true, Bool.false_eq_true, if_false]
              exact ⟨rfl, rfl⟩
          | ok buffer =>
              simp only [copied, carried, Bool.not_true, Bool.false_eq_true, if_false]
              exact ⟨by simp [Move.requests, Recorder.feeding], by simp [Move.outcome, Recorder.feeding]⟩

theorem pushAudio_follows (studio : Studio σ) (sound : studio.recorder.Sound) (data : Payload)
    (timestamp : UInt64) (memory : Memory) :
    studio.Follows (studio.pushAudio memory data timestamp)
      (studio.recorder.move (.pushAudio data timestamp memory)) := by
  unfold pushAudio Recorder.move
  cases enabled : studio.recorder.config.audioEnabled with
  | false => exact Follows.rest studio
  | true =>
      cases live : studio.recorder.session with
      | none => exact Follows.rest studio
      | some session =>
          have carried : session.layout.hasAudio = true := by
            simp [sound.layout session live, Recorder.desiredLayout, Layout.hasAudio, enabled]
          cases copied : Buffer.copy memory.frame data with
          | error fault =>
              simp only [copied, carried, Bool.not_true, Bool.false_eq_true, if_false]
              exact ⟨rfl, rfl⟩
          | ok buffer =>
              simp only [copied, carried, Bool.not_true, Bool.false_eq_true, if_false]
              cases padded : (session.timeline.stampAudio timestamp session.layout.hasVideo).1.silence with
              | none =>
                  exact ⟨by simp [Move.requests, Recorder.feeding, Recorder.silenceBefore],
                    by simp [Move.outcome, Recorder.feeding]⟩
              | some gap =>
                  refine ⟨?_, by simp [Move.outcome, Recorder.feeding]⟩
                  simp [Move.requests, Recorder.feeding, pushSilence_engine, Engine.afterAll_append,
                    Recorder.silenceBefore]

theorem stop_follows (studio : Studio σ) :
    studio.Follows studio.stop (studio.recorder.move .stop) := by
  unfold stop Recorder.move
  cases live : studio.recorder.session with
  | none => exact Follows.rest studio
  | some session =>
      exact ⟨teardown_engine studio, by simp [Move.outcome, teardown_recorder]⟩

theorem stop_of_idle {studio : Studio σ} (idle : studio.recorder.session = none) :
    studio.stop = studio := by
  simp [stop, idle]

theorem stop_of_live {studio : Studio σ} {session : Session}
    (live : studio.recorder.session = some session) :
    studio.stop.recorder = studio.recorder.closed.forgetCodecs := by
  rw [(stop_follows studio).recorder]
  simp [Recorder.move, live, Move.outcome]

theorem stop_session (studio : Studio σ) : studio.stop.recorder.session = none := by
  cases live : studio.recorder.session with
  | none => rw [stop_of_idle live, live]
  | some session => rw [stop_of_live live, Recorder.forgetCodecs, Recorder.closed_session]

theorem perform_follows (studio : Studio σ) (sound : studio.recorder.Sound) (command : Command) :
    studio.Follows (studio.perform command) (studio.recorder.move command) := by
  cases command with
  | chooseAudio codec => exact chooseAudio_follows studio codec
  | chooseVideo hevc => exact chooseVideo_follows studio hevc
  | pushVideo data timestamp memory => exact pushVideo_follows studio sound data timestamp memory
  | pushAudio data timestamp memory => exact pushAudio_follows studio sound data timestamp memory
  | stop => exact stop_follows studio

end Studio
end StreamRecorder
