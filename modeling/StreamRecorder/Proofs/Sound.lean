import StreamRecorder.Owned
import StreamRecorder.Proofs.Following

/-!
# Recorders stay sound

The codec fields are written before it is clear whether the live graph is torn down, so soundness is
a law of whole commands and not of their parts.
-/

namespace StreamRecorder

namespace Recorder

/-- The moves that a recorder can make, with all that they can change. -/
inductive Admits (recorder : Recorder) : Move → Prop where
  | rest (video : VideoCodec) (audio : AudioCodec)
      (matching : ∀ session ∈ recorder.session,
        session.layout = (recorder.withCodecs video audio).desiredLayout) :
      Admits recorder (.rest (recorder.withCodecs video audio))
  | feed (session : Session) (timeline : Timeline) (buffers : List (Endpoint × Buffer))
      (live : recorder.session = some session) :
      Admits recorder (recorder.feeding session timeline buffers)
  | close (video : VideoCodec) (audio : AudioCodec) :
      Admits recorder (.close (recorder.closed.withCodecs video audio))
  | renew (video : VideoCodec) (audio : AudioCodec) (active : recorder.config.isActive = true)
      (differs : recorder.layout ≠ some (recorder.withCodecs video audio).desiredLayout) :
      Admits recorder (.renew (recorder.withCodecs video audio).planned
        (recorder.withCodecs video audio).attempting)

variable {recorder : Recorder}

theorem withCodecs_desiredLayout (recorder : Recorder) (video : VideoCodec) (audio : AudioCodec) :
    (recorder.withCodecs video audio).desiredLayout =
      { video := if recorder.config.videoEnabled then some video else none
        audio := if recorder.config.audioEnabled then some audio else none } := rfl

theorem Sound.admits_rest (sound : recorder.Sound) : recorder.Admits (.rest recorder) :=
  .rest recorder.videoCodec recorder.audioCodec sound.layout

theorem admits_starting (video : VideoCodec) (audio : AudioCodec)
    (active : recorder.config.isActive = true) :
    recorder.Admits (recorder.withCodecs video audio).starting := by
  unfold starting
  split
  · rename_i matching
    refine .rest video audio ?_
    intro session live
    simpa [layout, withCodecs, Option.mem_def.mp live] using matching
  · rename_i differs
    exact .renew video audio active differs

theorem closed_withCodecs (recorder : Recorder) (video : VideoCodec) (audio : AudioCodec) :
    (recorder.withCodecs video audio).closed = recorder.closed.withCodecs video audio := by
  unfold closed
  cases live : recorder.session <;> simp [withCodecs, live]

theorem Sound.layout_of_same_audio (sound : recorder.Sound) {codec : AudioCodec}
    (enabled : recorder.config.audioEnabled = true)
    (same : (recorder.withCodecs recorder.videoCodec codec).carriesOtherAudio codec = false) :
    ∀ session ∈ recorder.session,
      session.layout = (recorder.withCodecs recorder.videoCodec codec).desiredLayout := by
  intro session live
  have desired := sound.layout session live
  have carried : session.layout.audio = some codec := by
    simpa [carriesOtherAudio, Recorder.layout, withCodecs, Option.mem_def.mp live] using same
  simp only [desired, desiredLayout, enabled, if_true, Option.some.injEq] at carried
  rw [desired, withCodecs_desiredLayout, ← carried]
  rfl

theorem Sound.layout_of_same_video (sound : recorder.Sound) {codec : VideoCodec}
    (same : (recorder.config.videoEnabled &&
      (recorder.withCodecs codec recorder.audioCodec).carriesOtherVideo codec) = false) :
    ∀ session ∈ recorder.session,
      session.layout = (recorder.withCodecs codec recorder.audioCodec).desiredLayout := by
  intro session live
  have desired := sound.layout session live
  cases enabled : recorder.config.videoEnabled with
  | false =>
      simp only [desired, withCodecs_desiredLayout, enabled, Bool.false_eq_true, if_false]
      simp only [desiredLayout, enabled, Bool.false_eq_true, if_false]
  | true =>
      have carried : session.layout.video = some codec := by
        simpa [carriesOtherVideo, Recorder.layout, withCodecs, Option.mem_def.mp live, enabled] using same
      simp only [desired, desiredLayout, enabled, if_true, Option.some.injEq] at carried
      rw [desired, withCodecs_desiredLayout, ← carried]
      rfl

theorem Sound.admits_hearing (sound : recorder.Sound) (codec : AudioCodec)
    (enabled : recorder.config.audioEnabled = true) :
    recorder.Admits (recorder.withCodecs recorder.videoCodec codec).hearing := by
  have active : recorder.config.isActive = true := by simp [Config.isActive, enabled]
  let chosen := recorder.withCodecs recorder.videoCodec codec
  cases codec with
  | alac => exact admits_starting recorder.videoCodec .alac active
  | aacEld =>
      change recorder.Admits
        (if chosen.carriesOtherAudio .aacEld then .close chosen.closed else .rest chosen)
      -- AAC never builds, so the layout has to match already or the graph has to go.
      cases other : chosen.carriesOtherAudio .aacEld with
      | true =>
          rw [if_pos rfl, closed_withCodecs]
          exact .close recorder.videoCodec .aacEld
      | false =>
          refine .rest recorder.videoCodec .aacEld ?_
          intro session live
          exact sound.layout_of_same_audio enabled other session live

theorem Sound.move_admitted (sound : recorder.Sound) (command : Command) :
    recorder.Admits (recorder.move command) := by
  cases command with
  | chooseAudio codec =>
      simp only [move]
      split
      · exact sound.admits_rest
      · rename_i enabled
        exact sound.admits_hearing codec (by simpa using enabled)
  | chooseVideo hevc =>
      simp only [move]
      split
      · exact sound.admits_rest
      · rename_i active
        exact admits_starting (VideoCodec.ofHevc hevc) recorder.audioCodec (by simpa using active)
  | pushVideo data timestamp memory =>
      simp only [move]
      split
      · exact sound.admits_rest
      · split
        · rename_i live _
          exact .feed _ _ _ live
        · exact sound.admits_rest
  | pushAudio data timestamp memory =>
      simp only [move]
      split
      · exact sound.admits_rest
      · split
        · rename_i live _
          exact .feed _ _ _ live
        · exact sound.admits_rest
  | stop =>
      simp only [move]
      split
      · exact sound.admits_rest
      · exact .close .h264 .aacEld

theorem ofConfig_sound (config : Config) : (ofConfig config).Sound :=
  ⟨rfl, nofun, nofun⟩

theorem sound_of_idle (idle : recorder.session = none) (phase : recorder.phase = .idle) :
    recorder.Sound :=
  ⟨by simp [idle, phase], by simp [idle], by simp [idle]⟩

theorem Sound.closed_phase (sound : recorder.Sound) : recorder.closed.phase = .idle := by
  unfold closed
  split
  · rename_i idle
    simp [sound.phase, idle]
  · rfl

theorem Sound.outcome {σ : Type} [Engine σ] (engine : σ) (sound : recorder.Sound) {move : Move}
    (admitted : recorder.Admits move) : (move.outcome engine recorder).Sound := by
  cases admitted with
  | rest video audio matching => exact ⟨sound.phase, matching, sound.active⟩
  | feed session timeline buffers live =>
      refine ⟨by simp [feeding, Move.outcome, sound.phase, live], ?_, ?_⟩
      · intro fed member
        obtain rfl := Option.some.inj (Option.mem_def.mp member)
        exact sound.layout session live
      · exact fun _ _ => sound.active session live
  | close video audio => exact sound_of_idle (closed_session recorder) sound.closed_phase
  | renew video audio active differs =>
      let chosen := recorder.withCodecs video audio
      simp only [Move.outcome]
      cases (Engine.build (Engine.afterAll engine recorder.closing) chosen.planned).1 with
      | error fault =>
          refine sound_of_idle ?_ ?_
          · simp [launched, attempting]
          · rw [launched, attempting, closed_withCodecs]
            exact sound.closed_phase
      | ok graph =>
          refine ⟨rfl, ?_, fun _ _ => by simpa [launched, attempting, withCodecs] using active⟩
          intro session live
          obtain rfl := Option.some.inj (Option.mem_def.mp live)
          simp [planned, launched, attempting, desiredLayout]

theorem launched_config (recorder : Recorder) (plan : Plan) (result : Except SinkError GraphId) :
    (recorder.launched plan result).config = recorder.config := by
  cases result <;> rfl

theorem Admits.outcome_config {σ : Type} [Engine σ] (engine : σ) {move : Move}
    (admitted : recorder.Admits move) : (move.outcome engine recorder).config = recorder.config := by
  cases admitted with
  | rest video audio matching => rfl
  | feed session timeline buffers live => rfl
  | close video audio => exact closed_config recorder
  | renew video audio active differs =>
      simp [Move.outcome, launched_config, attempting, withCodecs]

end Recorder

namespace Studio

variable {σ : Type} [Engine σ]

theorem perform_sound {studio : Studio σ} (sound : studio.recorder.Sound) (command : Command) :
    (studio.perform command).recorder.Sound := by
  rw [(perform_follows studio sound command).recorder]
  exact sound.outcome studio.engine (sound.move_admitted command)

theorem perform_config {studio : Studio σ} (sound : studio.recorder.Sound) (command : Command) :
    (studio.perform command).recorder.config = studio.recorder.config := by
  rw [(perform_follows studio sound command).recorder]
  exact (sound.move_admitted command).outcome_config studio.engine

theorem run_sound {studio : Studio σ} (sound : studio.recorder.Sound) (commands : List Command) :
    (studio.run commands).recorder.Sound := by
  induction commands generalizing studio with
  | nil => exact sound
  | cons command commands ih => exact ih (perform_sound sound command)

theorem run_config {studio : Studio σ} (sound : studio.recorder.Sound) (commands : List Command) :
    (studio.run commands).recorder.config = studio.recorder.config := by
  induction commands generalizing studio with
  | nil => rfl
  | cons command commands ih =>
      exact (ih (perform_sound sound command)).trans (perform_config sound command)

end Studio
end StreamRecorder
