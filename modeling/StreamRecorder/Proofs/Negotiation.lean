import StreamRecorder.Engine.Memory
import StreamRecorder.Proofs.Sound

namespace StreamRecorder

abbrev Codecs := VideoCodec × AudioCodec

def Codecs.default : Codecs := (.h264, .aacEld)

def Recorder.codecs (recorder : Recorder) : Codecs :=
  (recorder.videoCodec, recorder.audioCodec)

/-- The codecs after a command; media that are not recorded are not negotiated. -/
def Command.negotiate (config : Config) (codecs : Codecs) : Command → Codecs
  | .chooseAudio audio => if config.audioEnabled then (codecs.1, audio) else codecs
  | .chooseVideo hevc => if config.isActive then (VideoCodec.ofHevc hevc, codecs.2) else codecs
  | .pushVideo _ _ _ | .pushAudio _ _ _ | .stop => codecs

def Codecs.chosen (config : Config) (commands : List Command) : Codecs :=
  commands.foldl (Command.negotiate config) Codecs.default

def Config.layoutOf (config : Config) (codecs : Codecs) : Layout :=
  { video := if config.videoEnabled then some codecs.1 else none
    audio := if config.audioEnabled then some codecs.2 else none }

namespace Recorder

variable {recorder : Recorder}

theorem launched_codecs (recorder : Recorder) (plan : Plan) (result : Except SinkError GraphId) :
    (recorder.launched plan result).codecs = recorder.codecs := by
  cases result <;> rfl

theorem starting_codecs {σ : Type} [Engine σ] (engine : σ) (before : Recorder) :
    (recorder.starting.outcome engine before).codecs = recorder.codecs := by
  unfold starting
  split
  · rfl
  · simp only [Move.outcome, launched_codecs]
    simp [attempting, codecs]

theorem move_codecs {σ : Type} [Engine σ] (engine : σ) (idle : recorder.session = none)
    (command : Command) : ((recorder.move command).outcome engine recorder).codecs =
      command.negotiate recorder.config recorder.codecs := by
  cases command with
  | chooseAudio codec =>
      cases enabled : recorder.config.audioEnabled with
      | false => simp [move, Command.negotiate, Move.outcome, enabled]
      | true =>
          simp only [move, Command.negotiate, enabled, Bool.not_true, Bool.false_eq_true, if_false]
          cases codec with
          | alac => exact starting_codecs engine recorder
          | aacEld =>
              simp [hearing, withCodecs, carriesOtherAudio, layout, idle, Move.outcome, codecs]
  | chooseVideo hevc =>
      cases active : recorder.config.isActive with
      | false => simp [move, Command.negotiate, Move.outcome, active]
      | true =>
          simp only [move, Command.negotiate, active, Bool.not_true, Bool.false_eq_true, if_false]
          exact starting_codecs engine recorder
  | pushVideo data timestamp memory => simp [move, idle, Command.negotiate, Move.outcome]
  | pushAudio data timestamp memory => simp [move, idle, Command.negotiate, Move.outcome]
  | stop => simp [move, idle, Command.negotiate, Move.outcome]

theorem desiredLayout_eq (recorder : Recorder) :
    recorder.desiredLayout = recorder.config.layoutOf recorder.codecs := rfl

end Recorder

namespace Studio

variable {σ : Type} [Engine σ]

theorem run_append (studio : Studio σ) (first rest : List Command) :
    studio.run (first ++ rest) = (studio.run first).run rest :=
  List.foldl_append

theorem run_codecs {studio : Studio σ} (sound : studio.recorder.Sound)
    (unnegotiated : studio.recorder.codecs = Codecs.default) (commands : List Command)
    (idle : ∀ earlier, earlier <+: commands → earlier ≠ commands →
      (studio.run earlier).recorder.session = none) :
    (studio.run commands).recorder.codecs = Codecs.chosen studio.recorder.config commands := by
  induction commands using List.reverseRecOn with
  | nil => exact unnegotiated
  | append_singleton commands command ih =>
      have before : (studio.run commands).recorder.codecs =
          Codecs.chosen studio.recorder.config commands := by
        apply ih
        intro earlier shorter _
        refine idle earlier (shorter.trans (List.prefix_append _ _)) ?_
        rintro rfl
        simpa using shorter.length_le
      -- All commands but the last are a proper prefix, so nothing is live after them.
      have quiet : (studio.run commands).recorder.session = none :=
        idle commands (List.prefix_append _ _) (by simp)
      have soundBefore := run_sound sound commands
      rw [run_append]
      change ((studio.run commands).perform command).recorder.codecs = _
      rw [(perform_follows _ soundBefore command).recorder, Recorder.move_codecs _ quiet, before,
        run_config sound, Codecs.chosen, Codecs.chosen, List.foldl_append]
      rfl

theorem stop_codecs_iff (studio : Studio σ) : studio.stop.recorder.codecs = Codecs.default ↔
    studio.recorder.session.isSome ∨ studio.recorder.codecs = Codecs.default := by
  cases live : studio.recorder.session with
  | none => simp [stop_of_idle live]
  | some session => simp [stop_of_live live, Recorder.forgetCodecs, Recorder.codecs, Codecs.default]

/-- What holds after a caller's stop, of any recorder and whatever its engine answered before. -/
theorem stop_forgets_iff_live (config : Config) (engine : σ) (commands : List Command) :
    let studio := (Studio.ofConfig config engine).run commands
    let stopped := studio.stop
    stopped.recorder.phase = .idle ∧ stopped.recorder.session = none ∧ stopped.stop = stopped ∧
      (stopped.recorder.codecs = Codecs.default ↔
        studio.recorder.session.isSome ∨ studio.recorder.codecs = Codecs.default) ∧
      (stopped.recorder.codecs = Codecs.default → ∀ later,
        (∀ earlier, earlier <+: later → earlier ≠ later →
          (stopped.run earlier).recorder.session = none) →
        ∀ session ∈ (stopped.run later).recorder.session,
          session.layout = config.effective.layoutOf (Codecs.chosen config.effective later)) := by
  intro studio stopped
  have sound : studio.recorder.Sound := run_sound (Recorder.ofConfig_sound config) commands
  have soundAfter : stopped.recorder.Sound := perform_sound sound .stop
  have configured : stopped.recorder.config = config.effective :=
    (perform_config sound .stop).trans (run_config (Recorder.ofConfig_sound config) commands)
  have idle : stopped.recorder.session = none := stop_session studio
  refine ⟨by simp [soundAfter.phase, idle], idle, stop_of_idle idle, stop_codecs_iff studio, ?_⟩
  intro unnegotiated later quiet session live
  have soundLater := run_sound soundAfter later
  rw [soundLater.layout session live, Recorder.desiredLayout_eq, run_config soundAfter, configured,
    run_codecs soundAfter unnegotiated later quiet, configured]

/-- Lossless audio whose graph could not be built is still negotiated after a stop. -/
theorem stop_keeps_lossless_after_failed_build :
    ((Studio.ofConfig {} ({ refusesNextBuild := true } : MemoryEngine)).run
      [.chooseAudio .alac]).stop.recorder.codecs ≠ Codecs.default := by
  decide +kernel

end Studio
end StreamRecorder
