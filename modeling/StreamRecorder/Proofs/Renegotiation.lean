import StreamRecorder.Proofs.Layouts

namespace StreamRecorder

inductive Choice where
  | video (hevc : Bool)
  | audio (codec : AudioCodec)

def Choice.command : Choice → Command
  | .video hevc => .chooseVideo hevc
  | .audio codec => .chooseAudio codec

def Choice.Starts (config : Config) : Choice → Prop
  | .video _ => config.isActive = true
  | .audio .alac => config.audioEnabled = true
  | .audio .aacEld => False

theorem Choice.negotiate_again (choice : Choice) (config : Config) (codecs : Codecs) :
    choice.command.negotiate config (choice.command.negotiate config codecs) =
      choice.command.negotiate config codecs := by
  cases choice with
  | video hevc => cases active : config.isActive <;> simp [command, Command.negotiate, active]
  | audio codec => cases enabled : config.audioEnabled <;> simp [command, Command.negotiate, enabled]

def Request.isRelease : Request → Bool
  | .release _ => true
  | _ => false

namespace Recorder

variable {recorder : Recorder}

def carriesLossless (recorder : Recorder) : Prop :=
  ∃ session ∈ recorder.session, session.layout.audio = some .alac

theorem move_of_starts {choice : Choice} (starts : choice.Starts recorder.config) :
    let chosen := choice.command.negotiate recorder.config recorder.codecs
    recorder.move choice.command = (recorder.withCodecs chosen.1 chosen.2).starting := by
  cases choice with
  | video hevc =>
      have active : recorder.config.isActive = true := starts
      simp [Choice.command, move, Command.negotiate, active, codecs]
  | audio codec =>
      cases codec with
      | aacEld => exact starts.elim
      | alac =>
          have enabled : recorder.config.audioEnabled = true := starts
          simp [Choice.command, move, Command.negotiate, enabled, codecs, hearing, withCodecs]

theorem Sound.carriesOtherAudio_iff (sound : recorder.Sound)
    (enabled : recorder.config.audioEnabled = true) (video : VideoCodec) (audio : AudioCodec) :
    (recorder.withCodecs video audio).carriesOtherAudio .aacEld = true ↔ recorder.carriesLossless := by
  cases live : recorder.session with
  | none => simp [carriesOtherAudio, carriesLossless, Recorder.layout, withCodecs, live]
  | some session =>
      have carried : session.layout.audio = some recorder.audioCodec := by
        simp [sound.layout session live, desiredLayout, enabled]
      have other : (recorder.withCodecs video audio).carriesOtherAudio .aacEld =
          decide (session.layout.audio ≠ some .aacEld) := by
        simp [carriesOtherAudio, Recorder.layout, withCodecs, live]
      rw [other, carried, decide_eq_true_iff]
      simp only [carriesLossless, live, Option.mem_def, Option.some.injEq, exists_eq_left', carried]
      cases recorder.audioCodec <;> simp

theorem Sound.move_aac (sound : recorder.Sound) :
    let chosen := (Choice.audio .aacEld).command.negotiate recorder.config recorder.codecs
    let told := recorder.withCodecs chosen.1 chosen.2
    (recorder.carriesLossless → recorder.move (.chooseAudio .aacEld) = .close told.closed) ∧
      (¬ recorder.carriesLossless → recorder.move (.chooseAudio .aacEld) = .rest told) := by
  intro chosen told
  cases enabled : recorder.config.audioEnabled with
  | false =>
      have silent : ¬ recorder.carriesLossless := by
        rintro ⟨session, live, lossless⟩
        simp [sound.layout session live, desiredLayout, enabled] at lossless
      have same : told = recorder := by
        simp [told, chosen, Choice.command, Command.negotiate, enabled, codecs, withCodecs]
      refine ⟨fun lossless => absurd lossless silent, fun _ => ?_⟩
      simp [move, enabled, same]
  | true =>
      have hears : told = recorder.withCodecs recorder.videoCodec .aacEld := by
        simp [told, chosen, Choice.command, Command.negotiate, enabled, codecs]
      have other : told.carriesOtherAudio .aacEld = true ↔ recorder.carriesLossless :=
        sound.carriesOtherAudio_iff enabled _ _
      have moved : recorder.move (.chooseAudio .aacEld) =
          if told.carriesOtherAudio .aacEld then .close told.closed else .rest told := by
        simp only [move, enabled, Bool.not_true, Bool.false_eq_true, if_false, hears]
        rfl
      constructor
      · intro lossless
        rw [moved, if_pos (other.mpr lossless)]
      · intro lossy
        rw [moved, if_neg (mt other.mp lossy)]

theorem move_of_unheard {choice : Choice} (quiet : ¬ choice.Starts recorder.config)
    (other : choice ≠ .audio .aacEld) :
    recorder.move choice.command = .rest recorder ∧
      choice.command.negotiate recorder.config recorder.codecs = recorder.codecs := by
  cases choice with
  | video hevc =>
      have inactive : recorder.config.isActive = false := Bool.eq_false_of_not_eq_true quiet
      simp [Choice.command, move, Command.negotiate, inactive]
  | audio codec =>
      cases codec with
      | aacEld => exact absurd rfl other
      | alac =>
          have disabled : recorder.config.audioEnabled = false := Bool.eq_false_of_not_eq_true quiet
          simp [Choice.command, move, Command.negotiate, disabled]

theorem Sound.choice_codecs {σ : Type} [Engine σ] (engine : σ) (sound : recorder.Sound)
    (choice : Choice) : ((recorder.move choice.command).outcome engine recorder).codecs =
      choice.command.negotiate recorder.config recorder.codecs := by
  by_cases starts : choice.Starts recorder.config
  · rw [move_of_starts starts, starting_codecs]
    rfl
  · by_cases aac : choice = .audio .aacEld
    · subst aac
      obtain ⟨closes, rests⟩ := sound.move_aac
      by_cases lossless : recorder.carriesLossless
      · simp [Choice.command, closes lossless, Move.outcome, codecs, withCodecs]
      · simp [Choice.command, rests lossless, Move.outcome, codecs, withCodecs]
    · obtain ⟨rests, same⟩ := move_of_unheard starts aac
      rw [rests, same]
      rfl

theorem Sound.move_of_heard (sound : recorder.Sound) (running : recorder.phase = .running)
    {choice : Choice}
    (heard : choice.command.negotiate recorder.config recorder.codecs = recorder.codecs) :
    recorder.move choice.command = .rest recorder := by
  obtain ⟨session, live⟩ : ∃ session, recorder.session = some session := by
    rw [← Option.isSome_iff_exists, ← Bool.not_eq_false]
    intro idle
    simp [sound.phase, idle] at running
  have wanted := sound.layout session live
  by_cases starts : choice.Starts recorder.config
  · rw [move_of_starts starts, heard]
    exact if_pos (by simp [Recorder.layout, withCodecs, codecs, live, wanted, desiredLayout])
  · by_cases aac : choice = .audio .aacEld
    · subst aac
      have lossy : ¬ recorder.carriesLossless := by
        rintro ⟨other, member, lossless⟩
        rw [sound.layout other member] at lossless
        cases enabled : recorder.config.audioEnabled with
        | false => simp [desiredLayout, enabled] at lossless
        | true =>
            have alac : recorder.audioCodec = .alac := by simpa [desiredLayout, enabled] using lossless
            simp [Choice.command, Command.negotiate, enabled, codecs, alac] at heard
      have rests := sound.move_aac.2 lossy
      rw [heard] at rests
      exact rests
    · exact (move_of_unheard starts aac).1

theorem closing_releases (recorder : Recorder) : recorder.closing.countP Request.isRelease ≤ 1 := by
  unfold closing
  cases recorder.session with
  | none => simp
  | some session =>
      have streams : (session.layout.endpoints.map (Request.endOfStream session.graph)).countP
          Request.isRelease = 0 := by
        rw [List.countP_eq_zero]
        intro request member
        obtain ⟨endpoint, -, rfl⟩ := List.mem_map.mp member
        simp [Request.isRelease]
      simp [Session.closing, streams, Request.isRelease]

theorem Admits.asks_once {move : Move} (admitted : recorder.Admits move) :
    (move.requests recorder).countP Request.isBuild ≤ 1 ∧
      (move.requests recorder).countP Request.isRelease ≤ 1 := by
  have unbuilt : recorder.closing.countP Request.isBuild = 0 := by
    rw [List.countP_eq_zero]
    intro request member
    simp [recorder.closing_isBuild request member]
  have releases := recorder.closing_releases
  cases admitted with
  | rest video audio matching => simp [Move.requests]
  | close video audio => exact ⟨by simp [Move.requests, unbuilt], releases⟩
  | renew video audio active differs =>
      simpa [Move.requests, unbuilt, Request.isBuild, Request.isRelease] using releases
  | feed session timeline buffers live =>
      simp [Move.requests, feeding, List.countP_map, Function.comp_def, Request.isBuild,
        Request.isRelease]

end Recorder

namespace Studio

variable {σ : Type} [Engine σ]

structure Renews (before after : Studio (TracedEngine σ)) (chosen : Codecs) : Prop where
  kept : before.recorder.layout = some (before.recorder.config.layoutOf chosen) →
    after.engine = before.engine ∧
      after.recorder = { before.recorder with videoCodec := chosen.1, audioCodec := chosen.2 }
  renewed : before.recorder.layout ≠ some (before.recorder.config.layoutOf chosen) →
    ∃ torn plan result,
      after.engine.transcript.toList = before.engine.transcript.toList ++
        (torn ++ [⟨.build plan, .built result⟩]) ∧
      torn.map Exchange.request = before.recorder.closing ∧
      plan.layout = before.recorder.config.layoutOf chosen ∧
      after.recorder.codecs = chosen ∧
      match result with
      | .ok graph => after.recorder.phase = .running ∧ after.recorder.session =
          some { graph, layout := plan.layout, location := plan.location, timeline := {} }
      | .error _ => after.recorder.phase = .idle ∧ after.recorder.session = none

structure Yields (before after : Studio (TracedEngine σ)) (chosen : Codecs) : Prop where
  kept : ¬ before.recorder.carriesLossless → after.engine = before.engine ∧
    after.recorder = { before.recorder with videoCodec := chosen.1, audioCodec := chosen.2 }
  torn : before.recorder.carriesLossless → ∃ torn,
    after.engine.transcript.toList = before.engine.transcript.toList ++ torn ∧
      torn.map Exchange.request = before.recorder.closing ∧
      after.recorder.codecs = chosen ∧
      after.recorder.phase = .idle ∧ after.recorder.session = none

variable {studio : Studio (TracedEngine σ)}

theorem perform_of_rest {command : Command} (sound : studio.recorder.Sound) {after : Recorder}
    (rests : studio.recorder.move command = .rest after) :
    (studio.perform command).engine = studio.engine ∧ (studio.perform command).recorder = after := by
  have follows := perform_follows studio sound command
  rw [rests] at follows
  exact ⟨follows.engine, follows.recorder⟩

theorem renews_of_starting (sound : studio.recorder.Sound) {command : Command} {chosen : Codecs}
    (starting : studio.recorder.move command =
      (studio.recorder.withCodecs chosen.1 chosen.2).starting) :
    studio.Renews (studio.perform command) chosen := by
  let told := studio.recorder.withCodecs chosen.1 chosen.2
  refine ⟨?_, ?_⟩
  · intro matching
    have rests : studio.recorder.move command = .rest told := by
      rw [starting, Recorder.starting]
      exact if_pos matching
    exact perform_of_rest sound rests
  · intro differs
    have renews : studio.recorder.move command = .renew told.planned told.attempting := by
      rw [starting]
      exact Recorder.starting_of_differs differs
    let before := studio.engine.engine
    let result := (Engine.build (Engine.afterAll before studio.recorder.closing) told.planned).1
    have asked := perform_transcript sound command
    rw [renews, Move.requests, Engine.exchanges_append] at asked
    have settled : (studio.perform command).recorder = told.attempting.launched told.planned result := by
      rw [(perform_follows studio sound command).recorder, renews, Move.outcome_traced]
      rfl
    refine ⟨Engine.exchanges before studio.recorder.closing, told.planned, result, asked,
      Engine.exchanges_requests _ _, rfl, ?_, ?_⟩
    · rw [settled, Recorder.launched_codecs]
      simp [Recorder.attempting, Recorder.codecs, told, Recorder.withCodecs]
    · have soundAfter := perform_sound sound command
      cases answer : result with
      | ok graph =>
          rw [answer] at settled
          exact ⟨by rw [settled]; rfl, by rw [settled]; rfl⟩
      | error fault =>
          have idle : (studio.perform command).recorder.session = none := by
            simp [settled, answer, Recorder.launched, Recorder.attempting]
          exact ⟨by simp [soundAfter.phase, idle], idle⟩

theorem yields_of_aac (sound : studio.recorder.Sound) :
    studio.Yields (studio.perform (.chooseAudio .aacEld))
      ((Choice.audio .aacEld).command.negotiate studio.recorder.config studio.recorder.codecs) := by
  obtain ⟨closes, rests⟩ := sound.move_aac
  refine ⟨fun lossy => perform_of_rest sound (rests lossy), ?_⟩
  intro lossless
  have asked := perform_transcript sound (.chooseAudio .aacEld)
  have settled := (perform_follows studio sound (.chooseAudio .aacEld)).recorder
  rw [closes lossless] at asked settled
  have soundAfter := perform_sound sound (.chooseAudio .aacEld)
  have idle : (studio.perform (.chooseAudio .aacEld)).recorder.session = none := by
    simp [settled, Move.outcome]
  refine ⟨_, asked, Engine.exchanges_requests _ _, ?_, by simp [soundAfter.phase, idle], idle⟩
  simp [settled, Move.outcome, Recorder.codecs, Recorder.withCodecs]

/-- A choice renews what is live at most once, and only if the live graph is not what it wants. -/
theorem choices_renew_once (config : Config) (engine : σ) (commands : List Command)
    (choice : Choice) :
    let studio := (Studio.ofConfig config ({ engine } : TracedEngine σ)).run commands
    let after := studio.perform choice.command
    let chosen := choice.command.negotiate config.effective studio.recorder.codecs
    (choice.Starts config.effective → studio.Renews after chosen) ∧
      (choice = .audio .aacEld → studio.Yields after chosen) ∧
      (∃ more, after.engine.transcript.toList = studio.engine.transcript.toList ++ more ∧
        (more.map Exchange.request).countP Request.isBuild ≤ 1 ∧
        (more.map Exchange.request).countP Request.isRelease ≤ 1) ∧
      (after.recorder.phase = .running →
        (after.perform choice.command).engine = after.engine ∧
          (after.perform choice.command).recorder = after.recorder) := by
  intro studio after chosen
  have sound : studio.recorder.Sound := run_sound (Recorder.ofConfig_sound config) commands
  have soundAfter : after.recorder.Sound := perform_sound sound choice.command
  have configured : studio.recorder.config = config.effective :=
    run_config (Recorder.ofConfig_sound config) commands
  have same : chosen = choice.command.negotiate studio.recorder.config studio.recorder.codecs := by
    rw [configured]
  refine ⟨?_, ?_, ?_, ?_⟩
  · intro starts
    rw [← configured] at starts
    rw [same]
    exact renews_of_starting sound (Recorder.move_of_starts starts)
  · rintro rfl
    rw [same]
    exact yields_of_aac sound
  · obtain ⟨builds, releases⟩ := (sound.move_admitted choice.command).asks_once
    refine ⟨_, perform_transcript sound choice.command, ?_⟩
    rw [Engine.exchanges_requests]
    exact ⟨builds, releases⟩
  · intro running
    have codecs : after.recorder.codecs = chosen := by
      rw [same, (perform_follows studio sound choice.command).recorder]
      exact sound.choice_codecs studio.engine choice
    have heard : choice.command.negotiate after.recorder.config after.recorder.codecs =
        after.recorder.codecs := by
      rw [perform_config sound, codecs, same]
      exact choice.negotiate_again _ _
    exact perform_of_rest soundAfter (soundAfter.move_of_heard running heard)

end Studio
end StreamRecorder
