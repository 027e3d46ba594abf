import StreamRecorder.Proofs.Rehearsal

/-!
# Media that are not recorded

What a recorder keeps of a video codec that it does not record is the codec itself and one notice.
`Studio.veiled` hides these two, and all that a studio can do is done alike under the veil.
-/

namespace StreamRecorder

/-! ## Operations that might be left out -/

def Command.isAudio : Command → Bool
  | .chooseAudio _ | .pushAudio _ _ _ => true
  | .chooseVideo _ | .pushVideo _ _ _ | .stop => false

def Command.isVideoFrame : Command → Bool
  | .pushVideo _ _ _ => true
  | .chooseAudio _ | .chooseVideo _ | .pushAudio _ _ _ | .stop => false

def Owned.Operation.commands (test : Command → Bool) : Owned.Operation → Bool
  | .perform command => test command
  | .destroy | .drop => false

namespace Studio

variable {σ : Type} [Engine σ] {studio : Studio σ}

theorem perform_of_isAudio (disabled : studio.recorder.config.audioEnabled = false)
    {command : Command} (audio : command.isAudio = true) : studio.perform command = studio := by
  cases command with
  | chooseAudio codec => simp [perform, chooseAudio, disabled]
  | pushAudio data timestamp memory => simp [perform, pushAudio, disabled]
  | chooseVideo hevc => cases audio
  | pushVideo data timestamp memory => cases audio
  | stop => cases audio

theorem perform_of_isVideoFrame (disabled : studio.recorder.config.videoEnabled = false)
    {command : Command} (frame : command.isVideoFrame = true) :
    studio.perform command = studio := by
  cases command with
  | pushVideo data timestamp memory => simp [perform, pushVideo, disabled]
  | chooseAudio codec => cases frame
  | pushAudio data timestamp memory => cases frame
  | chooseVideo hevc => cases frame
  | stop => cases frame

theorem perform_of_inactive (inactive : studio.recorder.config.isActive = false)
    (idle : studio.recorder.session = none) (command : Command) :
    studio.perform command = studio := by
  have disabled := Bool.or_eq_false_iff.mp inactive
  cases command with
  | chooseAudio codec => exact perform_of_isAudio disabled.1 rfl
  | pushAudio data timestamp memory => exact perform_of_isAudio disabled.1 rfl
  | pushVideo data timestamp memory => exact perform_of_isVideoFrame disabled.2 rfl
  | chooseVideo hevc => simp [perform, chooseVideo, inactive]
  | stop => exact stop_of_idle idle

end Studio

namespace Config

theorem effective_audioEnabled {config : Config} (disabled : config.audioEnabled = false) :
    config.effective.audioEnabled = false := by
  unfold effective
  split
  · exact disabled
  · rfl

theorem effective_videoEnabled {config : Config} (disabled : config.videoEnabled = false) :
    config.effective.videoEnabled = false := by
  unfold effective
  split
  · exact disabled
  · rfl

theorem effective_isActive {config : Config}
    (nothing : config.isActive = false ∨ config.validate ≠ .ok ()) :
    config.effective.isActive = false := by
  unfold effective
  split
  · rename_i valid
    exact nothing.resolve_right (not_not_intro valid)
  · rfl

end Config

namespace Owned

variable {σ : Type} [Engine σ]

theorem operate_of_commands {owned : Owned σ} {test : Command → Bool}
    (ignored : ∀ command, test command = true → owned.studio.perform command = owned.studio)
    {operation : Operation} (member : operation.commands test = true) :
    owned.operate operation = owned := by
  cases operation with
  | perform command =>
      cases holding : owned.held with
      | false => exact operate_of_gone holding _
      | true =>
          rw [operate, step?, if_pos holding, Option.getD_some, ignored command member]
  | destroy => cases member
  | drop => cases member

theorem course_filter (config : Config) (engine : σ) {test : Command → Bool}
    (ignored : ∀ studio : Studio (TracedEngine σ), studio.recorder.config = config.effective →
      ∀ command, test command = true → studio.perform command = studio)
    (operations : List Operation) :
    course config engine (operations.filter fun operation => !operation.commands test) =
      course config engine operations := by
  induction operations using List.reverseRecOn with
  | nil => rfl
  | append_singleton operations operation ih =>
      have configured := (course_sound config engine operations).2
      rw [List.filter_append, course_concat]
      cases left : operation.commands test with
      | true =>
          rw [List.filter_singleton, left, operate_of_commands (ignored _ configured) left]
          simpa using ih
      | false =>
          rw [List.filter_singleton, left, ← ih]
          exact course_concat _ _ _ _

end Owned

/-! ## The veil -/

def Notice.veiled : Notice → Notice
  | .videoCodecChosen _ => .videoCodecChosen false
  | notice => notice

def Command.veiled : Command → Command
  | .chooseVideo _ => .chooseVideo false
  | command => command

def Owned.Operation.veiled : Owned.Operation → Owned.Operation
  | .perform command => .perform command.veiled
  | operation => operation

def Recorder.veiled (recorder : Recorder) : Recorder :=
  recorder.withCodecs .h264 recorder.audioCodec

@[simp] theorem Recorder.veiled_config (recorder : Recorder) :
    recorder.veiled.config = recorder.config := rfl

@[simp] theorem Recorder.veiled_session (recorder : Recorder) :
    recorder.veiled.session = recorder.session := rfl

@[simp] theorem Recorder.veiled_layout (recorder : Recorder) :
    recorder.veiled.layout = recorder.layout := rfl

@[simp] theorem Recorder.veiled_counter (recorder : Recorder) :
    recorder.veiled.counter = recorder.counter := rfl

theorem Recorder.veiled_desiredLayout {recorder : Recorder}
    (disabled : recorder.config.videoEnabled = false) :
    recorder.veiled.desiredLayout = recorder.desiredLayout := by
  rw [veiled, withCodecs_desiredLayout, desiredLayout, disabled]
  rfl

namespace Studio

variable {σ : Type}

def veiled (studio : Studio σ) : Studio σ :=
  { studio with recorder := studio.recorder.veiled, log := studio.log.map Notice.veiled }

variable (studio : Studio σ)

@[simp] theorem veiled_engine : studio.veiled.engine = studio.engine := rfl

@[simp] theorem veiled_recorder : studio.veiled.recorder = studio.recorder.veiled := rfl

theorem veiled_note (notice : Notice) :
    (studio.note notice).veiled = studio.veiled.note notice.veiled := by
  simp [veiled, note]

theorem veiled_noteAll {notices : List Notice}
    (plain : ∀ notice ∈ notices, notice.veiled = notice) :
    (studio.noteAll notices).veiled = studio.veiled.noteAll notices := by
  induction notices generalizing studio with
  | nil => rfl
  | cons notice notices ih =>
      obtain ⟨head, tail⟩ := List.forall_mem_cons.mp plain
      have rest := ih (studio.note notice) tail
      rwa [veiled_note, head] at rest

theorem veiled_advance (session : Session) (timeline : Timeline) (timestamp : UInt64) :
    (studio.advance session timeline timestamp).veiled =
      studio.veiled.advance session timeline timestamp := by
  refine veiled_noteAll _ ?_
  intro notice member
  obtain ⟨origin, -, rfl⟩ := List.mem_map.mp member
  rfl

variable [Engine σ]

theorem veiled_endStream (graph : GraphId) (endpoint : Endpoint) :
    (studio.endStream graph endpoint).veiled = studio.veiled.endStream graph endpoint := by
  unfold endStream
  rw [veiled_engine]
  cases Engine.endOfStream studio.engine graph endpoint with
  | mk answer engine =>
      cases answer with
      | ok _ => rfl
      | error fault => exact veiled_note _ _

theorem veiled_endStreams (session : Session) :
    (studio.endStreams session).veiled = studio.veiled.endStreams session := by
  unfold endStreams
  induction session.layout.endpoints generalizing studio with
  | nil => rfl
  | cons endpoint endpoints ih =>
      rw [List.foldl_cons, List.foldl_cons, ih, veiled_endStream]

theorem veiled_awaitDrain (session : Session) :
    (studio.awaitDrain session).veiled = studio.veiled.awaitDrain session := by
  have plain (timeout : UInt64) (completion : Completion) :
      (drainNotice timeout completion).veiled = drainNotice timeout completion := by
    cases completion <;> rfl
  unfold awaitDrain
  refine (veiled_note _ _).trans ?_
  rw [plain]
  rfl

theorem veiled_close (session : Session) :
    (studio.close session).veiled = studio.veiled.close session :=
  veiled_note _ _

theorem veiled_teardown : studio.teardown.veiled = studio.veiled.teardown := by
  unfold teardown
  rw [veiled_recorder, Recorder.veiled_session]
  cases studio.recorder.session with
  | none => rfl
  | some session =>
      simp only [veiled_close, veiled_awaitDrain, veiled_endStreams]
      rfl

theorem veiled_launch (plan : Plan) : (studio.launch plan).veiled = studio.veiled.launch plan := by
  unfold launch
  rw [veiled_engine]
  cases Engine.build studio.engine plan with
  | mk answer engine => cases answer <;> exact veiled_note _ _

theorem veiled_build (layout : Layout) :
    (studio.build layout).veiled = studio.veiled.build layout := by
  unfold build
  simp only [veiled_recorder, Recorder.veiled_config, Recorder.veiled_counter]
  generalize OutputPath.text studio.recorder.config.outputTemplate (studio.recorder.counter + 1)
    layout = location
  cases Plan.ofLayout layout studio.recorder.config.audioFormat location with
  | error fault => exact veiled_note _ _
  | ok plan =>
      simp only [veiled_launch, veiled_note]
      rfl

theorem veiled_start (disabled : studio.recorder.config.videoEnabled = false) :
    studio.start.veiled = studio.veiled.start := by
  unfold start
  simp only [veiled_recorder, Recorder.veiled_layout, Recorder.veiled_desiredLayout disabled]
  split
  · exact veiled_note _ _
  · rw [veiled_build, veiled_teardown]

theorem veiled_adoptAudio (codec : AudioCodec) :
    (studio.adoptAudio codec).veiled = studio.veiled.adoptAudio codec := by
  let chosen : Studio σ := { studio with recorder.audioCodec := codec }
  unfold adoptAudio
  change Studio.veiled (if chosen.recorder.carriesOtherAudio codec then _ else chosen) =
    if chosen.recorder.carriesOtherAudio codec then _ else _
  split
  · rw [veiled_teardown, veiled_note]
    rfl
  · rfl

theorem veiled_chooseAudio (disabled : studio.recorder.config.videoEnabled = false)
    (codec : AudioCodec) :
    (studio.chooseAudio codec).veiled = studio.veiled.chooseAudio codec := by
  unfold chooseAudio
  rw [veiled_recorder, Recorder.veiled_config, ← veiled_adoptAudio]
  split
  · rfl
  · cases codec with
    | aacEld => rfl
    | alac => exact veiled_start _ (by rw [adoptAudio_config, disabled])

/-- What is chosen for video shows in the codec and in the notice of it, and nowhere else. -/
theorem veiled_chooseVideo (disabled : studio.recorder.config.videoEnabled = false) (hevc : Bool) :
    (studio.chooseVideo hevc).veiled = studio.veiled.chooseVideo false := by
  have adopted (studio : Studio σ) (disabled : studio.recorder.config.videoEnabled = false)
      (codec : VideoCodec) :
      studio.adoptVideo codec = { studio with recorder.videoCodec := codec } := by
    simp [adoptVideo, disabled]
  let chosen : Studio σ := { studio with recorder.videoCodec := VideoCodec.ofHevc hevc }
  unfold chooseVideo
  rw [veiled_recorder, Recorder.veiled_config, adopted studio disabled,
    adopted studio.veiled disabled]
  split
  · rfl
  · have started := veiled_start (chosen.note (.videoCodecChosen hevc)) disabled
    rwa [veiled_note] at started

/-! ## Frames under the veil -/

theorem veiled_pushFrame (graph : GraphId) (endpoint : Endpoint) (buffer : Buffer) :
    (studio.pushFrame graph endpoint buffer).veiled =
      studio.veiled.pushFrame graph endpoint buffer := by
  unfold pushFrame
  rw [veiled_engine]
  cases Engine.push studio.engine graph endpoint buffer with
  | mk answer engine =>
      cases answer with
      | ok _ => rfl
      | error fault => exact veiled_note _ _

theorem veiled_pushSilence (memory : Memory) (graph : GraphId) (gap : UInt64) :
    (studio.pushSilence memory graph gap).veiled = studio.veiled.pushSilence memory graph gap := by
  unfold pushSilence
  rw [veiled_engine, veiled_recorder, Recorder.veiled_config]
  cases Silence.buffer memory.silence gap studio.recorder.config.audioFormat with
  | error fault => exact veiled_note _ _
  | ok silence =>
      dsimp only
      cases Engine.push studio.engine graph .audio silence with
      | mk answer engine => cases answer <;> exact veiled_note _ _

theorem veiled_pushAudio (memory : Memory) (data : Payload) (timestamp : UInt64) :
    (studio.pushAudio memory data timestamp).veiled =
      studio.veiled.pushAudio memory data timestamp := by
  unfold pushAudio
  rw [veiled_recorder, Recorder.veiled_config, Recorder.veiled_session]
  split
  · rfl
  · cases studio.recorder.session with
    | none => rfl
    | some session =>
        cases Buffer.copy memory.frame data with
        | error fault =>
            dsimp only
            split
            · rfl
            · exact veiled_note _ _
        | ok buffer =>
            dsimp only
            split
            · rfl
            · rw [veiled_pushFrame]
              cases (session.timeline.stampAudio timestamp session.layout.hasVideo).1.silence with
              | none => simp only [veiled_advance]
              | some gap => simp only [veiled_pushSilence, veiled_advance]

theorem veiled_stop : studio.stop.veiled = studio.veiled.stop := by
  unfold stop
  rw [veiled_recorder, Recorder.veiled_session]
  cases studio.recorder.session with
  | none => rfl
  | some session =>
      rw [← veiled_teardown]
      rfl

theorem veiled_destroy : studio.destroy.veiled = studio.veiled.destroy := by
  unfold destroy
  rw [veiled_teardown, veiled_note, veiled_stop]
  rfl

theorem veiled_perform (disabled : studio.recorder.config.videoEnabled = false)
    (command : Command) :
    (studio.perform command).veiled = studio.veiled.perform command.veiled := by
  cases command with
  | chooseAudio codec => exact veiled_chooseAudio studio disabled codec
  | chooseVideo hevc => exact veiled_chooseVideo studio disabled hevc
  | pushVideo data timestamp memory =>
      have still : studio.veiled.recorder.config.videoEnabled = false := disabled
      rw [perform_of_isVideoFrame disabled rfl, perform_of_isVideoFrame still rfl]
  | pushAudio data timestamp memory => exact veiled_pushAudio studio memory data timestamp
  | stop => exact veiled_stop studio

end Studio

namespace Owned

variable {σ : Type}

def veiled (owned : Owned σ) : Owned σ :=
  { owned with studio := owned.studio.veiled }

variable [Engine σ]

theorem veiled_operate {owned : Owned σ}
    (disabled : owned.studio.recorder.config.videoEnabled = false) (operation : Operation) :
    (owned.operate operation).veiled = owned.veiled.operate operation.veiled := by
  cases holding : owned.held with
  | false =>
      have released : owned.veiled.held = false := holding
      rw [operate_of_gone holding, operate_of_gone released]
  | true =>
      have still : owned.veiled.held = true := holding
      simp only [operate, step?, if_pos holding, if_pos still]
      cases operation with
      | perform command =>
          exact congrArg (fun studio => { owned with studio })
            (Studio.veiled_perform owned.studio disabled command)
      | destroy => exact congrArg (Owned.mk · false) owned.studio.veiled_destroy
      | drop => exact congrArg (Owned.mk · false) owned.studio.veiled_teardown

theorem veiled_course {config : Config} (disabled : config.videoEnabled = false) (engine : σ)
    (operations : List Operation) : (course config engine operations).veiled =
      (operations.map Operation.veiled).foldl operate (course config engine []).veiled := by
  induction operations using List.reverseRecOn with
  | nil => rfl
  | append_singleton operations operation ih =>
      have configured := (course_sound config engine operations).2
      have effective := Config.effective_videoEnabled disabled
      rw [course_concat, veiled_operate (by rw [configured, effective]), ih, List.map_append,
        List.foldl_append]
      rfl

/-! ## Nothing to record -/

structure Inert (config : Config) (engine : σ) (operations : List Operation)
    (owned : Owned (TracedEngine σ)) : Prop where
  recorder : owned.studio.recorder = .ofConfig config
  engine : owned.studio.engine = { engine }
  log : owned.studio.log.toList = Studio.openingNotices config ∨
    owned.held = false ∧ .destroy ∈ operations ∧
      owned.studio.log.toList = Studio.openingNotices config ++ [.destroyed]

theorem course_inert {config : Config} (inactive : config.effective.isActive = false) (engine : σ)
    (operations : List Operation) :
    Inert config engine operations (course config engine operations) := by
  induction operations using List.reverseRecOn with
  | nil => exact ⟨rfl, rfl, .inl rfl⟩
  | append_singleton operations operation ih =>
      rw [course_concat]
      obtain ⟨recorder, unasked, log⟩ := ih
      generalize course config engine operations = owned at recorder unasked log
      cases holding : owned.held with
      | false =>
          rw [operate_of_gone holding]
          refine ⟨recorder, unasked, log.imp_right ?_⟩
          rintro ⟨gone, destroyed, said⟩
          exact ⟨gone, List.mem_append_left _ destroyed, said⟩
      | true =>
          have idle : owned.studio.recorder.session = none := by rw [recorder]; rfl
          have said : owned.studio.log.toList = Studio.openingNotices config := by
            simpa [holding] using log
          cases operation with
          | perform command =>
              have nothing : owned.studio.recorder.config.isActive = false := by
                rw [recorder]
                exact inactive
              have same := Studio.perform_of_inactive nothing idle command
              have ignored : owned.operate (.perform command) = owned := by
                rw [operate, step?, if_pos holding, Option.getD_some, same]
              rw [ignored]
              exact ⟨recorder, unasked, .inl said⟩
          | destroy =>
              have destroyed : owned.operate .destroy =
                  { studio := owned.studio.note .destroyed, held := false } := by
                simp [operate, step?, holding, Studio.destroy, Studio.stop_of_idle idle,
                  Studio.teardown, idle]
              rw [destroyed]
              refine ⟨recorder, unasked, .inr ⟨rfl, List.mem_append_right _ (.head _), ?_⟩⟩
              simp [Studio.note, said]
          | drop =>
              have dropped : owned.operate .drop = { studio := owned.studio, held := false } := by
                simp [operate, step?, holding, drop, Studio.teardown, idle]
              rw [dropped]
              exact ⟨recorder, unasked, .inl said⟩

/-- A medium that is not recorded cannot be told from one that the sender leaves out, and a recorder
with nothing to record does nothing. -/
theorem course_of_unrecorded (config : Config) (engine : σ) (operations : List Operation) :
    (config.audioEnabled = false →
      course config engine
          (operations.filter fun operation => !operation.commands Command.isAudio) =
        course config engine operations) ∧
      (config.videoEnabled = false →
        course config engine
            (operations.filter fun operation => !operation.commands Command.isVideoFrame) =
          course config engine operations ∧
        ∀ others : List Operation, others.map Operation.veiled = operations.map Operation.veiled →
          (course config engine others).veiled = (course config engine operations).veiled) ∧
      (config.isActive = false ∨ config.validate ≠ .ok () →
        let last := course config engine operations
        last.studio.recorder = .ofConfig config ∧ last.studio.engine = { engine } ∧
          ∃ farewell : List Notice,
            last.studio.log.toList = Studio.openingNotices config ++ farewell ∧
              (farewell = [] ∨ farewell = [.destroyed] ∧ .destroy ∈ operations)) := by
  refine ⟨?_, ?_, ?_⟩
  · intro disabled
    refine course_filter config engine ?_ operations
    intro studio configured command audio
    have effective := Config.effective_audioEnabled disabled
    exact Studio.perform_of_isAudio (by rw [configured, effective]) audio
  · intro disabled
    refine ⟨course_filter config engine ?_ operations, ?_⟩
    · intro studio configured command frame
      have effective := Config.effective_videoEnabled disabled
      exact Studio.perform_of_isVideoFrame (by rw [configured, effective]) frame
    · intro others alike
      rw [veiled_course disabled engine others, veiled_course disabled engine operations, alike]
  · intro nothing last
    obtain ⟨recorder, unasked, log⟩ :=
      course_inert (Config.effective_isActive nothing) engine operations
    refine ⟨recorder, unasked, ?_⟩
    rcases log with said | ⟨-, destroyed, said⟩
    · exact ⟨[], by rw [List.append_nil, said], .inl rfl⟩
    · exact ⟨[.destroyed], said, .inr ⟨rfl, destroyed⟩⟩

theorem course_of_unrecorded_lossless_and_hevc :
    let engine : DryEngine := { engine := {} }
    let silent : Config := { audioEnabled := false }
    let blind : Config := { videoEnabled := false }
    let operations : List Operation :=
      [.perform (.chooseAudio .alac), .perform (.chooseVideo true),
        .perform (.pushAudio #[1] 5000000000 .whole), .perform (.pushVideo #[2] 5000000000 .whole),
        .perform (.chooseVideo false), .destroy]
    let others : List Operation :=
      [.perform (.chooseAudio .alac), .perform (.chooseVideo false),
        .perform (.pushAudio #[1] 5000000000 .whole), .perform (.pushVideo #[2] 5000000000 .whole),
        .perform (.chooseVideo true), .destroy]
    silent.audioEnabled = false ∧ blind.videoEnabled = false ∧
      course silent engine
          [.perform (.chooseVideo true), .perform (.pushVideo #[2] 5000000000 .whole),
            .perform (.chooseVideo false), .destroy] = course silent engine operations ∧
      (course blind engine others).veiled = (course blind engine operations).veiled ∧
      (buildAnswers (exchanged silent engine operations)).length = 2 ∧
      (buildAnswers (exchanged blind engine operations)).length = 1 := by
  intro engine silent blind operations others
  have audio := (course_of_unrecorded silent engine operations).1 rfl
  have video := (course_of_unrecorded blind engine operations).2.1 rfl
  exact ⟨rfl, rfl, audio, video.2 others rfl, by decide +kernel, by decide +kernel⟩

end Owned
end StreamRecorder
