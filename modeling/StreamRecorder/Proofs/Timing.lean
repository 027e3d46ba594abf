import StreamRecorder.Proofs.Delivery

namespace StreamRecorder

theorem Recorder.launched_timeline {before : Recorder} {plan : Plan}
    {result : Except SinkError GraphId} (idle : before.session = none) :
    ∀ session ∈ (before.launched plan result).session, session.timeline = {} := by
  cases result with
  | error fault => simp [launched, idle]
  | ok graph => rintro _ ⟨⟩; rfl

namespace DryRun

def delivered? (owned : Owned DryEngine) : Step Owned.Operation → Option Frame
  | .operate (.perform command) =>
      if owned.held && owned.studio.recorder.session.isSome then
        command.frame? owned.studio.recorder.config
      else none
  | .operate .destroy | .operate .drop | .schedule _ _ | .refuseNextBuild | .setCompletion _ => none

def deliveredTo (number : Nat) (owned : Owned DryEngine) (step : Step Owned.Operation) : List Frame :=
  if (memoryEngine owned).locations.length = number + 1 then (delivered? owned step).toList else []

def framesTo (number : Nat) (owned : Owned DryEngine) : List (Step Owned.Operation) → List Frame
  | [] => []
  | step :: steps => deliveredTo number owned step ++ framesTo number (advance owned step) steps

def suppliesStep (owned : Owned DryEngine) : Step Owned.Operation → Bool
  | .operate (.perform command) =>
      (delivered? owned (.operate (.perform command))).isNone ||
        command.isSupplied owned.studio.recorder
  | .operate .destroy | .operate .drop | .schedule _ _ | .refuseNextBuild | .setCompletion _ => true

def suppliesAll (owned : Owned DryEngine) : List (Step Owned.Operation) → Bool
  | [] => true
  | step :: steps => suppliesStep owned step && suppliesAll (advance owned step) steps

theorem locations_length {memory : MemoryEngine} {lives : List Life}
    (events : memory.events.toList = lives.flatMap Life.events) :
    memory.locations.length = lives.length := by
  rw [MemoryEngine.locations, events]
  clear events
  induction lives with
  | nil => rfl
  | cons life lives ih =>
      rw [List.flatMap_cons, List.filterMap_append, List.length_append, ih]
      cases ending : life.ending <;> simp [Life.events, ending, Ending.events, Nat.add_comm]

structure Paced (config : Config) (recorder : Recorder) (dry : DryEngine)
    (frames : Nat → List Frame) : Prop where
  accepts : ∀ fault, some fault ∉ dry.pushes
  carries : dry.engine.Carries recorder.session
  lives : ∃ closed opened transcript,
    Recounts config.flushTimeout closed opened recorder.session transcript ∧
    dry.engine.events.toList = transcript.filterMap Exchange.event? ∧
    Fed config.audioFormat (closed ++ opened.toList) frames ∧
    ∀ session ∈ recorder.session, session.timeline.Records (frames closed.length)

namespace Paced

variable {config : Config} {recorder : Recorder} {dry : DryEngine} {frames : Nat → List Frame}

theorem fresh (config : Config) :
    Paced config (.ofConfig config) { engine := {} } fun _ => [] where
  accepts := nofun
  carries := ⟨rfl, rfl, Nat.zero_le 1⟩
  lives := ⟨[], none, [], .start config.flushTimeout, rfl, ⟨nofun, fun _ _ => rfl⟩, nofun⟩

theorem script (paced : Paced config recorder dry frames) (step : Step Owned.Operation)
    (accepting : ∀ fault, step ≠ .schedule .push (some fault)) :
    Paced config recorder (step.adjust dry) frames := by
  refine ⟨?_, step.adjust_carries paced.carries, ?_⟩
  · intro fault pending
    rcases step.mem_adjust .push pending with earlier | rfl
    · exact paced.accepts fault earlier
    · exact accepting fault rfl
  · rw [(step.adjust_memory dry).1]
    exact paced.lives

theorem quiet (paced : Paced config recorder dry frames)
    (configured : recorder.config = config.effective) {move : Move}
    (admitted : recorder.Admits move) (unfed : move.isFeed = false) :
    Paced config (move.outcome dry recorder) (Engine.afterAll dry (move.requests recorder))
      frames := by
  obtain ⟨passage, carries⟩ := DryEngine.move_carries paced.carries admitted
  refine ⟨fun fault pending => paced.accepts fault (passage.pushes.subset pending), carries, ?_⟩
  obtain ⟨closed, opened, transcript, recounts, events, fed, records⟩ := paced.lives
  have told : (Engine.afterAll dry (move.requests recorder)).engine.events.toList =
      (transcript ++ Engine.exchanges dry (move.requests recorder)).filterMap
        Exchange.event? := by
    rw [passage.events, events, List.filterMap_append]
  have timeout : recorder.config.flushTimeout = config.flushTimeout := by
    rw [configured, config.effective_flushTimeout]
  cases admitted with
  | feed session timeline buffers live => cases unfed
  | rest video audio matching =>
      rw [Move.requests, Engine.exchanges_nil, List.append_nil] at told
      exact ⟨closed, opened, transcript, recounts, told, fed, records⟩
  | close video audio =>
      rw [← timeout] at recounts ⊢
      obtain ⟨ending, ended⟩ := recounts.closing dry
      have idle : (recorder.closed.withCodecs video audio).session = none := recorder.closed_session
      refine ⟨closed ++ opened.toList.map (Life.close ending), none, _, ?_, told, ?_, ?_⟩
      · rw [Move.outcome, idle]
        exact ended
      · simpa using fed.close ending
      · rw [Move.outcome, idle]
        simp
  | renew video audio active differs =>
      rw [← timeout] at recounts ⊢
      obtain ⟨ending, ended⟩ := recounts.closing dry
      let chosen := recorder.withCodecs video audio
      let torn := Engine.afterAll dry recorder.closing
      have idle : chosen.attempting.session = none := by simp [Recorder.attempting]
      have asked : Engine.exchanges dry (recorder.closing ++ [.build chosen.planned]) =
          Engine.exchanges dry recorder.closing ++
            [⟨.build chosen.planned, .built (Engine.build torn chosen.planned).1⟩] :=
        Engine.exchanges_append dry recorder.closing [.build chosen.planned]
      obtain ⟨opened', launched, blank⟩ := ended.launch idle chosen.planned _
      refine ⟨closed ++ opened.toList.map (Life.close ending), opened', _, ?_, told, ?_, ?_⟩
      · rw [Move.requests, asked, ← List.append_assoc]
        exact launched
      · exact (fed.close ending).launch blank
      · intro session live
        rw [(fed.close ending).unfed _ le_rfl, Recorder.launched_timeline idle session live]
        exact .start

theorem feed (paced : Paced config recorder dry frames) (sound : recorder.Sound)
    (configured : recorder.config = config.effective) {session : Session}
    (live : recorder.session = some session) {command : Command} {frame : Frame}
    (delivers : command.frame? recorder.config = some frame)
    (supplied : command.isSupplied recorder = true) {later : Nat → List Frame}
    (same : ∀ number, dry.engine.locations.length ≠ number + 1 → later number = frames number)
    (grown : ∀ number, dry.engine.locations.length = number + 1 →
      later number = frames number ++ [frame]) :
    Paced config ((recorder.move command).outcome dry recorder)
      (Engine.afterAll dry ((recorder.move command).requests recorder)) later := by
  obtain ⟨closed, opened, transcript, recounts, events, fed, records⟩ := paced.lives
  obtain ⟨timeline, known, member, moved⟩ :=
    sound.move_of_frame live delivers supplied (records session live)
  rw [live] at recounts
  obtain _ | life := opened
  · cases recounts.live
  · have count : dry.engine.locations.length = closed.length + 1 := by
      rw [locations_length (events.trans (events_of_lives recounts.told))]
      simp
    have layout : life.plan.layout = session.layout := by
      cases recounts.live with
      | some feeds => exact feeds.layout
    let buffers := (Track.gapBefore session.layout (frames closed.length) frame).toList.map
        (Track.silence recorder.config.audioFormat) ++
      [Track.placed (Track.origin (frames closed.length ++ [frame])) frame]
    -- Silence only ever goes before audio, so it needs no endpoint that the frame does not.
    have members : ∀ entry ∈ buffers, entry.1 ∈ session.layout.endpoints := by
      intro entry listed
      rcases List.mem_append.mp listed with silent | last
      · obtain ⟨gap, filled, rfl⟩ := List.mem_map.mp silent
        rwa [Track.endpoint_of_gapBefore (Option.mem_toList.mp filled)] at member
      · rwa [List.mem_singleton.mp last]
    have admitted : recorder.Admits (recorder.feeding session timeline buffers) :=
      .feed session timeline buffers live
    obtain ⟨passage, carries⟩ := DryEngine.move_carries paced.carries admitted
    have exchanged := DryEngine.exchanges_pushes_accepted (live ▸ paced.carries) paced.accepts
      buffers members
    let pushes : List ((Endpoint × Buffer) × Except SinkError Unit) :=
      buffers.map fun entry => (entry, .ok ())
    have format : recorder.config.audioFormat = config.audioFormat := by
      rw [configured, config.effective_audioFormat]
    rw [moved]
    refine ⟨fun fault pending => paced.accepts fault (passage.pushes.subset pending), carries,
      closed, some { life with pushes := life.pushes ++ pushes }, _, recounts.feed timeline pushes,
      ?_, ?_, ?_⟩
    · rw [List.filterMap_append, ← events, ← exchanged]
      exact passage.events
    · refine fed.feed (fun number other => same number (by omega)) (grown closed.length count) ?_
      rw [accepted_of_ok, layout, ← format]
    · rintro _ ⟨⟩
      rw [grown closed.length count]
      exact known

theorem proceed {owned : Owned DryEngine}
    (paced : Paced config owned.studio.recorder owned.studio.engine frames)
    (sound : owned.studio.recorder.Sound)
    (configured : owned.studio.recorder.config = config.effective) {step : Step Owned.Operation}
    (accepting : ∀ fault, step ≠ .schedule .push (some fault))
    (supplied : suppliesStep owned step = true) :
    Paced config (owned.proceed step).studio.recorder (owned.proceed step).studio.engine
      fun number => frames number ++ deliveredTo number owned step := by
  have still (nothing : delivered? owned step = none) :
      (fun number => frames number ++ deliveredTo number owned step) = frames := by
    funext number
    simp [deliveredTo, nothing]
  cases owned.proceed_turn sound step with
  | scripted _ script recorder engine held =>
      have nothing : delivered? owned step = none := by
        cases step with
        | operate operation => exact absurd rfl (script operation)
        | schedule site entry => rfl
        | refuseNextBuild => rfl
        | setCompletion completion => rfl
      rw [still nothing, recorder, engine]
      exact paced.script step accepting
  | gone operation released same =>
      have nothing : delivered? owned (.operate operation) = none := by
        cases operation with
        | perform command => simp [delivered?, released]
        | destroy => rfl
        | drop => rfl
      rw [still nothing, same]
      exact paced
  | moved operation holding follows held =>
      have admitted := operation.admitted sound
      rw [follows.recorder, follows.engine]
      cases operation with
      | destroy =>
          rw [still rfl]
          have unfed : (owned.studio.recorder.move .stop).isFeed = false :=
            Recorder.move_isFeed_of_no_frame rfl
          exact paced.quiet configured admitted unfed
      | drop =>
          rw [still rfl]
          exact paced.quiet configured admitted rfl
      | perform command =>
          cases live : owned.studio.recorder.session with
          | none =>
              rw [still (by simp [delivered?, live])]
              exact paced.quiet configured admitted (Recorder.move_isFeed_of_idle live)
          | some session =>
              cases delivers : command.frame? owned.studio.recorder.config with
              | none =>
                  rw [still (by simp [delivered?, delivers])]
                  exact paced.quiet configured admitted (Recorder.move_isFeed_of_no_frame delivers)
              | some frame =>
                  have something : delivered? owned (.operate (.perform command)) = some frame := by
                    simp [delivered?, holding, live, delivers]
                  have fits : command.isSupplied owned.studio.recorder = true := by
                    simpa [suppliesStep, something] using supplied
                  refine paced.feed sound configured live delivers fits ?_ ?_
                  · intro number other
                    simp [deliveredTo, memoryEngine, Holding.studio, other]
                  · intro number current
                    simp [deliveredTo, memoryEngine, Holding.studio, current, something]

theorem run {owned : Owned DryEngine}
    (paced : Paced config owned.studio.recorder owned.studio.engine frames)
    (sound : owned.studio.recorder.Sound)
    (configured : owned.studio.recorder.config = config.effective)
    (steps : List (Step Owned.Operation))
    (accepting : ∀ fault, .schedule .push (some fault) ∉ steps)
    (supplied : suppliesAll owned steps = true) :
    let last := (DryRun.run owned steps).2
    Paced config last.studio.recorder last.studio.engine
      fun number => frames number ++ framesTo number owned steps := by
  rw [run_last]
  -- The frames so far vary: each step adds to those of the live graph what it delivers.
  induction steps generalizing owned frames with
  | nil => simpa [framesTo] using paced
  | cons step steps ih =>
      rw [suppliesAll, Bool.and_eq_true, advance_eq_proceed] at supplied
      have accepted : ∀ fault, step ≠ .schedule .push (some fault) := by
        rintro fault rfl
        exact accepting fault List.mem_cons_self
      have next := paced.proceed sound configured accepted supplied.1
      have turn := owned.proceed_turn sound step
      have rest := ih next (turn.sound sound) ((turn.config sound).trans configured)
        (fun fault later => accepting fault (List.mem_cons_of_mem _ later)) supplied.2
      simpa [framesTo, advance_eq_proceed] using rest

end Paced

/-- Each graph got the track of its frames, and filled the gap in front of its audio exactly. -/
theorem lives_are_tracks (config : Config) (steps : List (Step Owned.Operation))
    (accepting : ∀ fault, .schedule .push (some fault) ∉ steps)
    (supplied : suppliesAll (fresh config) steps = true) :
    ∃ lives : List Life,
      (memoryEngine (run (fresh config) steps).2).events.toList = lives.flatMap Life.events ∧
      ∀ number life, lives[number]? = some life →
        let frames := framesTo number (fresh config) steps
        let start := Track.origin frames
        let pushed := accepted life.pushes
        pushed = Track.buffers config.audioFormat life.plan.layout frames ∧
        pushed.filter (·.2.duration.isSome) = (Track.gap? life.plan.layout frames).toList.map
          (Track.silence config.audioFormat) ∧
        ∀ gap ∈ Track.gap? life.plan.layout frames, ∃ early audio late,
          frames = early ++ audio :: late ∧
          (∀ frame ∈ early, frame.endpoint = .video) ∧ audio.endpoint = .audio ∧
          pushed = early.map (Track.placed start) ++ Track.silence config.audioFormat gap ::
            Track.placed start audio :: late.map (Track.placed start) ∧
          gap = (Track.placed start audio).2.presentation := by
  have paced := (Paced.fresh config).run (Recorder.ofConfig_sound config) rfl steps accepting supplied
  obtain ⟨closed, opened, transcript, recounts, events, fed, -⟩ := paced.lives
  refine ⟨closed ++ opened.toList, events.trans (events_of_lives recounts.told), ?_⟩
  intro number life found frames start pushed
  have track : pushed = Track.buffers config.audioFormat life.plan.layout frames :=
    fed.tracks number life found
  rw [track]
  exact ⟨rfl, Track.filter_duration _ _ _, fun gap filled => Track.buffers_of_gap filled⟩

theorem lives_are_tracks_after_codec_change :
    let steps : List (Step Owned.Operation) :=
      [.operate (.perform (.chooseVideo false)),
        .operate (.perform (.pushVideo #[1] 5000000000 .whole)),
        .operate (.perform (.pushAudio #[2] 5001000000 .whole)),
        .operate (.perform (.chooseVideo true)),
        .operate (.perform (.pushAudio #[3] 5002000000 .whole)),
        .operate (.perform (.pushVideo #[4] 5001500000 .whole))]
    (∀ fault, .schedule .push (some fault) ∉ steps) ∧ suppliesAll (fresh {}) steps = true ∧
      ∃ lives : List Life,
        (memoryEngine (run (fresh {}) steps).2).events.toList = lives.flatMap Life.events ∧
        ∀ number life, lives[number]? = some life →
          accepted life.pushes =
            Track.buffers {} life.plan.layout (framesTo number (fresh {}) steps) := by
  intro steps
  have accepting : ∀ fault, .schedule .push (some fault) ∉ steps := by simp [steps]
  have supplied : suppliesAll (fresh {}) steps = true := by decide +kernel
  obtain ⟨lives, events, tracks⟩ := lives_are_tracks {} steps accepting supplied
  exact ⟨accepting, supplied, lives, events, fun number life found => (tracks number life found).1⟩

end DryRun
end StreamRecorder
