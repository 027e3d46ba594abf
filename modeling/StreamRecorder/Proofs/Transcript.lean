import StreamRecorder.Proofs.DryEngine

namespace StreamRecorder

def DryRun.Step.adjust {op : Type} : DryRun.Step op → DryEngine → DryEngine
  | .schedule site entry, dry => dry.schedule entry site
  | .refuseNextBuild, dry => dry.mapEngine MemoryEngine.refuseNextBuild
  | .setCompletion completion, dry => dry.mapEngine (MemoryEngine.setCompletion · completion)
  | .operate _, dry => dry

def FaultyEngine.scriptOf {σ : Type} (faulty : FaultyEngine σ) : Site → FaultScript
  | .build => faulty.builds
  | .push => faulty.pushes
  | .endOfStream => faulty.endings

namespace DryRun.Step

variable {op : Type}

theorem adjust_memory (step : DryRun.Step op) (dry : DryEngine) :
    (step.adjust dry).engine.events = dry.engine.events ∧
      (step.adjust dry).engine.counts = dry.engine.counts ∧
      (step.adjust dry).engine.graphs = dry.engine.graphs := by
  cases step with
  | schedule site entry => cases site <;> exact ⟨rfl, rfl, rfl⟩
  | refuseNextBuild => exact ⟨rfl, rfl, rfl⟩
  | setCompletion completion => exact ⟨rfl, rfl, rfl⟩
  | operate operation => exact ⟨rfl, rfl, rfl⟩

theorem adjust_carries (step : DryRun.Step op) {dry : DryEngine} {session : Option Session}
    (carries : dry.engine.Carries session) : (step.adjust dry).engine.Carries session := by
  obtain ⟨-, counts, graphs⟩ := step.adjust_memory dry
  exact ⟨graphs.trans carries.graphs, counts ▸ carries.live, counts ▸ carries.alone⟩

theorem adjust_numbered (step : DryRun.Step op) {dry : DryEngine} (numbered : dry.engine.Numbered) :
    (step.adjust dry).engine.Numbered := by
  obtain ⟨events, counts, -⟩ := step.adjust_memory dry
  obtain ⟨count, built, graphs⟩ := numbered
  exact ⟨count, by rw [counts, built], by rw [events, graphs]⟩

theorem mem_adjust (step : DryRun.Step op) (site : FaultyEngine.Site) {dry : DryEngine}
    {fault : SinkError} (pending : some fault ∈ (step.adjust dry).scriptOf site) :
    some fault ∈ dry.scriptOf site ∨ step = .schedule site (some fault) := by
  cases step with
  | schedule place entry =>
      have old (other : site ≠ place) : some fault ∈ dry.scriptOf site := by
        cases place <;> cases site <;> first | exact absurd rfl other | exact pending
      by_cases same : site = place
      · subst same
        have appended : (dry.schedule entry site).scriptOf site = dry.scriptOf site ++ [entry] := by
          cases site <;> rfl
        rw [adjust, appended, List.mem_append, List.mem_singleton] at pending
        rcases pending with earlier | rfl
        · exact .inl earlier
        · exact .inr rfl
      · exact .inl (old same)
  | refuseNextBuild => cases site <;> exact .inl pending
  | setCompletion completion => cases site <;> exact .inl pending
  | operate operation => exact .inl pending

end DryRun.Step

class Scripted (σ : Type) where
  rescript : (DryEngine → DryEngine) → σ → σ

instance : Scripted DryEngine where
  rescript f dry := f dry

instance : Scripted (TracedEngine DryEngine) where
  rescript f traced := { traced with engine := f traced.engine }

namespace Owned

def Operation.move (recorder : Recorder) : Operation → Move
  | .perform command => recorder.move command
  | .destroy => recorder.move .stop
  | .drop => .close recorder.closed

def Operation.keeps : Operation → Bool
  | .perform _ => true
  | .destroy | .drop => false

theorem Operation.admitted {recorder : Recorder} (sound : recorder.Sound) (operation : Operation) :
    recorder.Admits (operation.move recorder) := by
  cases operation with
  | perform command => exact sound.move_admitted command
  | destroy => exact sound.move_admitted .stop
  | drop =>
      have unchanged : recorder.closed.withCodecs recorder.videoCodec recorder.audioCodec =
          recorder.closed := by
        rw [← recorder.closed_videoCodec, ← recorder.closed_audioCodec]
        rfl
      have closing : recorder.Admits
          (.close (recorder.closed.withCodecs recorder.videoCodec recorder.audioCodec)) := .close _ _
      rwa [unchanged] at closing

theorem Operation.outcome_idle {σ : Type} [Engine σ] (engine : σ) (recorder : Recorder)
    {operation : Operation} (releases : operation.keeps = false) :
    ((operation.move recorder).outcome engine recorder).session = none := by
  cases operation with
  | perform command => cases releases
  | destroy =>
      simp only [Operation.move, Recorder.move]
      split
      · assumption
      · exact recorder.closed_session
  | drop => exact recorder.closed_session

section Operations

variable {σ : Type} [Engine σ] {owned : Owned σ}

def operate (owned : Owned σ) (operation : Operation) : Owned σ :=
  (owned.step? operation).getD owned

theorem destroy_follows (studio : Studio σ) :
    studio.Follows studio.destroy (studio.recorder.move .stop) := by
  have idle : (studio.stop.note .destroyed).recorder.session = none := studio.stop_session
  have stopped := Studio.stop_follows studio
  rw [Studio.destroy, Studio.teardown, idle]
  exact ⟨stopped.engine, stopped.recorder⟩

theorem operate_of_gone (released : owned.held = false) (operation : Operation) :
    owned.operate operation = owned := by
  simp [operate, step?, released]

theorem operate_follows (sound : owned.studio.recorder.Sound) (holding : owned.held = true)
    (operation : Operation) :
    owned.studio.Follows (owned.operate operation).studio (operation.move owned.studio.recorder) ∧
      (owned.operate operation).held = operation.keeps := by
  cases operation with
  | perform command =>
      simp only [operate, step?, holding, if_true, Option.getD_some]
      exact ⟨Studio.perform_follows owned.studio sound command, rfl⟩
  | destroy =>
      simp only [operate, step?, holding, if_true, Option.getD_some]
      exact ⟨destroy_follows owned.studio, rfl⟩
  | drop =>
      simp only [operate, step?, holding, if_true, Option.getD_some, drop]
      exact ⟨⟨Studio.teardown_engine owned.studio, Studio.teardown_recorder owned.studio⟩, rfl⟩

end Operations

variable {σ : Type} [Engine σ] [Scripted σ]

def proceed (owned : Owned σ) : DryRun.Step Operation → Owned σ
  | .operate operation => (owned.step? operation).getD owned
  | step => { owned with studio.engine := Scripted.rescript step.adjust owned.studio.engine }

inductive Turn (owned after : Owned σ) : DryRun.Step Operation → Prop where
  | scripted (step : DryRun.Step Operation) (script : ∀ operation, step ≠ .operate operation)
      (recorder : after.studio.recorder = owned.studio.recorder)
      (engine : after.studio.engine = Scripted.rescript step.adjust owned.studio.engine)
      (held : after.held = owned.held) : Turn owned after step
  | gone (operation : Operation) (released : owned.held = false) (same : after = owned) :
      Turn owned after (.operate operation)
  | moved (operation : Operation) (holding : owned.held = true)
      (follows : owned.studio.Follows after.studio (operation.move owned.studio.recorder))
      (held : after.held = operation.keeps) : Turn owned after (.operate operation)

theorem proceed_turn (owned : Owned σ) (sound : owned.studio.recorder.Sound)
    (step : DryRun.Step Operation) : owned.Turn (owned.proceed step) step := by
  cases step with
  | schedule site entry => exact .scripted _ nofun rfl rfl rfl
  | refuseNextBuild => exact .scripted _ nofun rfl rfl rfl
  | setCompletion completion => exact .scripted _ nofun rfl rfl rfl
  | operate operation =>
      cases holding : owned.held with
      | false => exact .gone operation holding (operate_of_gone holding operation)
      | true =>
          obtain ⟨follows, held⟩ := operate_follows sound holding operation
          exact .moved operation holding follows held

variable {owned after : Owned σ} {step : DryRun.Step Operation}

theorem Turn.sound (turn : owned.Turn after step) (sound : owned.studio.recorder.Sound) :
    after.studio.recorder.Sound := by
  cases turn with
  | scripted step script recorder engine held => rwa [recorder]
  | gone operation released same => rwa [same]
  | moved operation holding follows held =>
      rw [follows.recorder]
      exact sound.outcome _ (operation.admitted sound)

theorem Turn.config (turn : owned.Turn after step) (sound : owned.studio.recorder.Sound) :
    after.studio.recorder.config = owned.studio.recorder.config := by
  cases turn with
  | scripted step script recorder engine held => rw [recorder]
  | gone operation released same => rw [same]
  | moved operation holding follows held =>
      rw [follows.recorder]
      exact (operation.admitted sound).outcome_config _

end Owned

theorem Move.outcome_traced {σ : Type} [Engine σ] (traced : TracedEngine σ) (before : Recorder)
    (move : Move) : move.outcome traced before = move.outcome traced.engine before := by
  cases move with
  | rest after => rfl
  | feed graph buffers after => rfl
  | close after => rfl
  | renew plan after =>
      have torn := (Engine.afterAll_traced traced before.closing).1
      simp only [Move.outcome, ← torn]
      rfl

namespace Studio

variable {σ : Type}

def traced (studio : Studio σ) : Studio (TracedEngine σ) :=
  { studio with engine := { engine := studio.engine } }

variable [Engine σ]

/-- A studio after a history of commands, with its engine's exchanges noted from then on. -/
def resumed (config : Config) (engine : σ) (history : List Command) : Studio (TracedEngine σ) :=
  ((Studio.ofConfig config engine).run history).traced

theorem resumed_sound (config : Config) (engine : σ) (history : List Command) :
    (resumed config engine history).recorder.Sound := by
  have start : (ofConfig config engine).recorder.Sound := Recorder.ofConfig_sound config
  exact run_sound start history

theorem perform_transcript {studio : Studio (TracedEngine σ)}
    (sound : studio.recorder.Sound) (command : Command) :
    (studio.perform command).engine.transcript.toList = studio.engine.transcript.toList ++
      Engine.exchanges studio.engine.engine
        ((studio.recorder.move command).requests studio.recorder) := by
  rw [(perform_follows studio sound command).engine, (Engine.afterAll_traced _ _).2]

end Studio

namespace Owned

variable {σ : Type} [Engine σ]

structure Plays (owned : Owned (TracedEngine σ)) (operation : Operation) (move : Move) : Prop where
  recorder : (owned.operate operation).studio.recorder =
    move.outcome owned.studio.engine.engine owned.studio.recorder
  transcript : (owned.operate operation).studio.engine.transcript.toList =
    owned.studio.engine.transcript.toList ++
      Engine.exchanges owned.studio.engine.engine (move.requests owned.studio.recorder)
  held : (owned.operate operation).held = operation.keeps

theorem operate_plays {owned : Owned (TracedEngine σ)} (sound : owned.studio.recorder.Sound)
    (holding : owned.held = true) (operation : Operation) :
    owned.Plays operation (operation.move owned.studio.recorder) := by
  obtain ⟨follows, held⟩ := operate_follows sound holding operation
  have traced := Engine.afterAll_traced owned.studio.engine
    ((operation.move owned.studio.recorder).requests owned.studio.recorder)
  refine ⟨?_, ?_, held⟩
  · rw [follows.recorder, Move.outcome_traced]
  · rw [follows.engine, traced.2]

theorem operate_sound {owned : Owned (TracedEngine σ)} (sound : owned.studio.recorder.Sound)
    (operation : Operation) : (owned.operate operation).studio.recorder.Sound := by
  cases holding : owned.held with
  | false => rwa [operate_of_gone holding]
  | true =>
      rw [(operate_plays sound holding operation).recorder]
      exact sound.outcome _ (operation.admitted sound)

end Owned

theorem isPrefix_of_concat {α β : Type} {record : List α → List β}
    (concat : ∀ steps step, record steps <+: record (steps ++ [step])) {earlier steps : List α}
    (before : earlier <+: steps) : record earlier <+: record steps := by
  obtain ⟨later, rfl⟩ := before
  induction later using List.reverseRecOn with
  | nil => rw [List.append_nil]
  | append_singleton later step ih =>
      rw [← List.append_assoc]
      exact ih.trans (concat _ step)

namespace DryRun

def fresh (config : Config) : Owned DryEngine :=
  { studio := .ofConfig config { engine := {} } }

theorem advance_eq_proceed (owned : Owned DryEngine) (step : Step Owned.Operation) :
    advance owned step = owned.proceed step := by
  cases step <;> rfl

theorem run_last (owned : Owned DryEngine) (steps : List (Step Owned.Operation)) :
    (run owned steps).2 = steps.foldl Owned.proceed owned := by
  induction steps generalizing owned with
  | nil => rfl
  | cons step steps ih => exact (ih _).trans (by rw [advance_eq_proceed, List.foldl_cons])

def freshTraced (config : Config) : Owned (TracedEngine DryEngine) :=
  { studio := .ofConfig config { engine := { engine := {} } } }

def tracedRun (config : Config) (steps : List (Step Owned.Operation)) :
    Owned (TracedEngine DryEngine) :=
  steps.foldl Owned.proceed (freshTraced config)

def transcript (config : Config) (steps : List (Step Owned.Operation)) : List Exchange :=
  (tracedRun config steps).studio.engine.transcript.toList

/-- A traced run and a dry run that nothing tells apart but the transcript. -/
structure Shadows (traced : Owned (TracedEngine DryEngine)) (owned : Owned DryEngine) : Prop where
  recorder : traced.studio.recorder = owned.studio.recorder
  engine : traced.studio.engine.engine = owned.studio.engine
  held : traced.held = owned.held

theorem Shadows.proceed {traced : Owned (TracedEngine DryEngine)} {owned : Owned DryEngine}
    (shadows : Shadows traced owned) (sound : owned.studio.recorder.Sound)
    (step : Step Owned.Operation) : Shadows (traced.proceed step) (owned.proceed step) := by
  have tracedSound : traced.studio.recorder.Sound := shadows.recorder ▸ sound
  cases traced.proceed_turn tracedSound step with
  | scripted step script recorder engine held =>
      cases owned.proceed_turn sound step with
      | scripted _ _ plainRecorder plainEngine plainHeld =>
          refine ⟨?_, ?_, ?_⟩
          · rw [recorder, plainRecorder, shadows.recorder]
          · rw [engine, plainEngine, ← shadows.engine]
            rfl
          · rw [held, plainHeld, shadows.held]
      | gone operation => exact absurd rfl (script operation)
      | moved operation => exact absurd rfl (script operation)
  | gone operation released same =>
      cases owned.proceed_turn sound (.operate operation) with
      | scripted _ script => exact absurd rfl (script operation)
      | gone _ _ plainSame => rwa [same, plainSame]
      | moved _ holding => rw [← shadows.held, released] at holding; cases holding
  | moved operation holding follows held =>
      cases owned.proceed_turn sound (.operate operation) with
      | scripted _ script => exact absurd rfl (script operation)
      | gone _ released => rw [← shadows.held, holding] at released; cases released
      | moved _ _ plainFollows plainHeld =>
          refine ⟨?_, ?_, held.trans plainHeld.symm⟩
          · rw [follows.recorder, plainFollows.recorder, Move.outcome_traced, shadows.recorder,
              shadows.engine]
          · rw [follows.engine, plainFollows.engine, (Engine.afterAll_traced _ _).1,
              shadows.recorder, shadows.engine]

theorem shadow_run (config : Config) (steps : List (Step Owned.Operation)) :
    Shadows (tracedRun config steps) (run (fresh config) steps).2 := by
  rw [run_last, tracedRun]
  have start : Shadows (freshTraced config) (fresh config) := ⟨rfl, rfl, rfl⟩
  have sound : (fresh config).studio.recorder.Sound := Recorder.ofConfig_sound config
  -- Nothing but these two facts is known of the start when steps have been taken.
  generalize freshTraced config = traced at start ⊢
  generalize fresh config = owned at start sound ⊢
  induction steps generalizing traced owned with
  | nil => exact start
  | cons step steps ih =>
      exact ih _ _ (start.proceed sound step) ((owned.proceed_turn sound step).sound sound)

theorem run_sound (config : Config) (steps : List (Step Owned.Operation)) :
    (run (fresh config) steps).2.studio.recorder.Sound := by
  rw [run_last]
  refine List.foldlRecOn (motive := fun owned : Owned DryEngine => owned.studio.recorder.Sound)
    steps Owned.proceed (Recorder.ofConfig_sound config) ?_
  intro owned sound step _
  exact (owned.proceed_turn sound step).sound sound

theorem tracedRun_induction {config : Config} {steps : List (Step Owned.Operation)}
    (holds : Recorder → DryEngine → List Exchange → Prop)
    (start : holds (.ofConfig config) { engine := {} } [])
    (script : ∀ step ∈ steps, ∀ recorder dry transcript,
      holds recorder dry transcript → holds recorder (step.adjust dry) transcript)
    (operate : ∀ recorder dry transcript, recorder.config = config.effective → recorder.Sound →
      ∀ operation : Owned.Operation, holds recorder dry transcript →
        let move := operation.move recorder
        holds (move.outcome dry recorder) (Engine.afterAll dry (move.requests recorder))
          (transcript ++ Engine.exchanges dry (move.requests recorder))) :
    let last := (run (fresh config) steps).2
    last.studio.recorder.config = config.effective ∧
      holds last.studio.recorder last.studio.engine (transcript config steps) := by
  intro last
  have shadow := shadow_run config steps
  change last.studio.recorder.config = config.effective ∧ _
  rw [← shadow.recorder, ← shadow.engine]
  refine (List.foldlRecOn (motive := fun owned : Owned (TracedEngine DryEngine) =>
    owned.studio.recorder.Sound ∧ owned.studio.recorder.config = config.effective ∧
      holds owned.studio.recorder owned.studio.engine.engine
        owned.studio.engine.transcript.toList) steps Owned.proceed
    ⟨Recorder.ofConfig_sound config, rfl, start⟩ ?_).2
  intro owned invariant step member
  obtain ⟨sound, configured, known⟩ := invariant
  have turn := owned.proceed_turn sound step
  refine ⟨turn.sound sound, (turn.config sound).trans configured, ?_⟩
  cases turn with
  | scripted _ _ recorder engine held =>
      rw [recorder, engine]
      exact script step member _ _ _ known
  | gone operation released same => rwa [same]
  | moved operation holding follows held =>
      have traced := Engine.afterAll_traced owned.studio.engine
        ((operation.move owned.studio.recorder).requests owned.studio.recorder)
      rw [follows.recorder, follows.engine, traced.1, traced.2, Move.outcome_traced]
      exact operate _ _ _ configured sound operation known

/-- What holds at the start, and is kept by every script and every move, holds of every run. -/
theorem tracedRun_invariant {config : Config} {steps : List (Step Owned.Operation)}
    (holds : Recorder → DryEngine → List Exchange → Prop)
    (start : holds (.ofConfig config) { engine := {} } [])
    (script : ∀ step ∈ steps, ∀ recorder dry transcript,
      holds recorder dry transcript → holds recorder (step.adjust dry) transcript)
    (move : ∀ recorder dry transcript, recorder.config = config.effective →
      ∀ move, recorder.Admits move → holds recorder dry transcript →
        holds (move.outcome dry recorder) (Engine.afterAll dry (move.requests recorder))
          (transcript ++ Engine.exchanges dry (move.requests recorder))) :
    let last := (run (fresh config) steps).2
    last.studio.recorder.config = config.effective ∧
      holds last.studio.recorder last.studio.engine (transcript config steps) := by
  apply tracedRun_induction holds start script
  intro recorder dry transcript configured sound operation known
  exact move recorder dry transcript configured _ (operation.admitted sound) known

end DryRun
end StreamRecorder
