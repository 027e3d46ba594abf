import StreamRecorder.Proofs.Transcript

namespace StreamRecorder

def accepted {α : Type} (answered : List (α × Except SinkError Unit)) : List α :=
  answered.filterMap fun (item, answer) => answer.toOption.map fun _ => item

structure Ending where
  streams : List (Endpoint × Except SinkError Unit)
  timeout : UInt64
  completion : Completion

namespace Ending

def exchanges (graph : GraphId) (ending : Ending) : List Exchange :=
  ending.streams.map (fun (endpoint, answer) => ⟨.endOfStream graph endpoint, .accepted answer⟩) ++
    [⟨.awaitCompletion graph ending.timeout, .completed ending.completion⟩, ⟨.halt graph, .done⟩,
      ⟨.release graph, .done⟩]

def events (graph : GraphId) (ending : Ending) : List Event :=
  (accepted ending.streams).map (.endOfStream graph) ++
    [.waited graph ending.timeout ending.completion, .halted graph, .released graph]

end Ending

structure Life where
  graph : GraphId
  plan : Plan
  pushes : List ((Endpoint × Buffer) × Except SinkError Unit) := []
  ending : Option Ending := none

def Exchange.ofPush (graph : GraphId) :
    (Endpoint × Buffer) × Except SinkError Unit → Exchange
  | ((endpoint, buffer), answer) => ⟨.push graph endpoint buffer, .accepted answer⟩

def Exchange.failsBuild : Exchange → Bool
  | ⟨.build _, .built (.error _)⟩ => true
  | _ => false

namespace Life

def exchanges (life : Life) : List Exchange :=
  ⟨.build life.plan, .built (.ok life.graph)⟩ :: life.pushes.map (.ofPush life.graph) ++
    life.ending.elim [] (Ending.exchanges life.graph)

def events (life : Life) : List Event :=
  .built life.graph life.plan.location life.plan.layout ::
    (accepted life.pushes).map (fun (endpoint, buffer) => .pushed life.graph endpoint buffer) ++
    life.ending.elim [] (Ending.events life.graph)

def Ended (timeout : UInt64) (life : Life) : Prop :=
  ∃ ending ∈ life.ending, ending.streams.map Prod.fst = life.plan.layout.endpoints ∧
    ending.timeout = timeout

structure Feeds (life : Life) (session : Session) : Prop where
  graph : life.graph = session.graph
  layout : life.plan.layout = session.layout
  open_ended : life.ending = none

def close (ending : Ending) (life : Life) : Life :=
  { life with ending := some ending }

end Life

/-! ## From exchanges to events -/

theorem filterMap_accepted {α β γ : Type} (answered : List (α × Except SinkError Unit))
    (exchange : α × Except SinkError Unit → β) (event? : β → Option γ) (event : α → γ)
    (noted : ∀ item, event? (exchange (item, .ok ())) = some (event item))
    (unnoted : ∀ item fault, event? (exchange (item, .error fault)) = none) :
    (answered.map exchange).filterMap event? = (accepted answered).map event := by
  induction answered with
  | nil => rfl
  | cons entry answered ih =>
      obtain ⟨item, answer⟩ := entry
      cases answer with
      | ok done => simpa [accepted, Except.toOption, noted] using ih
      | error fault => simpa [accepted, Except.toOption, unnoted] using ih

theorem Ending.events_eq (graph : GraphId) (ending : Ending) :
    (ending.exchanges graph).filterMap Exchange.event? = ending.events graph := by
  have streams := filterMap_accepted ending.streams
    (fun (endpoint, answer) => ⟨.endOfStream graph endpoint, .accepted answer⟩) Exchange.event?
    (.endOfStream graph) (fun _ => rfl) (fun _ _ => rfl)
  rw [Ending.exchanges, List.filterMap_append, streams]
  rfl

theorem filterMap_ofPush (graph : GraphId)
    (pushes : List ((Endpoint × Buffer) × Except SinkError Unit)) :
    (pushes.map (.ofPush graph)).filterMap Exchange.event? =
      (accepted pushes).map fun (endpoint, buffer) => .pushed graph endpoint buffer :=
  filterMap_accepted pushes (.ofPush graph) Exchange.event? _ (fun _ => rfl) (fun _ _ => rfl)

theorem Life.events_eq (life : Life) :
    life.exchanges.filterMap Exchange.event? = life.events := by
  have built : Exchange.event? ⟨.build life.plan, .built (.ok life.graph)⟩ =
      some (.built life.graph life.plan.location life.plan.layout) := rfl
  cases ending : life.ending with
  | none => simp [exchanges, events, ending, built, filterMap_ofPush, -List.filterMap_map]
  | some ending =>
      simp [exchanges, events, ending, built, filterMap_ofPush, Ending.events_eq, -List.filterMap_map]

theorem event?_of_failsBuild {exchange : Exchange} (fails : exchange.failsBuild = true) :
    exchange.event? = none := by
  unfold Exchange.failsBuild at fails
  split at fails
  · rfl
  · cases fails

theorem filterMap_event?_filter (transcript : List Exchange) :
    (transcript.filter (!·.failsBuild)).filterMap Exchange.event? =
      transcript.filterMap Exchange.event? := by
  induction transcript with
  | nil => rfl
  | cons exchange transcript ih =>
      cases fails : exchange.failsBuild with
      | true => simp [fails, event?_of_failsBuild fails, ih]
      | false => simp [fails, List.filterMap_cons, ih]

theorem events_of_lives {transcript : List Exchange} {lives : List Life}
    (told : transcript.filter (!·.failsBuild) = lives.flatMap Life.exchanges) :
    transcript.filterMap Exchange.event? = lives.flatMap Life.events := by
  rw [← filterMap_event?_filter, told, List.filterMap_flatMap]
  simp only [Life.events_eq]

/-! ## One move, whatever the engine -/

namespace Engine

variable {σ : Type} [Engine σ]

theorem exchanges_streams (engine : σ) (graph : GraphId) (endpoints : List Endpoint) :
    ∃ streams : List (Endpoint × Except SinkError Unit), streams.map Prod.fst = endpoints ∧
      exchanges engine (endpoints.map (.endOfStream graph)) =
        streams.map fun (endpoint, answer) => ⟨.endOfStream graph endpoint, .accepted answer⟩ := by
  induction endpoints generalizing engine with
  | nil => exact ⟨[], rfl, rfl⟩
  | cons endpoint endpoints ih =>
      obtain ⟨streams, listed, same⟩ := ih (serve engine (.endOfStream graph endpoint)).2
      refine ⟨(endpoint, (Engine.endOfStream engine graph endpoint).1) :: streams, ?_, ?_⟩
      · simp [listed]
      · exact congrArg _ same

theorem exchanges_closing (engine : σ) (session : Session) (timeout : UInt64) :
    ∃ ending : Ending, ending.streams.map Prod.fst = session.layout.endpoints ∧
      ending.timeout = timeout ∧
      exchanges engine (session.closing timeout) = ending.exchanges session.graph := by
  obtain ⟨streams, listed, same⟩ :=
    exchanges_streams engine session.graph session.layout.endpoints
  rw [Session.closing, exchanges_append, same]
  exact ⟨⟨streams, timeout, _⟩, listed, rfl, rfl⟩

theorem exchanges_pushes (engine : σ) (graph : GraphId) (buffers : List (Endpoint × Buffer)) :
    ∃ pushes : List ((Endpoint × Buffer) × Except SinkError Unit), pushes.map Prod.fst = buffers ∧
      exchanges engine (buffers.map fun (endpoint, buffer) => .push graph endpoint buffer) =
        pushes.map (.ofPush graph) := by
  induction buffers generalizing engine with
  | nil => exact ⟨[], rfl, rfl⟩
  | cons entry buffers ih =>
      obtain ⟨endpoint, buffer⟩ := entry
      obtain ⟨pushes, listed, same⟩ := ih (serve engine (.push graph endpoint buffer)).2
      refine ⟨((endpoint, buffer), (Engine.push engine graph endpoint buffer).1) :: pushes, ?_, ?_⟩
      · simp [listed]
      · exact congrArg _ same

end Engine

/-- A transcript falls into lives: those that have ended, and the one of the live session. -/
structure Recounts (timeout : UInt64) (closed : List Life) (opened : Option Life)
    (session : Option Session) (transcript : List Exchange) : Prop where
  told : transcript.filter (!·.failsBuild) = (closed ++ opened.toList).flatMap Life.exchanges
  ended : ∀ life ∈ closed, life.Ended timeout
  live : Option.Rel Life.Feeds opened session

namespace Recounts

variable {timeout : UInt64} {closed : List Life} {opened : Option Life} {life : Life}
  {transcript : List Exchange}

theorem start (timeout : UInt64) : Recounts timeout [] none none [] :=
  ⟨rfl, by simp, .none⟩

theorem unended {session : Option Session} (recounts : Recounts timeout closed opened session transcript) :
    ∀ life ∈ opened, life.ending = none := by
  cases recounts.live with
  | none => nofun
  | some feeds => rintro _ ⟨⟩; exact feeds.open_ended

theorem opened_isSome {session : Option Session}
    (recounts : Recounts timeout closed opened session transcript) :
    opened.isSome = session.isSome := by
  cases recounts.live <;> rfl

theorem ended_of_dropLast {session : Option Session}
    (recounts : Recounts timeout closed opened session transcript) :
    ∀ life ∈ (closed ++ opened.toList).dropLast, life.ending.isSome := by
  have ended : ∀ life ∈ closed, life.ending.isSome := by
    intro life member
    obtain ⟨ending, present, -⟩ := recounts.ended life member
    exact Option.isSome_of_mem present
  cases opened with
  | none => exact fun life member => ended life (List.mem_of_mem_dropLast (by simpa using member))
  | some life => simpa using ended

theorem last_unended {session : Option Session}
    (recounts : Recounts timeout closed opened session transcript) :
    (∃ life ∈ (closed ++ opened.toList).getLast?, life.ending = none) ↔ session.isSome := by
  rw [← recounts.opened_isSome]
  have unended := recounts.unended
  cases opened with
  | some life => simpa using unended
  | none =>
      simp only [Option.toList_none, List.append_nil, Option.isSome_none, Bool.false_eq_true,
        iff_false, not_exists, not_and]
      intro life last none
      obtain ⟨ending, present, -⟩ := recounts.ended life (List.mem_of_mem_getLast? last)
      rw [none] at present
      cases present

theorem filter_ofPush (graph : GraphId)
    (pushes : List ((Endpoint × Buffer) × Except SinkError Unit)) :
    (pushes.map (Exchange.ofPush graph)).filter (!·.failsBuild) =
      pushes.map (Exchange.ofPush graph) := by
  rw [List.filter_eq_self]
  intro exchange member
  obtain ⟨push, -, rfl⟩ := List.mem_map.mp member
  rfl

theorem filter_ending (graph : GraphId) (ending : Ending) :
    (ending.exchanges graph).filter (!·.failsBuild) = ending.exchanges graph := by
  rw [List.filter_eq_self]
  intro exchange member
  rw [Ending.exchanges, List.mem_append, List.mem_map] at member
  rcases member with ⟨stream, -, rfl⟩ | last
  · rfl
  · simp only [List.mem_cons, List.not_mem_nil, or_false] at last
    rcases last with rfl | rfl | rfl <;> rfl

theorem feed {session : Session} (recounts : Recounts timeout closed (some life) (some session) transcript)
    (timeline : Timeline) (pushes : List ((Endpoint × Buffer) × Except SinkError Unit)) :
    Recounts timeout closed (some { life with pushes := life.pushes ++ pushes })
      (some { session with timeline }) (transcript ++ pushes.map (.ofPush session.graph)) := by
  cases recounts.live with
  | some feeds =>
      refine ⟨?_, recounts.ended, .some ⟨feeds.graph, feeds.layout, feeds.open_ended⟩⟩
      rw [List.filter_append, recounts.told, filter_ofPush]
      simp [Life.exchanges, feeds.open_ended, feeds.graph]

theorem close {session : Session} {ending : Ending}
    (recounts : Recounts timeout closed (some life) (some session) transcript)
    (complete : ending.streams.map Prod.fst = session.layout.endpoints)
    (awaited : ending.timeout = timeout) :
    Recounts timeout (closed ++ [life.close ending]) none none
      (transcript ++ ending.exchanges session.graph) := by
  cases recounts.live with
  | some feeds =>
      refine ⟨?_, ?_, .none⟩
      · rw [List.filter_append, recounts.told, filter_ending]
        simp [Life.exchanges, Life.close, feeds.open_ended, feeds.graph]
      · intro other member
        rw [List.mem_append, List.mem_singleton] at member
        rcases member with early | rfl
        · exact recounts.ended other early
        · exact ⟨ending, rfl, complete.trans (congrArg _ feeds.layout.symm), awaited⟩

theorem closing {σ : Type} [Engine σ] {recorder : Recorder}
    (recounts : Recounts recorder.config.flushTimeout closed opened recorder.session transcript)
    (engine : σ) : ∃ ending : Ending,
      Recounts recorder.config.flushTimeout (closed ++ opened.toList.map (Life.close ending)) none none
        (transcript ++ Engine.exchanges engine recorder.closing) := by
  unfold Recorder.closing
  cases live : recorder.session with
  | none =>
      rw [live] at recounts
      cases recounts.live with
      | none => exact ⟨⟨[], 0, .timedOut⟩, by simpa using recounts⟩
  | some session =>
      obtain ⟨ending, complete, awaited, same⟩ :=
        Engine.exchanges_closing engine session recorder.config.flushTimeout
      rw [live] at recounts
      simp only [same]
      obtain _ | life := opened
      · cases recounts.live
      · exact ⟨ending, recounts.close complete awaited⟩

theorem launch {before : Recorder} (recounts : Recounts timeout closed none none transcript)
    (idle : before.session = none) (plan : Plan) (result : Except SinkError GraphId) :
    ∃ opened : Option Life,
      Recounts timeout closed opened (before.launched plan result).session
        (transcript ++ [⟨.build plan, .built result⟩]) ∧
      ∀ life ∈ opened, life.pushes = [] := by
  cases result with
  | error fault =>
      refine ⟨none, ⟨?_, recounts.ended, ?_⟩, nofun⟩
      · rw [List.filter_append, recounts.told]
        simp [Exchange.failsBuild]
      · rw [Recorder.launched, idle]
        exact .none
  | ok graph =>
      refine ⟨some { graph, plan }, ⟨?_, recounts.ended, .some ⟨rfl, rfl, rfl⟩⟩, ?_⟩
      · rw [List.filter_append, recounts.told]
        simp [Exchange.failsBuild, Life.exchanges]
      · rintro _ ⟨⟩
        rfl

theorem move {σ : Type} [Engine σ] {recorder : Recorder} {move : Move}
    (recounts : Recounts recorder.config.flushTimeout closed opened recorder.session transcript)
    (engine : σ) (admitted : recorder.Admits move) : ∃ closed opened,
      Recounts recorder.config.flushTimeout closed opened (move.outcome engine recorder).session
        (transcript ++ Engine.exchanges engine (move.requests recorder)) := by
  cases admitted with
  | rest video audio matching =>
      exact ⟨closed, opened, by simpa [Move.requests, Move.outcome, Recorder.withCodecs] using recounts⟩
  | feed session timeline buffers live =>
      obtain ⟨pushes, -, same⟩ := Engine.exchanges_pushes engine session.graph buffers
      rw [live] at recounts
      obtain _ | life := opened
      · cases recounts.live
      · refine ⟨closed, some { life with pushes := life.pushes ++ pushes }, ?_⟩
        simp only [Recorder.feeding, Move.requests, Move.outcome, same]
        exact recounts.feed timeline pushes
  | close video audio =>
      obtain ⟨ending, ended⟩ := recounts.closing engine
      refine ⟨closed ++ opened.toList.map (Life.close ending), none, ?_⟩
      simpa [Move.requests, Move.outcome, Recorder.withCodecs] using ended
  | renew video audio active differs =>
      obtain ⟨ending, ended⟩ := recounts.closing engine
      let chosen := recorder.withCodecs video audio
      let torn := Engine.afterAll engine recorder.closing
      have asked : Engine.exchanges torn [.build chosen.planned] =
          [⟨.build chosen.planned, .built (Engine.build torn chosen.planned).1⟩] := rfl
      simp only [Move.requests, Move.outcome, Engine.exchanges_append, ← List.append_assoc]
      rw [asked]
      have idle : chosen.attempting.session = none := by simp [Recorder.attempting]
      obtain ⟨opened, launched, -⟩ := ended.launch idle chosen.planned _
      exact ⟨_, opened, launched⟩

end Recounts

/-! ## Dry runs -/

theorem Config.effective_flushTimeout (config : Config) :
    config.effective.flushTimeout = config.flushTimeout := by
  unfold effective
  split <;> rfl

theorem Config.effective_audioFormat (config : Config) :
    config.effective.audioFormat = config.audioFormat := by
  unfold effective
  split <;> rfl

theorem Life.filterMap_builtGraph? (life : Life) :
    life.events.filterMap Event.builtGraph? = [life.graph] := by
  cases ending : life.ending with
  | none => simp [events, ending, Event.builtGraph?]
  | some ending => simp [events, ending, Event.builtGraph?, Ending.events]

namespace DryRun

structure Told (config : Config) (steps : List (Step Owned.Operation)) (recorder : Recorder)
    (dry : DryEngine) (transcript : List Exchange) : Prop where
  carries : dry.engine.Carries recorder.session
  numbered : dry.engine.Numbered
  events : dry.engine.events.toList = transcript.filterMap Exchange.event?
  pending : ∀ fault, some fault ∈ dry.endings → .schedule .endOfStream (some fault) ∈ steps
  scripted : ∀ fault ∈ transcript.filterMap Exchange.endingFault?,
    .schedule .endOfStream (some fault) ∈ steps
  recounts : ∃ closed opened,
    Recounts config.flushTimeout closed opened recorder.session transcript

namespace Told

variable {config : Config} {steps : List (Step Owned.Operation)} {recorder : Recorder}
  {dry : DryEngine} {transcript : List Exchange}

theorem fresh (config : Config) (steps : List (Step Owned.Operation)) :
    Told config steps (.ofConfig config) { engine := {} } [] where
  carries := ⟨rfl, rfl, Nat.zero_le 1⟩
  numbered := ⟨0, rfl, rfl⟩
  events := rfl
  pending := nofun
  scripted := nofun
  recounts := ⟨[], none, .start config.flushTimeout⟩

theorem script (told : Told config steps recorder dry transcript)
    {step : Step Owned.Operation} (member : step ∈ steps) :
    Told config steps recorder (step.adjust dry) transcript := by
  refine { told with
    carries := step.adjust_carries told.carries
    numbered := step.adjust_numbered told.numbered
    events := (congrArg Array.toList (step.adjust_memory dry).1).trans told.events
    pending := ?_ }
  intro fault pending
  rcases step.mem_adjust .endOfStream pending with earlier | rfl
  · exact told.pending fault earlier
  · exact member

theorem move (told : Told config steps recorder dry transcript)
    (configured : recorder.config = config.effective) {move : Move}
    (admitted : recorder.Admits move) :
    Told config steps (move.outcome dry recorder) (Engine.afterAll dry (move.requests recorder))
      (transcript ++ Engine.exchanges dry (move.requests recorder)) := by
  obtain ⟨passage, carries⟩ := DryEngine.move_carries told.carries admitted
  refine {
    carries := carries
    numbered := DryEngine.afterAll_numbered told.numbered _
    events := by rw [passage.events, told.events, List.filterMap_append]
    pending := fun fault pending => told.pending fault (passage.endings.subset pending)
    scripted := ?_
    recounts := ?_ }
  · intro fault met
    rw [List.filterMap_append, List.mem_append] at met
    cases met with
    | inl early => exact told.scripted fault early
    | inr late => exact told.pending fault (passage.scripted fault late)
  · have timeout : recorder.config.flushTimeout = config.flushTimeout := by
      rw [configured, config.effective_flushTimeout]
    obtain ⟨closed, opened, recounts⟩ := told.recounts
    rw [← timeout] at recounts ⊢
    exact recounts.move dry admitted

theorem run (config : Config) (steps : List (Step Owned.Operation)) :
    let last := (DryRun.run (DryRun.fresh config) steps).2
    Told config steps last.studio.recorder last.studio.engine (DryRun.transcript config steps) := by
  refine (tracedRun_invariant (Told config steps) (fresh config steps) ?_ ?_).2
  · intro step member recorder dry transcript told
    exact told.script member
  · intro recorder dry transcript configured move admitted told
    exact told.move configured admitted

end Told

/-- The event log of a run consists of the lives of the graphs that were built. -/
theorem events_are_lives (config : Config) (steps : List (Step Owned.Operation)) :
    let last := (run (fresh config) steps).2
    ∃ lives : List Life,
      (memoryEngine last).events.toList = lives.flatMap Life.events ∧
      (transcript config steps).filter (!·.failsBuild) = lives.flatMap Life.exchanges ∧
      lives.map Life.graph = (List.range lives.length).map (fun earlier => .ofNat (earlier + 1)) ∧
      (∀ life ∈ lives, ∀ ending ∈ life.ending,
        ending.streams.map Prod.fst = life.plan.layout.endpoints ∧
        ending.timeout = config.flushTimeout ∧
        ∀ endpoint fault, (endpoint, .error fault) ∈ ending.streams →
          .schedule .endOfStream (some fault) ∈ steps) ∧
      (∀ life ∈ lives.dropLast, life.ending.isSome) ∧
      ((∃ life ∈ lives.getLast?, life.ending = none) ↔ last.studio.recorder.phase = .running) ∧
      (memoryEngine last).counts.mostLive ≤ 1 := by
  intro last
  have told := Told.run config steps
  obtain ⟨closed, opened, recounts⟩ := told.recounts
  let lives := closed ++ opened.toList
  have events : (memoryEngine last).events.toList = lives.flatMap Life.events :=
    told.events.trans (events_of_lives recounts.told)
  have numbers : lives.map Life.graph =
      (List.range lives.length).map (fun earlier => .ofNat (earlier + 1)) := by
    obtain ⟨count, -, graphs⟩ := told.numbered
    rw [show last.studio.engine.engine.events.toList = _ from events, List.filterMap_flatMap] at graphs
    simp only [Life.filterMap_builtGraph?, ← List.map_eq_flatMap] at graphs
    have length : lives.length = count := by simpa using congrArg List.length graphs
    rw [length]
    exact graphs
  refine ⟨lives, events, recounts.told, numbers, ?_, recounts.ended_of_dropLast, ?_,
    told.carries.alone⟩
  · intro life member ending closing
    -- A life with an ending is not the open one.
    have early : life ∈ closed := by
      rcases List.mem_append.mp member with early | late
      · exact early
      · rw [recounts.unended life (Option.mem_toList.mp late)] at closing
        cases closing
    obtain ⟨same, present, listed, awaited⟩ := recounts.ended life early
    obtain rfl := Option.mem_unique present closing
    refine ⟨listed, awaited, ?_⟩
    intro endpoint fault refused
    -- The refusal stands in the transcript, and only a script refuses.
    have exchanged : ⟨.endOfStream life.graph endpoint, .accepted (.error fault)⟩ ∈
        lives.flatMap Life.exchanges := by
      refine List.mem_flatMap.mpr ⟨life, member, ?_⟩
      simp only [Life.exchanges, Option.mem_def.mp closing, Option.elim_some, Ending.exchanges]
      refine List.mem_append_right _ (List.mem_append_left _ ?_)
      exact List.mem_map_of_mem (f := _) refused
    rw [← recounts.told] at exchanged
    exact told.scripted fault (List.mem_filterMap.mpr ⟨_, (List.mem_filter.mp exchanged).1, rfl⟩)
  · rw [recounts.last_unended, (run_sound config steps).phase]
    cases last.studio.recorder.session <;> simp

end DryRun
end StreamRecorder
