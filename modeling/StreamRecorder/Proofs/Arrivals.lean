import StreamRecorder.Proofs.Rehearsal
import StreamRecorder.Proofs.Timing

namespace StreamRecorder

structure Arrival where
  graph : GraphId
  endpoint : Endpoint
  data : Payload

/-- The frame that an event tells of. Silence is told from frames by its duration. -/
def Event.arrival? : Event → Option Arrival
  | .pushed graph endpoint buffer =>
      if buffer.duration.isNone then some ⟨graph, endpoint, buffer.data⟩ else none
  | _ => none

def Exchange.refusesFrame : Exchange → Bool
  | ⟨.push _ _ buffer, .accepted (.error _)⟩ => buffer.duration.isNone
  | _ => false

def Request.isPush : Request → Bool
  | .push _ _ _ => true
  | _ => false

def Request.isFrame : Request → Bool
  | .push _ _ buffer => buffer.duration.isNone
  | _ => false

def arrivalsOf (exchanged : List Exchange) : List Arrival :=
  (exchanged.filterMap Exchange.event?).filterMap Event.arrival?

theorem arrivalsOf_append (first rest : List Exchange) :
    arrivalsOf (first ++ rest) = arrivalsOf first ++ arrivalsOf rest := by
  simp [arrivalsOf]

theorem Exchange.unframed {exchange : Exchange} (other : exchange.request.isFrame = false) :
    exchange.event?.bind Event.arrival? = none ∧ exchange.refusesFrame = false := by
  obtain ⟨request, answer⟩ := exchange
  cases request with
  | push graph endpoint buffer =>
      have lasting : buffer.duration.isNone = false := other
      rcases answer with _ | (_ | _) | _ | _ <;>
        simp [event?, refusesFrame, Event.arrival?, lasting]
  | build plan => rcases answer with (_ | _) | _ | _ | _ <;> exact ⟨rfl, rfl⟩
  | endOfStream graph endpoint => rcases answer with _ | (_ | _) | _ | _ <;> exact ⟨rfl, rfl⟩
  | awaitCompletion graph timeout => cases answer <;> exact ⟨rfl, rfl⟩
  | halt graph => exact ⟨rfl, rfl⟩
  | release graph => exact ⟨rfl, rfl⟩

namespace Engine

variable {σ : Type} [Engine σ] {requests : List Request}

theorem exchanges_unframed (engine : σ) (other : ∀ request ∈ requests, request.isFrame = false) :
    arrivalsOf (exchanges engine requests) = [] ∧
      (exchanges engine requests).any Exchange.refusesFrame = false := by
  have unframed : ∀ exchange ∈ exchanges engine requests,
      exchange.event?.bind Event.arrival? = none ∧ exchange.refusesFrame = false := by
    intro exchange member
    exact Exchange.unframed (other _ (request_mem member))
  constructor
  · rw [arrivalsOf, List.filterMap_filterMap, List.filterMap_eq_nil_iff]
    exact fun exchange member => (unframed exchange member).1
  · rw [List.any_eq_false]
    exact fun exchange member => by simp [(unframed exchange member).2]

theorem arrivalsOf_frame (graph : GraphId) (frame : Frame) (presentation : UInt64)
    (result : Except SinkError Unit) :
    let exchange : Exchange :=
      ⟨.push graph frame.endpoint (frame.stamped presentation).2, .accepted result⟩
    arrivalsOf [exchange] =
      if exchange.refusesFrame then [] else [⟨graph, frame.endpoint, frame.data⟩] := by
  cases result <;> rfl

theorem exchanges_padded_frame (engine : σ) {recorder : Recorder} {session : Session}
    {timeline : Timeline} {gap : Option UInt64} {frame : Frame} {presentation : UInt64} {move : Move}
    (moved : move = recorder.feeding session timeline
      (gap.toList.map (Track.silence recorder.config.audioFormat) ++ [frame.stamped presentation])) :
    arrivalsOf (exchanges engine (move.requests recorder)) =
      if (exchanges engine (move.requests recorder)).any Exchange.refusesFrame then []
      else [⟨session.graph, frame.endpoint, frame.data⟩] := by
  let silence := gap.toList.map (Track.silence recorder.config.audioFormat)
  let padding := (recorder.feeding session timeline silence).requests recorder
  let padded := afterAll engine padding
  let last : Exchange := ⟨.push session.graph frame.endpoint (frame.stamped presentation).2,
    .accepted (Engine.push padded session.graph frame.endpoint (frame.stamped presentation).2).1⟩
  -- All before the last request is silence, which neither arrives nor counts as refused.
  have silent : ∀ request ∈ padding, request.isFrame = false := by
    intro request member
    obtain ⟨entry, listed, rfl⟩ := List.mem_map.mp member
    obtain ⟨length, -, rfl⟩ := List.mem_map.mp listed
    rfl
  obtain ⟨nothing, unrefused⟩ := exchanges_unframed engine silent
  have asked : exchanges engine (move.requests recorder) = exchanges engine padding ++ [last] := by
    simp only [moved, Recorder.feeding, Move.requests, List.map_append, exchanges_append]
    rfl
  have arrived := arrivalsOf_frame session.graph frame presentation
    (Engine.push padded session.graph frame.endpoint (frame.stamped presentation).2).1
  rw [asked, arrivalsOf_append, nothing, List.nil_append, arrived, List.any_append, unrefused]
  simp [last]

end Engine

namespace Recorder.Admits

variable {recorder : Recorder} {move : Move}

theorem unpushed (admitted : recorder.Admits move) (unfed : move.isFeed = false) :
    ∀ request ∈ move.requests recorder, request.isPush = false := by
  have closing : ∀ request ∈ recorder.closing, request.isPush = false :=
    recorder.forall_closing (fun _ _ => rfl) (fun _ _ => rfl) (fun _ => rfl) (fun _ => rfl)
  cases admitted with
  | rest video audio matching => simp [Move.requests]
  | feed session timeline buffers live => cases unfed
  | close video audio => exact closing
  | renew video audio active differs =>
      intro request member
      rcases List.mem_append.mp member with before | last
      · exact closing request before
      · rw [List.mem_singleton.mp last]
        rfl

theorem unframed (admitted : recorder.Admits move) (unfed : move.isFeed = false) :
    ∀ request ∈ move.requests recorder, request.isFrame = false := by
  intro request member
  have unpushed := admitted.unpushed unfed request member
  cases request with
  | push graph endpoint buffer => cases unpushed
  | build plan => rfl
  | endOfStream graph endpoint => rfl
  | awaitCompletion graph timeout => rfl
  | halt graph => rfl
  | release graph => rfl

end Recorder.Admits

namespace DryRun

def exchangedIn (owned : Owned DryEngine) (step : Step Owned.Operation) : List Exchange :=
  let traced : Owned (TracedEngine DryEngine) :=
    { studio := { owned.studio with engine := { engine := owned.studio.engine } }
      held := owned.held }
  (traced.proceed step).studio.engine.transcript.toList

def arrival? (owned : Owned DryEngine) (step : Step Owned.Operation) : Option Arrival :=
  match step with
  | .operate (.perform command) =>
      match delivered? owned step, owned.studio.recorder.session with
      | some frame, some session =>
          if command.memory.frame frame.data.size &&
              !(exchangedIn owned step).any Exchange.refusesFrame then
            some ⟨session.graph, frame.endpoint, frame.data⟩
          else none
      | _, _ => none
  | .operate .destroy | .operate .drop | .schedule _ _ | .refuseNextBuild | .setCompletion _ => none

def arrivals (owned : Owned DryEngine) : List (Step Owned.Operation) → List Arrival
  | [] => []
  | step :: steps => (arrival? owned step).toList ++ arrivals (advance owned step) steps

variable {owned : Owned DryEngine} {step : Step Owned.Operation}

theorem exchangedIn_operate (sound : owned.studio.recorder.Sound) (holding : owned.held = true)
    (operation : Owned.Operation) : exchangedIn owned (.operate operation) =
      Engine.exchanges owned.studio.engine
        ((operation.move owned.studio.recorder).requests owned.studio.recorder) := by
  let traced : Owned (TracedEngine DryEngine) :=
    { studio := { owned.studio with engine := { engine := owned.studio.engine } }
      held := owned.held }
  have plays : traced.Plays operation (operation.move owned.studio.recorder) :=
    Owned.operate_plays sound holding operation
  exact plays.transcript.trans (List.nil_append _)

theorem arrival?_of_undelivered (nothing : delivered? owned step = none) :
    arrival? owned step = none := by
  unfold arrival?
  split
  · rw [nothing]
  all_goals rfl

theorem arrivalsOf_perform (sound : owned.studio.recorder.Sound) (holding : owned.held = true)
    (command : Command) :
    let step : Step Owned.Operation := .operate (.perform command)
    arrivalsOf (exchangedIn owned step) = (arrival? owned step).toList := by
  intro step
  have admitted := sound.move_admitted command
  have asked := exchangedIn_operate sound holding (.perform command)
  have quiet (unfed : (owned.studio.recorder.move command).isFeed = false) :
      arrivalsOf (exchangedIn owned step) = [] := by
    rw [asked]
    exact (Engine.exchanges_unframed _ (admitted.unframed unfed)).1
  cases live : owned.studio.recorder.session with
  | none =>
      rw [quiet (Recorder.move_isFeed_of_idle live),
        arrival?_of_undelivered (by simp [step, delivered?, live])]
      rfl
  | some session =>
      cases delivers : command.frame? owned.studio.recorder.config with
      | none =>
          rw [quiet (Recorder.move_isFeed_of_no_frame delivers),
            arrival?_of_undelivered (by simp [step, delivered?, delivers])]
          rfl
      | some frame =>
          have delivered : delivered? owned step = some frame := by
            simp [step, delivered?, holding, live, delivers]
          cases copied : command.memory.frame frame.data.size with
          | false =>
              have lost := Recorder.move_of_uncopied delivers copied
              rw [quiet (by rw [lost]; rfl)]
              simp [arrival?, step, delivered, live, copied]
          | true =>
              have moved := (sound.move_of_copied live delivers copied).2
              have fed := Engine.exchanges_padded_frame owned.studio.engine moved
              rw [Owned.Operation.move] at asked
              rw [← asked] at fed
              simp only [arrival?, step, delivered, live, copied, Bool.true_and]
              rw [fed]
              cases (exchangedIn owned (.operate (.perform command))).any Exchange.refusesFrame <;>
                rfl

theorem proceed_arrivals (sound : owned.studio.recorder.Sound)
    (carries : owned.studio.engine.engine.Carries owned.studio.recorder.session)
    (step : Step Owned.Operation) :
    let before := owned.studio.engine.engine.events.toList.filterMap Event.arrival?
    let after := owned.proceed step
    after.studio.engine.engine.Carries after.studio.recorder.session ∧
      after.studio.engine.engine.events.toList.filterMap Event.arrival? =
        before ++ (arrival? owned step).toList := by
  intro before after
  have turn : owned.Turn after step := owned.proceed_turn sound step
  clear_value after
  cases turn with
  | scripted _ script recorder engine held =>
      have nothing : arrival? owned step = none := by
        cases step with
        | operate operation => exact absurd rfl (script operation)
        | schedule site entry => rfl
        | refuseNextBuild => rfl
        | setCompletion completion => rfl
      have events := (step.adjust_memory owned.studio.engine).1
      rw [recorder, engine, nothing]
      refine ⟨step.adjust_carries carries, ?_⟩
      change (step.adjust owned.studio.engine).engine.events.toList.filterMap Event.arrival? = _
      rw [events, Option.toList_none, List.append_nil]
  | gone operation released same =>
      have nothing : arrival? owned (.operate operation) = none := by
        cases operation with
        | perform command => exact arrival?_of_undelivered (by simp [delivered?, released])
        | destroy => rfl
        | drop => rfl
      rw [same, nothing]
      exact ⟨carries, (List.append_nil _).symm⟩
  | moved operation holding follows held =>
      have admitted := operation.admitted sound
      obtain ⟨passage, kept⟩ := DryEngine.move_carries carries admitted
      have asked := exchangedIn_operate sound holding operation
      have added : arrivalsOf (exchangedIn owned (.operate operation)) =
          (arrival? owned (.operate operation)).toList := by
        cases operation with
        | perform command => exact arrivalsOf_perform sound holding command
        | destroy =>
            have unfed : (owned.studio.recorder.move .stop).isFeed = false :=
              Recorder.move_isFeed_of_no_frame rfl
            rw [asked]
            exact (Engine.exchanges_unframed _ (admitted.unframed unfed)).1
        | drop =>
            rw [asked]
            exact (Engine.exchanges_unframed _ (admitted.unframed rfl)).1
      rw [follows.recorder, follows.engine]
      refine ⟨kept, ?_⟩
      rw [passage.events, List.filterMap_append, ← asked]
      exact congrArg (before ++ ·) added

theorem run_arrivals (sound : owned.studio.recorder.Sound)
    (carries : owned.studio.engine.engine.Carries owned.studio.recorder.session)
    (steps : List (Step Owned.Operation)) :
    (run owned steps).2.studio.engine.engine.events.toList.filterMap Event.arrival? =
      owned.studio.engine.engine.events.toList.filterMap Event.arrival? ++ arrivals owned steps := by
  rw [run_last]
  -- The log at the start varies, and each step adds to it the frame that it brings, if any.
  induction steps generalizing owned with
  | nil => exact (List.append_nil _).symm
  | cons step steps ih =>
      obtain ⟨kept, added⟩ := proceed_arrivals sound carries step
      have rest := ih ((owned.proceed_turn sound step).sound sound) kept
      rw [List.foldl_cons, rest, added, arrivals, advance_eq_proceed, List.append_assoc]

end DryRun

def Request.PadsWithSilence (format : AudioFormat) : Request → Prop
  | .push _ endpoint buffer =>
      buffer.duration.isSome → ∃ gap, (endpoint, buffer) = Track.silence format gap
  | _ => True

theorem Portion.pads {format : AudioFormat} {layout : Layout} {buffers : List (Endpoint × Buffer)}
    (portion : Portion format layout buffers) :
    ∀ entry ∈ buffers, entry.2.duration.isSome → ∃ gap, entry = Track.silence format gap := by
  intro entry member lasting
  cases portion with
  | plain frame presentation carried =>
      rw [List.mem_singleton.mp member] at lasting
      cases lasting
  | padded gap frame presentation carried audio =>
      rcases List.mem_pair.mp member with rfl | rfl
      · exact ⟨gap, rfl⟩
      · cases lasting

theorem Recorder.Admits.pads {recorder : Recorder} {move : Move} (admitted : recorder.Admits move)
    (portioned : move.Portioned recorder) :
    ∀ request ∈ move.requests recorder, request.PadsWithSilence recorder.config.audioFormat := by
  have quiet (unfed : move.isFeed = false) : ∀ request ∈ move.requests recorder,
      request.PadsWithSilence recorder.config.audioFormat := by
    intro request member
    have unpushed := admitted.unpushed unfed request member
    cases request with
    | push graph endpoint buffer => cases unpushed
    | build plan => trivial
    | endOfStream graph endpoint => trivial
    | awaitCompletion graph timeout => trivial
    | halt graph => trivial
    | release graph => trivial
  cases admitted with
  | rest video audio matching => exact quiet rfl
  | feed session timeline buffers live =>
      intro request member
      obtain ⟨entry, listed, rfl⟩ := List.mem_map.mp member
      exact (portioned session live).pads entry listed
  | close video audio => exact quiet rfl
  | renew video audio active differs => exact quiet rfl

theorem Exchange.request_of_pushed {exchange : Exchange} {graph : GraphId} {endpoint : Endpoint}
    {buffer : Buffer} (noted : exchange.event? = some (.pushed graph endpoint buffer)) :
    exchange.request = .push graph endpoint buffer := by
  unfold event? at noted
  split at noted
  all_goals cases noted
  rfl

theorem MemoryEngine.pushed_frames (memory : MemoryEngine) (endpoint : Endpoint) :
    ((memory.pushed endpoint).filter (·.duration.isNone)).map Buffer.data =
      ((memory.events.toList.filterMap Event.arrival?).filter (·.endpoint = endpoint)).map
        Arrival.data := by
  rw [pushed]
  induction memory.events.toList with
  | nil => rfl
  | cons event events ih =>
      cases event with
      | pushed graph reached buffer =>
          by_cases same : reached = endpoint <;> cases frame : buffer.duration.isNone <;>
            simp [Event.arrival?, same, frame, ih]
      | built graph location layout => exact ih
      | endOfStream graph endpoint => exact ih
      | waited graph timeout completion => exact ih
      | halted graph => exact ih
      | released graph => exact ih

namespace DryRun

theorem transcript_pads (config : Config) (steps : List (Step Owned.Operation)) :
    ∀ exchange ∈ transcript config steps,
      exchange.request.PadsWithSilence config.audioFormat := by
  refine (tracedRun_induction (fun _ _ transcript => ∀ exchange ∈ transcript,
    exchange.request.PadsWithSilence config.audioFormat) (by simp) ?_ ?_).2
  · intro step member recorder dry transcript earlier
    exact earlier
  · intro recorder dry transcript configured sound operation earlier move exchange member
    rcases List.mem_append.mp member with old | new
    · exact earlier exchange old
    · have asked : exchange.request ∈ move.requests recorder := Engine.request_mem new
      have format : recorder.config.audioFormat = config.audioFormat := by
        rw [configured, config.effective_audioFormat]
      rw [← format]
      exact (operation.admitted sound).pads (operation.portioned sound) _ asked

/-- The frames in the log of a run are those that arrived, and all else it pushed is silence. -/
theorem frames_arrive (config : Config) (steps : List (Step Owned.Operation)) :
    let memory := memoryEngine (run (fresh config) steps).2
    let arrived := arrivals (fresh config) steps
    memory.events.toList.filterMap Event.arrival? = arrived ∧
      (∀ endpoint, ((memory.pushed endpoint).filter (·.duration.isNone)).map Buffer.data =
        (arrived.filter (·.endpoint = endpoint)).map Arrival.data) ∧
      ∀ graph endpoint buffer, .pushed graph endpoint buffer ∈ memory.events →
        buffer.duration.isSome → ∃ gap, (endpoint, buffer) = Track.silence config.audioFormat gap := by
  intro memory arrived
  have carries : (fresh config).studio.engine.engine.Carries (fresh config).studio.recorder.session :=
    ⟨rfl, rfl, Nat.zero_le 1⟩
  have log : memory.events.toList.filterMap Event.arrival? = arrived :=
    run_arrivals (Recorder.ofConfig_sound config) carries steps
  refine ⟨log, fun endpoint => log ▸ memory.pushed_frames endpoint, ?_⟩
  intro graph endpoint buffer noted lasting
  have events : memory.events.toList = (transcript config steps).filterMap Exchange.event? :=
    (Told.run config steps).events
  rw [← Array.mem_toList_iff, events, List.mem_filterMap] at noted
  obtain ⟨exchange, member, noted⟩ := noted
  have pads := transcript_pads config steps exchange member
  rw [Exchange.request_of_pushed noted] at pads
  exact pads lasting

end DryRun
end StreamRecorder
