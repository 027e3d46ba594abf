import StreamRecorder.Proofs.Naming
import StreamRecorder.Proofs.Rehearsal

/-!
# Sessions are isolated

Two recorders can be given different graphs, so graphs are looked at through a view. The identity
tells them all apart; a constant tells none apart, and then it only matters which builds succeed.
-/

namespace StreamRecorder

/-! ## Views -/

def Plan.unplaced (plan : Plan) : Plan :=
  { plan with location := "" }

def Request.through (view : GraphId → GraphId) : Request → Request
  | .build plan => .build plan.unplaced
  | .push graph endpoint buffer => .push (view graph) endpoint buffer
  | .endOfStream graph endpoint => .endOfStream (view graph) endpoint
  | .awaitCompletion graph timeout => .awaitCompletion (view graph) timeout
  | .halt graph => .halt (view graph)
  | .release graph => .release (view graph)

def Session.through (view : GraphId → GraphId) (session : Session) : Session :=
  { session with graph := view session.graph, location := "" }

/-- The recorder without the names of files and the number that is used for them. -/
def Recorder.through (view : GraphId → GraphId) (recorder : Recorder) : Recorder :=
  { recorder with session := recorder.session.map (Session.through view), counter := 0 }

def Move.through (view : GraphId → GraphId) : Move → Move
  | .rest after => .rest (after.through view)
  | .feed graph buffers after => .feed (view graph) buffers (after.through view)
  | .close after => .close (after.through view)
  | .renew plan after => .renew plan.unplaced (after.through view)

variable (view : GraphId → GraphId)

@[simp] theorem Request.through_isBuild (request : Request) :
    (request.through view).isBuild = request.isBuild := by
  cases request <;> rfl

namespace Recorder

variable (recorder : Recorder)

@[simp] theorem through_audioCodec :
    (recorder.through view).audioCodec = recorder.audioCodec := rfl

@[simp] theorem through_session :
    (recorder.through view).session = recorder.session.map (Session.through view) := rfl

@[simp] theorem through_layout : (recorder.through view).layout = recorder.layout := by
  simp only [through, layout, Option.map_map]
  rfl

@[simp] theorem through_timeline : (recorder.through view).timeline = recorder.timeline := by
  simp only [through, timeline, Option.map_map]
  rfl

theorem through_id : (recorder.through view).through id = recorder.through view := by
  simp only [through, Option.map_map]
  rfl

theorem Sound.through_of_idle {recorder : Recorder} (sound : recorder.Sound)
    (idle : recorder.session = none) : recorder.through view =
      { config := recorder.config
        videoCodec := recorder.codecs.1
        audioCodec := recorder.codecs.2 } := by
  have phase : recorder.phase = .idle := by simpa [idle] using sound.phase
  simp only [through, phase, idle]
  rfl

theorem through_closed :
    (recorder.through view).closed.through id = recorder.closed.through view := by
  cases live : recorder.session with
  | none => simp [closed, through, live]
  | some session => simp [closed, through, live]

theorem through_closing : (recorder.through view).closing.map (Request.through id) =
    recorder.closing.map (Request.through view) := by
  cases live : recorder.session with
  | none => simp [closing, through, live]
  | some session =>
      simp only [closing, through, live, Option.map_some, Session.closing, List.map_append,
        List.map_map]
      rfl

end Recorder

namespace Move

theorem through_requests (move : Move) (before : Recorder) :
    ((move.through view).requests (before.through view)).map (Request.through id) =
      (move.requests before).map (Request.through view) := by
  cases move with
  | rest after => rfl
  | feed graph buffers after =>
      simp only [through, requests, List.map_map]
      rfl
  | close after => exact before.through_closing view
  | renew plan after =>
      simp only [through, requests, List.map_append, before.through_closing view]
      rfl

theorem through_settled (move : Move) (answer : Except SinkError GraphId) :
    ((move.through view).settled (answer.map view)).through id =
      (move.settled answer).through view := by
  cases move with
  | rest after => exact after.through_id view
  | feed graph buffers after => exact after.through_id view
  | close after => exact after.through_id view
  | renew plan after =>
      cases answer with
      | error fault => exact after.through_id view
      | ok graph => rfl

theorem settled_of_toOption (move : Move) {first second : Except SinkError GraphId}
    (same : first.toOption = second.toOption) : move.settled first = move.settled second := by
  cases move with
  | rest after => rfl
  | feed graph buffers after => rfl
  | close after => rfl
  | renew plan after =>
      cases first <;> cases second <;> cases same <;> rfl

variable {view}

theorem settled_congr {one two : Move} (moves : one.through view = two.through view)
    {first second : Except SinkError GraphId}
    (alike : (first.map view).toOption = (second.map view).toOption) :
    (one.settled first).through view = (two.settled second).through view := by
  rw [← one.through_settled view, moves, settled_of_toOption _ alike, two.through_settled view]

end Move

namespace Recorder

variable (recorder : Recorder)

theorem through_starting :
    (recorder.through view).starting.through id = recorder.starting.through view := by
  unfold starting
  rw [through_layout]
  change Move.through id (if recorder.layout = some recorder.desiredLayout then _ else _) = _
  split
  · exact congrArg Move.rest (recorder.through_id view)
  · have attempting :
        (recorder.through view).attempting.through id = recorder.attempting.through view :=
      recorder.through_closed view
    exact congrArg (Move.renew recorder.planned.unplaced) attempting

theorem through_hearing :
    (recorder.through view).hearing.through id = recorder.hearing.through view := by
  unfold hearing
  rw [through_audioCodec]
  cases recorder.audioCodec with
  | alac => exact recorder.through_starting view
  | aacEld =>
      have carries : (recorder.through view).carriesOtherAudio .aacEld =
          recorder.carriesOtherAudio .aacEld := by
        rw [carriesOtherAudio, through_layout, carriesOtherAudio]
      dsimp only
      rw [carries]
      split
      · exact congrArg Move.close (recorder.through_closed view)
      · exact congrArg Move.rest (recorder.through_id view)

theorem through_move (command : Command) :
    ((recorder.through view).move command).through id = (recorder.move command).through view := by
  have resting : (Move.rest (recorder.through view)).through id =
      (Move.rest recorder).through view :=
    congrArg Move.rest (recorder.through_id view)
  have guarded (enabled : Bool) {one two : Move} (alike : one.through id = two.through view) :
      (if !enabled then .rest (recorder.through view) else one).through id =
        (if !enabled then .rest recorder else two).through view := by
    cases enabled with
    | false => exact resting
    | true => exact alike
  cases command with
  | chooseAudio codec =>
      let chosen := recorder.withCodecs recorder.videoCodec codec
      exact guarded recorder.config.audioEnabled (chosen.through_hearing view)
  | chooseVideo hevc =>
      let chosen := recorder.withCodecs (VideoCodec.ofHevc hevc) recorder.audioCodec
      exact guarded recorder.config.isActive (chosen.through_starting view)
  | pushVideo data timestamp memory =>
      refine guarded recorder.config.videoEnabled ?_
      rw [through_session]
      cases recorder.session with
      | none => exact resting
      | some session =>
          cases Buffer.copy memory.frame data with
          | error fault => exact resting
          | ok buffer => rfl
  | pushAudio data timestamp memory =>
      refine guarded recorder.config.audioEnabled ?_
      rw [through_session]
      cases recorder.session with
      | none => exact resting
      | some session =>
          cases Buffer.copy memory.frame data with
          | error fault => exact resting
          | ok buffer => rfl
  | stop =>
      simp only [move, through_session]
      cases recorder.session with
      | none => exact resting
      | some session =>
          have forgotten : (recorder.through view).closed.forgetCodecs.through id =
              recorder.closed.forgetCodecs.through view :=
            congrArg forgetCodecs (recorder.through_closed view)
          exact congrArg Move.close forgotten

end Recorder

theorem Owned.Operation.through_move (recorder : Recorder) (operation : Operation) :
    (operation.move (recorder.through view)).through id =
      (operation.move recorder).through view := by
  cases operation with
  | perform command => exact recorder.through_move view command
  | destroy => exact recorder.through_move view .stop
  | drop => exact congrArg Move.close (recorder.through_closed view)

/-! ## Two recorders abreast -/

/-- Builds of the same number both fail, or give graphs that look the same. -/
def BuildsAgree (view : GraphId → GraphId) (first second : List Exchange) : Prop :=
  ∀ (number : Nat) (one two : Except SinkError GraphId), (buildAnswers first)[number]? = some one →
    (buildAnswers second)[number]? = some two → (one.map view).toOption = (two.map view).toOption

variable {view}

theorem BuildsAgree.reply {first second more others : List Exchange}
    (agree : BuildsAgree view (first ++ more) (second ++ others))
    (builds : (buildAnswers first).length = (buildAnswers second).length)
    (answers : (buildAnswers more).length = (buildAnswers others).length)
    {default : Except SinkError GraphId} :
    (((buildAnswers more)[0]?.getD default).map view).toOption =
      (((buildAnswers others)[0]?.getD default).map view).toOption := by
  cases found : (buildAnswers more)[0]? with
  | none =>
      have none : (buildAnswers others)[0]? = none := by
        rwa [List.getElem?_eq_none_iff, ← answers, ← List.getElem?_eq_none_iff]
      rw [none]
  | some one =>
      have bound : 0 < (buildAnswers others).length :=
        answers ▸ (List.getElem?_eq_some_iff.mp found).1
      have also := List.getElem?_eq_getElem bound
      rw [also, Option.getD_some, Option.getD_some]
      apply agree (buildAnswers first).length
      · rw [buildAnswers_append, List.getElem?_append_right le_rfl, Nat.sub_self, found]
      · rw [buildAnswers_append, builds, List.getElem?_append_right le_rfl, Nat.sub_self, also]

def Engine.reply {σ : Type} [Engine σ] (engine : σ) (requests : List Request) :
    Except SinkError GraphId :=
  (buildAnswers (exchanges engine requests))[0]?.getD (.error (.engine ""))

theorem Engine.buildAnswers_length_eq {σ τ : Type} [Engine σ] [Engine τ] (first : σ) (second : τ)
    {requests others : List Request}
    (alike : requests.map (Request.through view) = others.map (Request.through view)) :
    (buildAnswers (exchanges first requests)).length =
      (buildAnswers (exchanges second others)).length := by
  have counts (requests : List Request) :
      (requests.map (Request.through view)).countP Request.isBuild =
        requests.countP Request.isBuild := by
    rw [List.countP_map]
    exact List.countP_congr (by simp)
  rw [buildAnswers_length, buildAnswers_length, ← counts, alike, counts]

theorem Move.outcome_eq_reply {σ : Type} [Engine σ] (engine : σ) (recorder : Recorder)
    (move : Move) : move.outcome engine recorder =
      move.settled (Engine.reply engine (move.requests recorder)) := by
  apply move.outcome_eq_settled
  intro result first
  rw [Engine.reply, first, Option.getD_some]

namespace Owned

variable {σ τ : Type}

def transcript (owned : Owned (TracedEngine σ)) : List Exchange :=
  owned.studio.engine.transcript.toList

/-- Two recorders that look the same through a view, and that have asked the same. -/
structure Abreast (view : GraphId → GraphId) (one : Owned (TracedEngine σ))
    (two : Owned (TracedEngine τ)) : Prop where
  recorder : one.studio.recorder.through view = two.studio.recorder.through view
  held : one.held = two.held
  requests : one.transcript.map (Request.through view ∘ Exchange.request) =
    two.transcript.map (Request.through view ∘ Exchange.request)
  builds : (buildAnswers one.transcript).length = (buildAnswers two.transcript).length

variable [Engine σ] [Engine τ]

theorem Plays.told {owned : Owned (TracedEngine σ)} {operation : Operation} {move : Move}
    (plays : owned.Plays operation move) : (owned.operate operation).transcript =
      owned.transcript ++
        Engine.exchanges owned.studio.engine.engine (move.requests owned.studio.recorder) :=
  plays.transcript

theorem Abreast.operate {one : Owned (TracedEngine σ)} {two : Owned (TracedEngine τ)}
    (abreast : one.Abreast view two) (oneSound : one.studio.recorder.Sound)
    (twoSound : two.studio.recorder.Sound) (operation : Operation)
    (agree : BuildsAgree view (one.operate operation).transcript
      (two.operate operation).transcript) :
    (one.operate operation).Abreast view (two.operate operation) := by
  obtain ⟨recorder, held, requests, builds⟩ := abreast
  cases holding : one.held with
  | false =>
      rw [operate_of_gone holding, operate_of_gone (held ▸ holding)]
      exact ⟨recorder, held, requests, builds⟩
  | true =>
      have first := operate_plays oneSound holding operation
      have second := operate_plays twoSound (held ▸ holding) operation
      let oneMove := operation.move one.studio.recorder
      let twoMove := operation.move two.studio.recorder
      have moves : oneMove.through view = twoMove.through view := by
        rw [← operation.through_move, recorder, operation.through_move]
      have asked : (oneMove.requests one.studio.recorder).map (Request.through view) =
          (twoMove.requests two.studio.recorder).map (Request.through view) := by
        rw [← Move.through_requests, moves, recorder, Move.through_requests]
      have answers := Engine.buildAnswers_length_eq one.studio.engine.engine
        two.studio.engine.engine asked
      rw [first.told, second.told] at agree
      refine ⟨?_, first.held.trans second.held.symm, ?_, ?_⟩
      · rw [first.recorder, second.recorder, Move.outcome_eq_reply, Move.outcome_eq_reply]
        exact Move.settled_congr moves (agree.reply builds answers)
      · rw [first.told, second.told, List.map_append, List.map_append, requests]
        simp only [← List.map_map, Engine.exchanges_requests]
        rw [asked]
      · rw [first.told, second.told, buildAnswers_append, buildAnswers_append, List.length_append,
          List.length_append, builds, answers]

end Owned

/-! ## The names of one recorder -/

def Request.graph? : Request → Option GraphId
  | .build _ => none
  | .push graph _ _ | .endOfStream graph _ | .awaitCompletion graph _ | .halt graph
  | .release graph => some graph

theorem Request.isBuild_of_graph? {request : Request} {graph : GraphId}
    (about : request.graph? = some graph) : request.isBuild = false := by
  cases request with
  | build plan => cases about
  | push graph endpoint buffer => rfl
  | endOfStream graph endpoint => rfl
  | awaitCompletion graph timeout => rfl
  | halt graph => rfl
  | release graph => rfl

theorem Recorder.closing_graph? (recorder : Recorder) : ∀ request ∈ recorder.closing,
    ∃ session ∈ recorder.session, request.graph? = some session.graph := by
  intro request member
  unfold closing at member
  cases live : recorder.session with
  | none => simp [live] at member
  | some session =>
      refine ⟨session, rfl, ?_⟩
      simp only [live, Session.closing, List.mem_append, List.mem_map, List.mem_cons,
        List.not_mem_nil, or_false] at member
      rcases member with ⟨endpoint, -, rfl⟩ | rfl | rfl | rfl <;> rfl

/-- Every request but a build is about the graph that the last build before it gave. -/
def Addressed (transcript : List Exchange) : Prop :=
  ∀ (before later : List Exchange) (exchange : Exchange) (graph : GraphId),
    transcript = before ++ exchange :: later → exchange.request.graph? = some graph →
      (buildAnswers before).getLast? = some (.ok graph)

theorem Addressed.concat {transcript : List Exchange} (addressed : Addressed transcript)
    {exchange : Exchange} (own : ∀ graph, exchange.request.graph? = some graph →
      (buildAnswers transcript).getLast? = some (.ok graph)) :
    Addressed (transcript ++ [exchange]) := by
  intro before later other graph split about
  rcases List.eq_nil_or_concat' later with rfl | ⟨rest, last, rfl⟩
  · obtain ⟨rfl, same⟩ := List.append_inj' split rfl
    obtain rfl := List.singleton_inj.mp same
    exact own graph about
  · rw [← List.cons_append, ← List.append_assoc] at split
    obtain ⟨earlier, -⟩ := List.append_inj' split rfl
    exact addressed before rest other graph earlier about

theorem Addressed.exchanges {σ : Type} [Engine σ] (engine : σ) {transcript : List Exchange}
    (addressed : Addressed transcript) {requests : List Request}
    (own : ∀ request ∈ requests, ∃ graph, request.graph? = some graph ∧
      (buildAnswers transcript).getLast? = some (.ok graph)) :
    Addressed (transcript ++ Engine.exchanges engine requests) := by
  induction requests using List.reverseRecOn with
  | nil => simpa using addressed
  | append_singleton requests request ih =>
      have earlier : ∀ request ∈ requests, ∃ graph, request.graph? = some graph ∧
          (buildAnswers transcript).getLast? = some (.ok graph) :=
        fun request member => own request (List.mem_append_left _ member)
      have quiet : buildAnswers (Engine.exchanges engine requests) = [] := by
        apply Engine.buildAnswers_of_quiet
        intro request member
        obtain ⟨graph, about, -⟩ := earlier request member
        exact Request.isBuild_of_graph? about
      have asked : request ∈ requests ++ [request] := List.mem_append_right _ (.head _)
      obtain ⟨graph, about, last⟩ := own request asked
      rw [Engine.exchanges_append, ← List.append_assoc]
      refine (ih earlier).concat ?_
      intro other same
      obtain rfl : graph = other := Option.some.inj (about.symm.trans same)
      rw [buildAnswers_append, quiet, List.append_nil, last]

structure Recorder.Onward (start : UInt32) (recorder : Recorder) (transcript : List Exchange) :
    Prop where
  counted : recorder.counter = start + .ofNat (plansOf transcript).length
  named : (plansOf transcript).map Plan.location = (plansOf transcript).mapIdx fun number plan =>
    OutputPath.text recorder.config.outputTemplate (start + .ofNat (number + 1)) plan.layout
  path : ∀ session ∈ recorder.session, session.location =
    OutputPath.text recorder.config.outputTemplate recorder.counter session.layout
  live : ∀ session ∈ recorder.session,
    (buildAnswers transcript).getLast? = some (.ok session.graph)
  addressed : Addressed transcript

namespace Recorder.Onward

variable {σ : Type} [Engine σ] {start : UInt32} {recorder after : Recorder}
  {transcript : List Exchange}

theorem quiet (onward : recorder.Onward start transcript) (engine : σ) {requests : List Request}
    (own : ∀ request ∈ requests, ∃ session ∈ recorder.session, request.graph? = some session.graph)
    (config : after.config = recorder.config) (counter : after.counter = recorder.counter)
    (live : ∀ session ∈ after.session, ∃ old ∈ recorder.session,
      session.graph = old.graph ∧ session.location = old.location ∧ session.layout = old.layout) :
    after.Onward start (transcript ++ Engine.exchanges engine requests) := by
  have quiet : ∀ request ∈ requests, request.isBuild = false := by
    intro request member
    obtain ⟨session, -, about⟩ := own request member
    exact Request.isBuild_of_graph? about
  obtain ⟨counted, named, path, last, addressed⟩ := onward
  have unplanned := (Engine.unnamed_of_quiet engine quiet).1
  have unanswered := Engine.buildAnswers_of_quiet engine quiet
  refine ⟨?_, ?_, ?_, ?_, ?_⟩
  · rw [plansOf_append, unplanned, List.append_nil, counter, counted]
  · rw [plansOf_append, unplanned, List.append_nil, config, named]
  · intro session member
    obtain ⟨old, oldMember, -, location, layout⟩ := live session member
    rw [location, layout, config, counter]
    exact path old oldMember
  · intro session member
    obtain ⟨old, oldMember, graph, -⟩ := live session member
    rw [buildAnswers_append, unanswered, List.append_nil, graph]
    exact last old oldMember
  · apply addressed.exchanges engine
    intro request member
    obtain ⟨session, live, about⟩ := own request member
    exact ⟨session.graph, about, last session live⟩

theorem build (onward : recorder.Onward start transcript) {plan : Plan}
    (location : plan.location =
      OutputPath.text recorder.config.outputTemplate (recorder.counter + 1) plan.layout)
    (config : after.config = recorder.config) (idle : after.session = none)
    (counter : after.counter = recorder.counter + 1) (result : Except SinkError GraphId) :
    (after.launched plan result).Onward start (transcript ++ [⟨.build plan, .built result⟩]) := by
  obtain ⟨counted, named, path, last, addressed⟩ := onward
  have next : recorder.counter + 1 = start + .ofNat ((plansOf transcript).length + 1) := by
    rw [counted, UInt32.ofNat_add, UInt32.add_assoc]
    rfl
  have planned : plansOf [⟨.build plan, .built result⟩] = [plan] := rfl
  have answered : buildAnswers [⟨.build plan, .built result⟩] = [result] := rfl
  refine ⟨?_, ?_, ?_, ?_, ?_⟩
  · rw [launched_counter, counter, next, plansOf_append, planned, List.length_append]
    rfl
  · rw [launched_config, config, plansOf_append, planned, List.map_append, named,
      List.mapIdx_append, List.map_singleton, location, next]
    simp
  · intro session live
    cases result with
    | error fault =>
        rw [launched, idle] at live
        cases live
    | ok graph =>
        obtain rfl := Option.some.inj (Option.mem_def.mp live)
        rw [launched_counter, launched_config, counter, config]
        exact location
  · intro session live
    rw [buildAnswers_append, answered, List.getLast?_concat]
    cases result with
    | error fault =>
        rw [launched, idle] at live
        cases live
    | ok graph =>
        obtain rfl := Option.some.inj (Option.mem_def.mp live)
        rfl
  · apply addressed.concat
    intro graph about
    cases about

theorem move {move : Move} (onward : recorder.Onward start transcript) (engine : σ)
    (admitted : recorder.Admits move) : (move.outcome engine recorder).Onward start
      (transcript ++ Engine.exchanges engine (move.requests recorder)) := by
  cases admitted with
  | rest video audio matching =>
      exact onward.quiet engine (by simp [Move.requests]) rfl rfl
        (fun session member => ⟨session, member, rfl, rfl, rfl⟩)
  | feed session timeline buffers live =>
      refine onward.quiet engine ?_ rfl rfl ?_
      · intro request member
        obtain ⟨entry, -, rfl⟩ := List.mem_map.mp member
        exact ⟨session, live, rfl⟩
      · intro fed member
        obtain rfl := Option.some.inj (Option.mem_def.mp member)
        exact ⟨session, live, rfl, rfl, rfl⟩
  | close video audio =>
      exact onward.quiet engine recorder.closing_graph? recorder.closed_config
        recorder.closed_counter (by simp [Move.outcome, withCodecs])
  | renew video audio active differs =>
      have closed : recorder.closed.Onward start
          (transcript ++ Engine.exchanges engine recorder.closing) :=
        onward.quiet engine recorder.closing_graph? recorder.closed_config
          recorder.closed_counter (by simp)
      rw [Move.requests, Engine.exchanges_append, ← List.append_assoc]
      refine closed.build ?_ ?_ ?_ ?_ _
      · rw [recorder.closed_counter, recorder.closed_config]
        rfl
      · simp [attempting, withCodecs]
      · simp [attempting]
      · rw [recorder.closed_counter]
        rfl

end Recorder.Onward

/-! ## Going on -/

theorem BuildsAgree.of_earlier {first second early late : List Exchange}
    (agree : BuildsAgree view first second) (before : early <+: first) (also : late <+: second) :
    BuildsAgree view early late := by
  intro number one two found other
  exact agree number one two (buildAnswers_of_earlier before found)
    (buildAnswers_of_earlier also other)

theorem BuildsAgree.of_map_eq {first second : List Exchange}
    (same : (buildAnswers first).map (fun answer => (answer.map view).toOption) =
      (buildAnswers second).map fun answer => (answer.map view).toOption) :
    BuildsAgree view first second := by
  intro number one two found other
  have alike := congrArg (·[number]?) same
  simpa [List.getElem?_map, found, other] using alike

namespace Owned

variable {σ τ : Type} [Engine σ] [Engine τ]

def continued (config : Config) (engine : σ) (history : List Command)
    (operations : List Operation) : Owned (TracedEngine σ) :=
  operations.foldl operate { studio := .resumed config engine history }

theorem continued_concat (config : Config) (engine : σ) (history : List Command)
    (operations : List Operation) (operation : Operation) :
    continued config engine history (operations ++ [operation]) =
      (continued config engine history operations).operate operation := by
  simp [continued]

theorem continued_sound (config : Config) (engine : σ) (history : List Command)
    (operations : List Operation) :
    (continued config engine history operations).studio.recorder.Sound := by
  induction operations using List.reverseRecOn with
  | nil => exact Studio.resumed_sound config engine history
  | append_singleton operations operation ih =>
      rw [continued_concat]
      exact operate_sound ih operation

theorem operate_transcript {owned : Owned (TracedEngine σ)} (sound : owned.studio.recorder.Sound)
    (operation : Operation) : owned.transcript <+: (owned.operate operation).transcript := by
  cases holding : owned.held with
  | false => rw [operate_of_gone holding]
  | true => exact ⟨_, (operate_plays sound holding operation).told.symm⟩

theorem operate_onward {owned : Owned (TracedEngine σ)} (sound : owned.studio.recorder.Sound)
    {start : UInt32} (onward : owned.studio.recorder.Onward start owned.transcript)
    (operation : Operation) :
    let after := owned.operate operation
    after.studio.recorder.Onward start after.transcript := by
  cases holding : owned.held with
  | false => rwa [operate_of_gone holding]
  | true =>
      have plays := operate_plays sound holding operation
      dsimp only
      rw [plays.told, plays.recorder]
      exact onward.move _ (operation.admitted sound)

theorem continued_onward {config : Config} {engine : σ} {history : List Command}
    (idle : (Studio.resumed config engine history).recorder.session = none)
    (operations : List Operation) :
    let owned := continued config engine history operations
    owned.studio.recorder.Onward (Studio.resumed config engine history).recorder.counter
      owned.transcript := by
  induction operations using List.reverseRecOn with
  | nil =>
      refine ⟨(UInt32.add_zero _).symm, rfl, ?_, ?_, ?_⟩
      · intro session member
        cases idle.symm.trans member
      · intro session member
        cases idle.symm.trans member
      · intro before later exchange graph split
        cases before <;> cases split
  | append_singleton operations operation ih =>
      rw [continued_concat]
      exact operate_onward (continued_sound config engine history operations) ih operation

theorem continued_transcript (config : Config) (engine : σ) (history : List Command)
    {earlier operations : List Operation} (before : earlier <+: operations) :
    (continued config engine history earlier).transcript <+:
      (continued config engine history operations).transcript := by
  have concat (operations : List Operation) (operation : Operation) :
      (continued config engine history operations).transcript <+:
        (continued config engine history (operations ++ [operation])).transcript := by
    rw [continued_concat]
    exact operate_transcript (continued_sound config engine history operations) operation
  exact isPrefix_of_concat concat before

theorem continued_abreast {config : Config} {first : σ} {second : τ} {past other : List Command}
    (start : (continued config first past []).Abreast view (continued config second other []))
    (operations : List Operation)
    (agree : BuildsAgree view (continued config first past operations).transcript
      (continued config second other operations).transcript) :
    (continued config first past operations).Abreast view
      (continued config second other operations) := by
  induction operations using List.reverseRecOn with
  | nil => exact start
  | append_singleton operations operation ih =>
      -- Transcripts only grow, so the builds agreed up to here as well.
      have before : operations <+: operations ++ [operation] := List.prefix_append _ _
      have abreast := ih (agree.of_earlier (continued_transcript config first past before)
        (continued_transcript config second other before))
      rw [continued_concat, continued_concat] at agree ⊢
      exact abreast.operate (continued_sound config first past operations)
        (continued_sound config second other operations) operation agree

theorem resumed_abreast {config : Config} {first : σ} {second : τ} {past other : List Command}
    (idle : (Studio.resumed config first past).recorder.session = none)
    (alsoIdle : (Studio.resumed config second other).recorder.session = none)
    (codecs : (Studio.resumed config first past).recorder.codecs =
      (Studio.resumed config second other).recorder.codecs) :
    (continued config first past []).Abreast view (continued config second other []) := by
  have configured {ρ : Type} [Engine ρ] (engine : ρ) (history : List Command) :
      (Studio.resumed config engine history).recorder.config = config.effective :=
    have start : (Studio.ofConfig config engine).recorder.Sound := Recorder.ofConfig_sound config
    Studio.run_config start history
  refine ⟨?_, rfl, rfl, rfl⟩
  change (Studio.resumed config first past).recorder.through view =
    (Studio.resumed config second other).recorder.through view
  rw [(Studio.resumed_sound config first past).through_of_idle view idle, configured, codecs,
    (Studio.resumed_sound config second other).through_of_idle view alsoIdle, configured]

/-- Nothing of its past but its codecs and the number of its builds reaches from one session of a
recorder into the next. -/
theorem sessions_are_isolated (view : GraphId → GraphId) (config : Config) (first : σ) (second : τ)
    (past other : List Command) (operations : List Operation)
    (idle : (Studio.resumed config first past).recorder.session = none)
    (alsoIdle : (Studio.resumed config second other).recorder.session = none)
    (codecs : (Studio.resumed config first past).recorder.codecs =
      (Studio.resumed config second other).recorder.codecs)
    (agree : BuildsAgree view (continued config first past operations).transcript
      (continued config second other operations).transcript) :
    ∀ earlier, earlier <+: operations →
      let one := continued config first past earlier
      let two := continued config second other earlier
      one.studio.recorder.phase = two.studio.recorder.phase ∧
        one.studio.recorder.layout = two.studio.recorder.layout ∧
        one.studio.recorder.timeline = two.studio.recorder.timeline ∧
        one.studio.recorder.codecs = two.studio.recorder.codecs ∧ one.held = two.held ∧
        one.transcript.map (Request.through view ∘ Exchange.request) =
          two.transcript.map (Request.through view ∘ Exchange.request) ∧
        one.studio.recorder.Onward (Studio.resumed config first past).recorder.counter
          one.transcript ∧
        two.studio.recorder.Onward (Studio.resumed config second other).recorder.counter
          two.transcript := by
  intro earlier before one two
  have abreast : one.Abreast view two :=
    continued_abreast (resumed_abreast idle alsoIdle codecs) earlier
      (agree.of_earlier (continued_transcript config first past before)
        (continued_transcript config second other before))
  have phases := congrArg Recorder.phase abreast.recorder
  have negotiated := congrArg Recorder.codecs abreast.recorder
  have layouts := congrArg Recorder.layout abreast.recorder
  have timelines := congrArg Recorder.timeline abreast.recorder
  rw [Recorder.through_layout, Recorder.through_layout] at layouts
  rw [Recorder.through_timeline, Recorder.through_timeline] at timelines
  exact ⟨phases, layouts, timelines, negotiated, abreast.held, abreast.requests,
    continued_onward idle earlier, continued_onward alsoIdle earlier⟩

/-- One recorder is new; the other has recorded before, and was refused a graph after that. The
graphs they get from then on have different numbers. -/
theorem sessions_are_isolated_after_failed_build :
    let blind : GraphId → GraphId := fun _ => 0
    let calm : DryEngine := { engine := {} }
    let busy : DryEngine := { engine := {}, builds := [none, some (.engine "busy")] }
    let past : List Command :=
      [.chooseVideo true, .pushAudio #[1] 7000000000 .whole, .stop, .chooseVideo false,
        .pushVideo #[2] 8000000000 .whole]
    let operations : List Operation :=
      [.perform (.chooseVideo true), .perform (.pushVideo #[3] 5000000000 .whole),
        .perform (.pushAudio #[4] 5001000000 .whole), .perform (.chooseAudio .alac),
        .perform .stop, .drop]
    let one := continued {} calm [] operations
    let two := continued {} busy past operations
    (Studio.resumed {} calm []).recorder.counter = 0 ∧
      (Studio.resumed {} busy past).recorder.counter = 2 ∧
      BuildsAgree blind one.transcript two.transcript ∧
      one.transcript.map (Request.through blind ∘ Exchange.request) =
        two.transcript.map (Request.through blind ∘ Exchange.request) := by
  intro blind calm busy past operations one two
  have agree : BuildsAgree blind one.transcript two.transcript :=
    BuildsAgree.of_map_eq (by decide +kernel)
  have isolated := sessions_are_isolated blind {} calm busy [] past operations (by decide +kernel)
    (by decide +kernel) (by decide +kernel) agree operations List.prefix_rfl
  exact ⟨by decide +kernel, by decide +kernel, agree, isolated.2.2.2.2.2.1⟩

end Owned

end StreamRecorder
