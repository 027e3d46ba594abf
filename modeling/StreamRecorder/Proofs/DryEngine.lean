import StreamRecorder.DryRun
import StreamRecorder.Proofs.Sound

/-!
# The dry engine under a recorder

What the memory engine notes of a request can be read off the answer that comes out of the fault
scripts in front of it (`Passage`). A recorder's moves lose no request, since the memory engine
holds the graph of the live session and no other (`Carries`).
-/

namespace StreamRecorder

def Exchange.event? : Exchange → Option Event
  | ⟨.build plan, .built (.ok graph)⟩ => some (.built graph plan.location plan.layout)
  | ⟨.push graph endpoint buffer, .accepted (.ok ())⟩ => some (.pushed graph endpoint buffer)
  | ⟨.endOfStream graph endpoint, .accepted (.ok ())⟩ => some (.endOfStream graph endpoint)
  | ⟨.awaitCompletion graph timeout, .completed completion⟩ =>
      some (.waited graph timeout completion)
  | ⟨.halt graph, _⟩ => some (.halted graph)
  | ⟨.release graph, _⟩ => some (.released graph)
  | _ => none

theorem Exchange.request_of_built {exchange : Exchange} {graph : GraphId} {location : String}
    {layout : Layout} (noted : exchange.event? = some (.built graph location layout)) :
    ∃ plan : Plan, exchange.request = .build plan ∧ plan.layout = layout := by
  unfold event? at noted
  split at noted
  all_goals cases noted
  exact ⟨_, rfl, rfl⟩

namespace FaultyEngine

variable {σ : Type} [Engine σ]

theorem serve_cases (faulty : FaultyEngine σ) (request : Request) :
    (Exchange.event? ⟨request, (Engine.serve faulty request).1⟩ = none ∧
        (Engine.serve faulty request).2.engine = faulty.engine) ∨
      ((Engine.serve faulty request).1 = (Engine.serve faulty.engine request).1 ∧
        (Engine.serve faulty request).2.engine = (Engine.serve faulty.engine request).2) := by
  cases request with
  | build plan =>
      simp only [Engine.serve, Engine.build, FaultyEngine.build]
      cases next? faulty.builds with
      | none => exact .inr ⟨rfl, rfl⟩
      | some fault => exact .inl ⟨rfl, rfl⟩
  | push graph endpoint buffer =>
      simp only [Engine.serve, Engine.push, FaultyEngine.push]
      cases next? faulty.pushes with
      | none => exact .inr ⟨rfl, rfl⟩
      | some fault => exact .inl ⟨rfl, rfl⟩
  | endOfStream graph endpoint =>
      simp only [Engine.serve, Engine.endOfStream, FaultyEngine.endOfStream]
      cases next? faulty.endings with
      | none => exact .inr ⟨rfl, rfl⟩
      | some fault => exact .inl ⟨rfl, rfl⟩
  | awaitCompletion graph timeout => exact .inr ⟨rfl, rfl⟩
  | halt graph => exact .inr ⟨rfl, rfl⟩
  | release graph => exact .inr ⟨rfl, rfl⟩

end FaultyEngine

/-! ## What is noted of a request -/

def Exchange.endingFault? : Exchange → Option SinkError
  | ⟨.endOfStream _ _, .accepted (.error fault)⟩ => some fault
  | _ => none

namespace MemoryEngine

/-- What must be there for a request not to be lost. -/
def Serves (memory : MemoryEngine) : Request → Prop
  | .endOfStream graph endpoint => memory.hasEndpoint graph endpoint = true
  | .awaitCompletion graph _ | .halt graph | .release graph => memory.isLive graph = true
  | .build _ | .push _ _ _ => True

theorem serve_events (memory : MemoryEngine) (request : Request) (serves : memory.Serves request) :
    (Engine.serve memory request).2.events.toList = memory.events.toList ++
      (Exchange.event? ⟨request, (Engine.serve memory request).1⟩).toList := by
  cases request with
  | build plan =>
      simp only [Engine.serve, Engine.build, build]
      split <;> simp [note, Exchange.event?]
  | push graph endpoint buffer =>
      simp only [Engine.serve, Engine.push, push]
      split <;> simp [note, Exchange.event?]
  | endOfStream graph endpoint =>
      simp only [Serves] at serves
      simp [Engine.serve, Engine.endOfStream, endOfStream, serves, note, Exchange.event?]
  | awaitCompletion graph timeout =>
      simp only [Serves] at serves
      simp [Engine.serve, Engine.awaitCompletion, awaitCompletion, serves, note, Exchange.event?]
  | halt graph =>
      simp only [Serves] at serves
      simp [Engine.serve, Engine.halt, halt, serves, note, Exchange.event?]
  | release graph =>
      simp only [Serves] at serves
      simp [Engine.serve, Engine.release, release, serves, note, Exchange.event?]

end MemoryEngine

namespace FaultyEngine

variable {σ : Type} [Engine σ]

theorem serve_scripts (faulty : FaultyEngine σ) (request : Request) :
    (Engine.serve faulty request).2.pushes <:+ faulty.pushes ∧
      (Engine.serve faulty request).2.endings <:+ faulty.endings := by
  cases request with
  | build plan =>
      simp only [Engine.serve, Engine.build, FaultyEngine.build]
      split <;> exact ⟨List.suffix_refl _, List.suffix_refl _⟩
  | push graph endpoint buffer =>
      simp only [Engine.serve, Engine.push, FaultyEngine.push]
      split <;> exact ⟨List.tail_suffix _, List.suffix_refl _⟩
  | endOfStream graph endpoint =>
      simp only [Engine.serve, Engine.endOfStream, FaultyEngine.endOfStream]
      split <;> exact ⟨List.suffix_refl _, List.tail_suffix _⟩
  | awaitCompletion graph timeout => exact ⟨List.suffix_refl _, List.suffix_refl _⟩
  | halt graph => exact ⟨List.suffix_refl _, List.suffix_refl _⟩
  | release graph => exact ⟨List.suffix_refl _, List.suffix_refl _⟩

theorem mem_of_next? {script : FaultScript} {fault : SinkError} (next : next? script = some fault) :
    some fault ∈ script := by
  simp only [next?, Option.join_eq_some_iff] at next
  exact List.mem_of_head? next

end FaultyEngine

namespace DryEngine

/-- Between two states of the engine lie these exchanges, and nothing else happened. -/
structure Passage (before : DryEngine) (exchanged : List Exchange) (after : DryEngine) : Prop where
  events : after.engine.events.toList =
    before.engine.events.toList ++ exchanged.filterMap Exchange.event?
  pushes : after.pushes <:+ before.pushes
  endings : after.endings <:+ before.endings
  scripted : ∀ fault ∈ exchanged.filterMap Exchange.endingFault?, some fault ∈ before.endings

theorem Passage.refl (dry : DryEngine) : Passage dry [] dry :=
  ⟨by simp, List.suffix_refl _, List.suffix_refl _, by simp⟩

theorem Passage.trans {before middle after : DryEngine} {first rest : List Exchange}
    (start : Passage before first middle) (finish : Passage middle rest after) :
    Passage before (first ++ rest) after := by
  refine ⟨?_, finish.pushes.trans start.pushes, finish.endings.trans start.endings, ?_⟩
  · simp [finish.events, start.events]
  · intro fault met
    rw [List.filterMap_append, List.mem_append] at met
    cases met with
    | inl early => exact start.scripted fault early
    | inr late => exact start.endings.subset (finish.scripted fault late)

theorem serve_passage (dry : DryEngine) (request : Request) (serves : dry.engine.Serves request) :
    Passage dry [⟨request, (Engine.serve dry request).1⟩] (Engine.serve dry request).2 := by
  refine ⟨?_, (dry.serve_scripts request).1, (dry.serve_scripts request).2, ?_⟩
  · rcases dry.serve_cases request with ⟨unnoted, same⟩ | ⟨answer, engine⟩
    · simp [unnoted, same]
    · rw [engine, answer, dry.engine.serve_events request serves]
      cases noted : Exchange.event? ⟨request, (Engine.serve dry.engine request).1⟩ <;> simp [noted]
  · intro fault met
    cases request with
    | endOfStream graph endpoint =>
        simp only [Engine.serve, Engine.endOfStream, FaultyEngine.endOfStream] at met
        cases scripted : FaultyEngine.next? dry.endings with
        | some entry =>
            have same : fault = entry := by simpa [scripted, Exchange.endingFault?] using met
            exact same ▸ FaultyEngine.mem_of_next? scripted
        | none =>
            simp only [MemoryEngine.Serves] at serves
            simp [scripted, MemoryEngine.endOfStream, serves, Exchange.endingFault?] at met
    | build plan => simp [Exchange.endingFault?] at met
    | push graph endpoint buffer => simp [Exchange.endingFault?] at met
    | awaitCompletion graph timeout => simp [Exchange.endingFault?] at met
    | halt graph => simp [Exchange.endingFault?] at met
    | release graph => simp [Exchange.endingFault?] at met

end DryEngine

/-! ## The live graph -/

def Session.liveGraph (session : Session) : LiveGraph :=
  { id := session.graph, endpoints := session.layout.endpoints }

def Request.keepsGraphs : Request → Bool
  | .push _ _ _ | .awaitCompletion _ _ | .halt _ => true
  | .build _ | .endOfStream _ _ | .release _ => false

namespace MemoryEngine

/-- The memory engine holds the graph of the live session and no other, and never held two. -/
structure Carries (memory : MemoryEngine) (session : Option Session) : Prop where
  graphs : memory.graphs = (session.map Session.liveGraph).toList
  live : memory.counts.live = session.toList.length
  alone : memory.counts.mostLive ≤ 1

variable {memory : MemoryEngine} {graph : LiveGraph}

theorem isLive_of_only (only : memory.graphs = [graph]) : memory.isLive graph.id = true := by
  simp [isLive, graph?, only]

theorem hasEndpoint_of_only (only : memory.graphs = [graph]) {endpoint : Endpoint}
    (member : endpoint ∈ graph.endpoints) : memory.hasEndpoint graph.id endpoint = true := by
  simp [hasEndpoint, graph?, only, member]

theorem endOfStream_of_only (only : memory.graphs = [graph]) {endpoint : Endpoint}
    (member : endpoint ∈ graph.endpoints) :
    (memory.endOfStream graph.id endpoint).2.graphs = [LiveGraph.finish graph endpoint] ∧
      (memory.endOfStream graph.id endpoint).2.counts = memory.counts := by
  simp [endOfStream, hasEndpoint_of_only only member, note, only]

theorem release_of_only (only : memory.graphs = [graph]) :
    (memory.release graph.id).graphs = [] ∧
      (memory.release graph.id).counts = memory.counts.afterRelease := by
  simp [release, isLive_of_only only, note, only]

theorem serve_graphs (memory : MemoryEngine) (request : Request)
    (quiet : request.keepsGraphs = true) :
    (Engine.serve memory request).2.graphs = memory.graphs ∧
      (Engine.serve memory request).2.counts = memory.counts := by
  cases request with
  | build plan => cases quiet
  | push graph endpoint buffer =>
      simp only [Engine.serve, Engine.push, push]
      split <;> exact ⟨rfl, rfl⟩
  | endOfStream graph endpoint => cases quiet
  | awaitCompletion graph timeout =>
      simp only [Engine.serve, Engine.awaitCompletion, awaitCompletion]
      split <;> exact ⟨rfl, rfl⟩
  | halt graph =>
      simp only [Engine.serve, Engine.halt, halt]
      split <;> exact ⟨rfl, rfl⟩
  | release graph => cases quiet

end MemoryEngine

theorem Plan.branchesOf_endpoints (layout : Layout) (format : AudioFormat) :
    (branchesOf layout format).map (·.endpoint) = layout.endpoints := by
  obtain ⟨video, audio⟩ := layout
  have ofVideo (codec : VideoCodec) : (Branch.ofVideo codec).endpoint = .video := by
    cases codec <;> rfl
  have ofAudio (codec : AudioCodec) : (Branch.ofAudio format codec).endpoint = .audio := by
    cases codec <;> rfl
  cases video <;> cases audio <;>
    simp [branchesOf, Layout.endpoints, Layout.hasVideo, Layout.hasAudio, ofVideo, ofAudio]

theorem Recorder.planned_endpoints (recorder : Recorder) :
    recorder.planned.endpoints = recorder.desiredLayout.endpoints :=
  Plan.branchesOf_endpoints recorder.desiredLayout recorder.config.audioFormat

namespace DryEngine

variable {dry : DryEngine}

theorem serve_graphs (dry : DryEngine) (request : Request) (quiet : request.keepsGraphs = true) :
    (Engine.serve dry request).2.engine.graphs = dry.engine.graphs ∧
      (Engine.serve dry request).2.engine.counts = dry.engine.counts := by
  rcases dry.serve_cases request with ⟨-, same⟩ | ⟨-, engine⟩
  · rw [same]
    exact ⟨rfl, rfl⟩
  · rw [engine]
    exact dry.engine.serve_graphs request quiet

/-- Whether the end of a stream is accepted is for the script to say; the graph stays. -/
theorem endOfStream_of_only {graph : LiveGraph} (only : dry.engine.graphs = [graph])
    {endpoint : Endpoint} (member : endpoint ∈ graph.endpoints) :
    ∃ next : LiveGraph, next.id = graph.id ∧ next.endpoints = graph.endpoints ∧
      (Engine.endOfStream dry graph.id endpoint).2.engine.graphs = [next] ∧
      (Engine.endOfStream dry graph.id endpoint).2.engine.counts = dry.engine.counts := by
  simp only [Engine.endOfStream, FaultyEngine.endOfStream]
  cases FaultyEngine.next? dry.endings with
  | some fault => exact ⟨graph, rfl, rfl, only, rfl⟩
  | none =>
      obtain ⟨graphs, counts⟩ := MemoryEngine.endOfStream_of_only only member
      exact ⟨MemoryEngine.LiveGraph.finish graph endpoint, rfl, rfl, graphs, counts⟩

theorem afterAll_streams {graph : LiveGraph} (only : dry.engine.graphs = [graph])
    (endpoints : List Endpoint) (members : ∀ endpoint ∈ endpoints, endpoint ∈ graph.endpoints) :
    let requests := endpoints.map (Request.endOfStream graph.id)
    let after := Engine.afterAll dry requests
    Passage dry (Engine.exchanges dry requests) after ∧
      ∃ next : LiveGraph, next.id = graph.id ∧ after.engine.graphs = [next] ∧
        after.engine.counts = dry.engine.counts := by
  induction endpoints generalizing dry graph with
  | nil => exact ⟨Passage.refl dry, graph, rfl, only, rfl⟩
  | cons endpoint endpoints ih =>
      have member := members endpoint List.mem_cons_self
      obtain ⟨next, id, same, graphs, counts⟩ := endOfStream_of_only only member
      have first := dry.serve_passage (.endOfStream graph.id endpoint)
        (MemoryEngine.hasEndpoint_of_only only member)
      have later : ∀ endpoint ∈ endpoints, endpoint ∈ next.endpoints := by
        intro endpoint listed
        rw [same]
        exact members endpoint (List.mem_cons_of_mem _ listed)
      obtain ⟨rest, last, lastId, lastGraphs, lastCounts⟩ := ih graphs later
      rw [id] at rest lastId lastGraphs lastCounts
      exact ⟨first.trans rest, last, lastId, lastGraphs, lastCounts.trans counts⟩

theorem afterAll_closing {session : Session} (carries : dry.engine.Carries (some session))
    (timeout : UInt64) :
    Passage dry (Engine.exchanges dry (session.closing timeout))
        (Engine.afterAll dry (session.closing timeout)) ∧
      (Engine.afterAll dry (session.closing timeout)).engine.Carries none := by
  have only : dry.engine.graphs = [session.liveGraph] := carries.graphs
  obtain ⟨streams, next, id, graphs, counts⟩ :=
    afterAll_streams only session.layout.endpoints (fun _ member => member)
  simp only [Session.liveGraph] at id streams graphs counts
  let flushed := Engine.afterAll dry (session.layout.endpoints.map (.endOfStream session.graph))
  let drained := (Engine.serve flushed (.awaitCompletion session.graph timeout)).2
  let halted := (Engine.serve drained (.halt session.graph)).2
  have drainKeeps := flushed.serve_graphs (.awaitCompletion session.graph timeout) rfl
  have haltKeeps := drained.serve_graphs (.halt session.graph) rfl
  have drainedGraphs : drained.engine.graphs = [next] := drainKeeps.1.trans graphs
  have haltedGraphs : halted.engine.graphs = [next] := haltKeeps.1.trans drainedGraphs
  have haltedCounts : halted.engine.counts = dry.engine.counts :=
    haltKeeps.2.trans (drainKeeps.2.trans counts)
  have released := MemoryEngine.release_of_only haltedGraphs
  rw [id, haltedCounts] at released
  rw [Session.closing, Engine.exchanges_append, Engine.afterAll_append]
  constructor
  · have waitPassage := flushed.serve_passage (.awaitCompletion session.graph timeout)
      (id ▸ MemoryEngine.isLive_of_only graphs)
    have haltPassage := drained.serve_passage (.halt session.graph)
      (id ▸ MemoryEngine.isLive_of_only drainedGraphs)
    have releasePassage := halted.serve_passage (.release session.graph)
      (id ▸ MemoryEngine.isLive_of_only haltedGraphs)
    exact streams.trans (waitPassage.trans (haltPassage.trans releasePassage))
  · refine ⟨released.1, ?_, ?_⟩
    · exact (congrArg GraphCounts.live released.2).trans (by simp [GraphCounts.afterRelease, carries.live])
    · exact (congrArg GraphCounts.mostLive released.2).le.trans carries.alone

theorem afterAll_pushes (dry : DryEngine) (graph : GraphId) (buffers : List (Endpoint × Buffer)) :
    let requests := buffers.map fun (endpoint, buffer) => Request.push graph endpoint buffer
    let after := Engine.afterAll dry requests
    Passage dry (Engine.exchanges dry requests) after ∧
      after.engine.graphs = dry.engine.graphs ∧ after.engine.counts = dry.engine.counts := by
  induction buffers generalizing dry with
  | nil => exact ⟨Passage.refl dry, rfl, rfl⟩
  | cons entry buffers ih =>
      obtain ⟨endpoint, buffer⟩ := entry
      let next := (Engine.serve dry (.push graph endpoint buffer)).2
      have kept := dry.serve_graphs (.push graph endpoint buffer) rfl
      obtain ⟨rest, graphs, counts⟩ := ih next
      exact ⟨(dry.serve_passage (.push graph endpoint buffer) trivial).trans rest,
        graphs.trans kept.1, counts.trans kept.2⟩

theorem build_carries (carries : dry.engine.Carries none) (recorder : Recorder) (before : Recorder)
    (idle : before.session = none) :
    (Engine.build dry recorder.planned).2.engine.Carries
      (before.launched recorder.planned (Engine.build dry recorder.planned).1).session := by
  simp only [Engine.build, FaultyEngine.build]
  cases FaultyEngine.next? dry.builds with
  | some fault => exact (show (before.launched _ (.error fault)).session = none from idle) ▸ carries
  | none =>
      simp only [MemoryEngine.build]
      cases dry.engine.refusesNextBuild with
      | true =>
          simp only [if_true, Recorder.launched, idle]
          exact ⟨carries.graphs, carries.live, carries.alone⟩
      | false =>
          refine ⟨?_, ?_, ?_⟩
          · simp [MemoryEngine.note, Recorder.launched, carries.graphs, Session.liveGraph,
              recorder.planned_endpoints]
            rfl
          · simp [MemoryEngine.note, Recorder.launched, carries.live, GraphCounts.afterBuild]
          · simp [MemoryEngine.note, GraphCounts.afterBuild, carries.live, carries.alone]

theorem afterAll_recorder_closing {recorder : Recorder}
    (carries : dry.engine.Carries recorder.session) :
    Passage dry (Engine.exchanges dry recorder.closing) (Engine.afterAll dry recorder.closing) ∧
      (Engine.afterAll dry recorder.closing).engine.Carries none := by
  unfold Recorder.closing
  cases live : recorder.session with
  | none =>
      rw [live] at carries
      exact ⟨Passage.refl dry, carries⟩
  | some session => exact afterAll_closing (live ▸ carries) recorder.config.flushTimeout

theorem move_carries {recorder : Recorder} (carries : dry.engine.Carries recorder.session)
    {move : Move} (admitted : recorder.Admits move) :
    let requests := move.requests recorder
    Passage dry (Engine.exchanges dry requests) (Engine.afterAll dry requests) ∧
      (Engine.afterAll dry requests).engine.Carries (move.outcome dry recorder).session := by
  cases admitted with
  | rest video audio matching => exact ⟨Passage.refl dry, carries⟩
  | feed session timeline buffers live =>
      obtain ⟨passage, graphs, counts⟩ := afterAll_pushes dry session.graph buffers
      rw [live] at carries
      exact ⟨passage, graphs.trans carries.graphs, counts ▸ carries.live, counts ▸ carries.alone⟩
  | close video audio =>
      obtain ⟨passage, gone⟩ := afterAll_recorder_closing carries
      exact ⟨passage, (recorder.closed_session : _) ▸ gone⟩
  | renew video audio active differs =>
      obtain ⟨passage, gone⟩ := afterAll_recorder_closing carries
      let chosen := recorder.withCodecs video audio
      let torn := Engine.afterAll dry recorder.closing
      simp only [Move.requests, Engine.exchanges_append, Engine.afterAll_append]
      refine ⟨passage.trans (torn.serve_passage (.build chosen.planned) trivial), ?_⟩
      exact build_carries gone chosen chosen.attempting (by simp [Recorder.attempting])

end DryEngine

/-! ## The numbers of graphs -/

def Event.builtGraph? : Event → Option GraphId
  | .built graph _ _ => some graph
  | _ => none

namespace MemoryEngine

def Numbered (memory : MemoryEngine) : Prop :=
  ∃ count, memory.counts.built = UInt32.ofNat count ∧
    memory.events.toList.filterMap Event.builtGraph? =
      (List.range count).map fun earlier => UInt32.ofNat (earlier + 1)

theorem serve_numbered {memory : MemoryEngine} (numbered : memory.Numbered) (request : Request) :
    (Engine.serve memory request).2.Numbered := by
  obtain ⟨count, built, graphs⟩ := numbered
  cases request with
  | build plan =>
      simp only [Engine.serve, Engine.build, build]
      split
      · exact ⟨count, built, graphs⟩
      · refine ⟨count + 1, ?_, ?_⟩
        · simp [note, GraphCounts.afterBuild, built]
        · simp [note, GraphCounts.afterBuild, built, graphs, Event.builtGraph?, List.range_succ]
  | push graph endpoint buffer =>
      simp only [Engine.serve, Engine.push, push]
      split
      · exact ⟨count, built, graphs⟩
      · exact ⟨count, built, by simp [note, graphs, Event.builtGraph?]⟩
  | endOfStream graph endpoint =>
      simp only [Engine.serve, Engine.endOfStream, endOfStream]
      split
      · exact ⟨count, built, by simp [note, graphs, Event.builtGraph?]⟩
      · exact ⟨count, built, graphs⟩
  | awaitCompletion graph timeout =>
      simp only [Engine.serve, Engine.awaitCompletion, awaitCompletion]
      split
      · exact ⟨count, built, by simp [note, graphs, Event.builtGraph?]⟩
      · exact ⟨count, built, graphs⟩
  | halt graph =>
      simp only [Engine.serve, Engine.halt, halt]
      split
      · exact ⟨count, built, by simp [note, graphs, Event.builtGraph?]⟩
      · exact ⟨count, built, graphs⟩
  | release graph =>
      simp only [Engine.serve, Engine.release, release]
      split
      · exact ⟨count, built, by simp [note, graphs, Event.builtGraph?]⟩
      · exact ⟨count, built, graphs⟩

end MemoryEngine

theorem DryEngine.afterAll_numbered {dry : DryEngine} (numbered : dry.engine.Numbered)
    (requests : List Request) : (Engine.afterAll dry requests).engine.Numbered := by
  induction requests generalizing dry with
  | nil => exact numbered
  | cons request rest ih =>
      apply ih
      rcases dry.serve_cases request with ⟨_, same⟩ | ⟨_, engine⟩
      · rwa [same]
      · rw [engine]
        exact MemoryEngine.serve_numbered numbered request

end StreamRecorder
