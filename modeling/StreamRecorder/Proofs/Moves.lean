import StreamRecorder.Command
import StreamRecorder.Proofs.Requests

/-!
# Moves

A command asks nothing of the engine, or feeds the live graph, or closes it, or closes it and builds
another. `Recorder.move` reads off a recorder which of these a command comes to, without an engine:
no answer of the engine has a say in it, except that the answer to a build decides whether a graph
is live afterwards.
-/

namespace StreamRecorder

/-! ## Closing a graph -/

def Session.closing (session : Session) (timeout : UInt64) : List Request :=
  session.layout.endpoints.map (.endOfStream session.graph) ++
    [.awaitCompletion session.graph timeout, .halt session.graph, .release session.graph]

namespace Recorder

def closing (recorder : Recorder) : List Request :=
  match recorder.session with
  | none => []
  | some session => session.closing recorder.config.flushTimeout

def closed (recorder : Recorder) : Recorder :=
  match recorder.session with
  | none => recorder
  | some _ => { recorder with session := none, phase := .idle }

end Recorder

namespace Studio

variable {σ : Type}

@[simp] theorem note_recorder (studio : Studio σ) (notice : Notice) :
    (studio.note notice).recorder = studio.recorder := rfl

@[simp] theorem note_engine (studio : Studio σ) (notice : Notice) :
    (studio.note notice).engine = studio.engine := rfl

@[simp] theorem noteAll_recorder (studio : Studio σ) (notices : List Notice) :
    (studio.noteAll notices).recorder = studio.recorder := by
  induction notices generalizing studio with
  | nil => rfl
  | cons notice notices ih => exact ih (studio.note notice)

@[simp] theorem noteAll_engine (studio : Studio σ) (notices : List Notice) :
    (studio.noteAll notices).engine = studio.engine := by
  induction notices generalizing studio with
  | nil => rfl
  | cons notice notices ih => exact ih (studio.note notice)

variable [Engine σ]

@[simp] theorem endStream_recorder (studio : Studio σ) (graph : GraphId) (endpoint : Endpoint) :
    (studio.endStream graph endpoint).recorder = studio.recorder := by
  unfold endStream
  split
  split <;> rfl

@[simp] theorem endStream_engine (studio : Studio σ) (graph : GraphId) (endpoint : Endpoint) :
    (studio.endStream graph endpoint).engine =
      (Engine.serve studio.engine (.endOfStream graph endpoint)).2 := by
  unfold endStream Engine.serve
  split
  split <;> simp_all

theorem foldl_endStream (studio : Studio σ) (graph : GraphId) (endpoints : List Endpoint) :
    (endpoints.foldl (fun studio endpoint => studio.endStream graph endpoint) studio).recorder =
        studio.recorder ∧
      (endpoints.foldl (fun studio endpoint => studio.endStream graph endpoint) studio).engine =
        Engine.afterAll studio.engine (endpoints.map (.endOfStream graph)) := by
  induction endpoints generalizing studio with
  | nil => exact ⟨rfl, rfl⟩
  | cons endpoint endpoints ih =>
      simpa [Engine.afterAll] using ih (studio.endStream graph endpoint)

theorem teardown_recorder (studio : Studio σ) :
    studio.teardown.recorder = studio.recorder.closed := by
  unfold teardown Recorder.closed
  cases live : studio.recorder.session with
  | none => rfl
  | some session =>
      have streams := (foldl_endStream studio.detach session.graph session.layout.endpoints).1
      simp only [close, awaitDrain, endStreams, note_recorder, streams]
      rfl

theorem teardown_engine (studio : Studio σ) :
    studio.teardown.engine = Engine.afterAll studio.engine studio.recorder.closing := by
  unfold teardown Recorder.closing
  cases live : studio.recorder.session with
  | none => rfl
  | some session =>
      have streams := foldl_endStream studio.detach session.graph session.layout.endpoints
      simp only [Session.closing, Engine.afterAll_append, Engine.afterAll, Engine.serve,
        close, awaitDrain, endStreams, note_engine, streams]
      rfl

end Studio

/-! ## Building a graph -/

namespace Recorder

def planned (recorder : Recorder) : Plan :=
  { layout := recorder.desiredLayout
    branches := Plan.branchesOf recorder.desiredLayout recorder.config.audioFormat
    location := OutputPath.text recorder.config.outputTemplate (recorder.counter + 1)
      recorder.desiredLayout }

def launched (recorder : Recorder) (plan : Plan) (result : Except SinkError GraphId) : Recorder :=
  match result with
  | .ok graph =>
      { recorder with
        session := some { graph, layout := plan.layout, location := plan.location }
        phase := .running }
  | .error _ => recorder

end Recorder

namespace Plan

theorem ofLayout_of_nonempty {layout : Layout} (nonempty : layout.isEmpty = false)
    (format : AudioFormat) (location : String) :
    ofLayout layout format location = .ok { layout, branches := branchesOf layout format, location } := by
  simp [ofLayout, nonempty]

end Plan

namespace Studio

variable {σ : Type} [Engine σ]

theorem launch_recorder (studio : Studio σ) (plan : Plan) :
    (studio.launch plan).recorder =
      studio.recorder.launched plan (Engine.build studio.engine plan).1 := by
  unfold launch Recorder.launched
  split
  split <;> simp_all [begin]

theorem launch_engine (studio : Studio σ) (plan : Plan) :
    (studio.launch plan).engine = (Engine.build studio.engine plan).2 := by
  unfold launch
  split
  split <;> simp_all [begin]

theorem build_recorder (studio : Studio σ) (nonempty : studio.recorder.desiredLayout.isEmpty = false) :
    (studio.build studio.recorder.desiredLayout).recorder =
      { studio.recorder with counter := studio.recorder.counter + 1 }.launched
        studio.recorder.planned (Engine.build studio.engine studio.recorder.planned).1 := by
  unfold build
  simp only [Plan.ofLayout_of_nonempty nonempty, launch_recorder]
  rfl

theorem build_engine (studio : Studio σ) (nonempty : studio.recorder.desiredLayout.isEmpty = false) :
    (studio.build studio.recorder.desiredLayout).engine =
      (Engine.build studio.engine studio.recorder.planned).2 := by
  unfold build
  simp only [Plan.ofLayout_of_nonempty nonempty, launch_engine]
  rfl

end Studio

/-! ## Moves -/

inductive Move where
  | rest (after : Recorder)
  | feed (graph : GraphId) (buffers : List (Endpoint × Buffer)) (after : Recorder)
  | close (after : Recorder)
  /-- What is live is closed, and a graph is built; the recorder is the one before the answer. -/
  | renew (plan : Plan) (after : Recorder)

namespace Move

def requests (before : Recorder) : Move → List Request
  | rest _ => []
  | feed graph buffers _ => buffers.map fun (endpoint, buffer) => .push graph endpoint buffer
  | close _ => before.closing
  | renew plan _ => before.closing ++ [.build plan]

def outcome {σ : Type} [Engine σ] (engine : σ) (before : Recorder) : Move → Recorder
  | rest after | feed _ _ after | close after => after
  | renew plan after =>
      after.launched plan (Engine.build (Engine.afterAll engine before.closing) plan).1

end Move

namespace Recorder

def withCodecs (recorder : Recorder) (video : VideoCodec) (audio : AudioCodec) : Recorder :=
  { recorder with videoCodec := video, audioCodec := audio }

def attempting (recorder : Recorder) : Recorder :=
  { recorder.closed with counter := recorder.counter + 1 }

def starting (recorder : Recorder) : Move :=
  if recorder.layout = some recorder.desiredLayout then .rest recorder
  else .renew recorder.planned recorder.attempting

def hearing (recorder : Recorder) : Move :=
  match recorder.audioCodec with
  | .aacEld =>
      if recorder.carriesOtherAudio .aacEld then .close recorder.closed else .rest recorder
  | .alac => recorder.starting

def silenceBefore (recorder : Recorder) (memory : Memory) (gap : Option UInt64) :
    List (Endpoint × Buffer) :=
  match gap with
  | none => []
  | some gap =>
      match Silence.buffer memory.silence gap recorder.config.audioFormat with
      | .ok silence => [(.audio, silence)]
      | .error _ => []

def feeding (recorder : Recorder) (session : Session) (timeline : Timeline)
    (buffers : List (Endpoint × Buffer)) : Move :=
  .feed session.graph buffers { recorder with session := some { session with timeline } }

def move (recorder : Recorder) : Command → Move
  | .chooseAudio codec =>
      if !recorder.config.audioEnabled then .rest recorder
      else (recorder.withCodecs recorder.videoCodec codec).hearing
  | .chooseVideo hevc =>
      if !recorder.config.isActive then .rest recorder
      else (recorder.withCodecs (VideoCodec.ofHevc hevc) recorder.audioCodec).starting
  | .pushVideo data timestamp memory =>
      if !recorder.config.videoEnabled then .rest recorder
      else match recorder.session, Buffer.copy memory.frame data with
        | some session, .ok buffer =>
            let (presentation, timeline) := session.timeline.stampVideo timestamp
            recorder.feeding session timeline [(.video, buffer.withTimestamp presentation)]
        | _, _ => .rest recorder
  | .pushAudio data timestamp memory =>
      if !recorder.config.audioEnabled then .rest recorder
      else match recorder.session, Buffer.copy memory.frame data with
        | some session, .ok buffer =>
            let (stamp, timeline) := session.timeline.stampAudio timestamp session.layout.hasVideo
            recorder.feeding session timeline (recorder.silenceBefore memory stamp.silence
              ++ [(.audio, buffer.withTimestamp stamp.presentation)])
        | _, _ => .rest recorder
  | .stop =>
      match recorder.session with
      | none => .rest recorder
      | some _ => .close recorder.closed.forgetCodecs

/-! ## Sound recorders -/

structure Sound (recorder : Recorder) : Prop where
  phase : recorder.phase = if recorder.session.isSome then .running else .idle
  layout : ∀ session ∈ recorder.session, session.layout = recorder.desiredLayout
  active : ∀ session ∈ recorder.session, recorder.config.isActive = true

variable {recorder : Recorder}

theorem desiredLayout_isEmpty (recorder : Recorder) :
    recorder.desiredLayout.isEmpty = !recorder.config.isActive := by
  cases audio : recorder.config.audioEnabled <;> cases video : recorder.config.videoEnabled <;>
    simp [desiredLayout, Layout.isEmpty, Config.isActive, audio, video]

@[simp] theorem closed_session (recorder : Recorder) : recorder.closed.session = none := by
  unfold closed
  split <;> simp_all

@[simp] theorem closed_config (recorder : Recorder) : recorder.closed.config = recorder.config := by
  unfold closed
  split <;> rfl

@[simp] theorem closed_counter (recorder : Recorder) :
    recorder.closed.counter = recorder.counter := by
  unfold closed
  split <;> rfl

@[simp] theorem closed_videoCodec (recorder : Recorder) :
    recorder.closed.videoCodec = recorder.videoCodec := by
  unfold closed
  split <;> rfl

@[simp] theorem closed_audioCodec (recorder : Recorder) :
    recorder.closed.audioCodec = recorder.audioCodec := by
  unfold closed
  split <;> rfl

@[simp] theorem closed_desiredLayout (recorder : Recorder) :
    recorder.closed.desiredLayout = recorder.desiredLayout := by
  unfold closed
  split <;> rfl

@[simp] theorem closed_closing (recorder : Recorder) : recorder.closed.closing = [] := by
  simp [closing]

@[simp] theorem closed_closed (recorder : Recorder) : recorder.closed.closed = recorder.closed := by
  rw [closed, closed_session]

@[simp] theorem closed_layout (recorder : Recorder) : recorder.closed.layout = none := by
  simp [layout]

@[simp] theorem closed_planned (recorder : Recorder) : recorder.closed.planned = recorder.planned := by
  simp [planned]

theorem starting_of_differs (differs : recorder.layout ≠ some recorder.desiredLayout) :
    recorder.starting = .renew recorder.planned recorder.attempting :=
  if_neg differs

end Recorder

end StreamRecorder
