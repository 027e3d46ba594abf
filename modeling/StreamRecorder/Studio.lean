import StreamRecorder.Notice
import StreamRecorder.OutputPath
import StreamRecorder.Recorder
import StreamRecorder.Silence

/-!
# The recorder at work

A studio is a recorder with the engine it drives and the log it keeps. The recorder owns at most one
graph. It builds one when the codecs it needs are known, builds another when they change, and routes
the frames of both streams into it. Whatever the engine answers, a graph that was built is torn down
in full before the next one is built.
-/

namespace StreamRecorder

structure Studio (σ : Type) where
  recorder : Recorder
  engine : σ
  log : Array Notice := #[]

namespace Studio

variable {σ : Type}

def note (studio : Studio σ) (notice : Notice) : Studio σ :=
  { studio with log := studio.log.push notice }

def openingNotices (config : Config) : List Notice :=
  let enabled := config.effective
  (match config.validate with | .ok () => [] | .error fault => [.invalidConfig fault])
    ++ (if !enabled.isActive then [.nothingEnabled]
        else if !enabled.audioEnabled then [.audioDisabled]
        else if !enabled.videoEnabled then [.videoDisabled]
        else [])
    ++ (if enabled.isActive then [.initialized enabled.outputTemplate] else [])

def ofConfig (config : Config) (engine : σ) : Studio σ :=
  { recorder := .ofConfig config, engine, log := (openingNotices config).toArray }

def noteAll (studio : Studio σ) (notices : List Notice) : Studio σ :=
  notices.foldl note studio

def advance (studio : Studio σ) (session : Session) (timeline : Timeline) (timestamp : UInt64) :
    Studio σ :=
  { studio with recorder.session := some { session with timeline } }.noteAll
    (session.timeline.notices timestamp)

variable [Engine σ]

/-! ## Tearing a graph down -/

def endStream (studio : Studio σ) (graph : GraphId) (endpoint : Endpoint) : Studio σ :=
  let (answer, engine) := Engine.endOfStream studio.engine graph endpoint
  match answer with
  | .ok () => { studio with engine }
  | .error fault => { studio with engine }.note (.endOfStreamFailed endpoint fault)

def endStreams (studio : Studio σ) (session : Session) : Studio σ :=
  session.layout.endpoints.foldl (fun studio endpoint => studio.endStream session.graph endpoint)
    studio

def drainNotice (timeout : UInt64) : Completion → Notice
  | .endOfStream => .drained
  | .failed message => .drainFailed message
  | .timedOut => .drainTimedOut timeout

def awaitDrain (studio : Studio σ) (session : Session) : Studio σ :=
  let timeout := studio.recorder.config.flushTimeout
  let (completion, engine) := Engine.awaitCompletion studio.engine session.graph timeout
  { studio with engine }.note (drainNotice timeout completion)

def close (studio : Studio σ) (session : Session) : Studio σ :=
  let engine := Engine.release (Engine.halt studio.engine session.graph) session.graph
  { studio with engine, recorder.phase := .idle }.note (.stopped session.location)

def detach (studio : Studio σ) : Studio σ :=
  { studio with recorder := { studio.recorder with session := none, phase := .stopped } }

def teardown (studio : Studio σ) : Studio σ :=
  match studio.recorder.session with
  | none => studio
  | some session => ((studio.detach.endStreams session).awaitDrain session).close session

/-! ## Building a graph -/

def begin (studio : Studio σ) (graph : GraphId) (plan : Plan) : Studio σ :=
  let session := { graph, layout := plan.layout, location := plan.location }
  { studio with recorder := { studio.recorder with session := some session, phase := .running } }
    |>.note (.started plan.location)

def launch (studio : Studio σ) (plan : Plan) : Studio σ :=
  let (answer, engine) := Engine.build studio.engine plan
  let studio := { studio with engine }
  match answer with
  | .ok graph => studio.begin graph plan
  | .error fault => studio.note (.buildFailed fault)

def build (studio : Studio σ) (layout : Layout) : Studio σ :=
  let counter := studio.recorder.counter + 1
  let config := studio.recorder.config
  let location := OutputPath.text config.outputTemplate counter layout
  let studio := { studio with recorder.counter := counter }
  match Plan.ofLayout layout config.audioFormat location with
  | .error fault => studio.note (.buildFailed fault)
  | .ok plan => (studio.note (.planned plan)).launch plan

/-- Builds a graph for the negotiated codecs, unless the live one carries them already. -/
def start (studio : Studio σ) : Studio σ :=
  let layout := studio.recorder.desiredLayout
  if studio.recorder.layout = some layout then studio.note .alreadyRunning
  else studio.teardown.build layout

/-! ## Negotiation -/

def adoptAudio (studio : Studio σ) (codec : AudioCodec) : Studio σ :=
  let studio := { studio with recorder.audioCodec := codec }
  if studio.recorder.carriesOtherAudio codec then
    (studio.note (.audioCodecChanged codec)).teardown
  else studio

/-- Lossless audio starts a recording at once; AAC waits for the video codec. -/
def chooseAudio (studio : Studio σ) (codec : AudioCodec) : Studio σ :=
  if !studio.recorder.config.audioEnabled then studio
  else
    let studio := studio.adoptAudio codec
    match codec with
    | .aacEld => studio
    | .alac => studio.start

def adoptVideo (studio : Studio σ) (codec : VideoCodec) : Studio σ :=
  let studio := { studio with recorder.videoCodec := codec }
  if studio.recorder.config.videoEnabled && studio.recorder.carriesOtherVideo codec then
    (studio.note (.videoCodecChanged codec)).teardown
  else studio

def chooseVideo (studio : Studio σ) (hevc : Bool) : Studio σ :=
  if !studio.recorder.config.isActive then studio
  else
    let studio := studio.adoptVideo (VideoCodec.ofHevc hevc)
    (studio.note (.videoCodecChosen hevc)).start

/-! ## Frames -/

def pushFrame (studio : Studio σ) (graph : GraphId) (endpoint : Endpoint) (buffer : Buffer) :
    Studio σ :=
  let (answer, engine) := Engine.push studio.engine graph endpoint buffer
  match answer with
  | .ok () => { studio with engine }
  | .error fault =>
      { studio with engine }.note (.frameRefused endpoint buffer.presentation fault)

def pushSilence (studio : Studio σ) (memory : Memory) (graph : GraphId) (gap : UInt64) :
    Studio σ :=
  match Silence.buffer memory.silence gap studio.recorder.config.audioFormat with
  | .error fault => studio.note (.silenceDropped fault)
  | .ok silence =>
      let (answer, engine) := Engine.push studio.engine graph .audio silence
      let studio := { studio with engine }
      match answer with
      | .ok () => studio.note (.silenceInserted gap silence.size)
      | .error fault => studio.note (.silenceDropped fault)

def pushVideo (studio : Studio σ) (memory : Memory) (data : Payload) (timestamp : UInt64) :
    Studio σ :=
  if !studio.recorder.config.videoEnabled then studio
  else match studio.recorder.session with
    | none => studio
    | some session =>
        if !session.layout.hasVideo then studio
        else match Buffer.copy memory.frame data with
          | .error fault => studio.note (.frameDropped .video fault)
          | .ok buffer =>
              let (presentation, timeline) := session.timeline.stampVideo timestamp
              (studio.advance session timeline timestamp).pushFrame session.graph .video
                (buffer.withTimestamp presentation)

def pushAudio (studio : Studio σ) (memory : Memory) (data : Payload) (timestamp : UInt64) :
    Studio σ :=
  if !studio.recorder.config.audioEnabled then studio
  else match studio.recorder.session with
    | none => studio
    | some session =>
        if !session.layout.hasAudio then studio
        else match Buffer.copy memory.frame data with
          | .error fault => studio.note (.frameDropped .audio fault)
          | .ok buffer =>
              let (stamp, timeline) :=
                session.timeline.stampAudio timestamp session.layout.hasVideo
              let studio := studio.advance session timeline timestamp
              let studio := match stamp.silence with
                | none => studio
                | some gap => studio.pushSilence memory session.graph gap
              studio.pushFrame session.graph .audio (buffer.withTimestamp stamp.presentation)

/-! ## The end of a connection -/

/-- Closes the live recording. If there was one, the next connection negotiates from scratch. -/
def stop (studio : Studio σ) : Studio σ :=
  match studio.recorder.session with
  | none => studio
  | some _ =>
      let studio := studio.teardown
      { studio with recorder := studio.recorder.forgetCodecs }

def destroy (studio : Studio σ) : Studio σ :=
  (studio.stop.note .destroyed).teardown

end Studio

end StreamRecorder
