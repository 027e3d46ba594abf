import StreamRecorder.Proofs.Lifecycle
import StreamRecorder.Proofs.Tracks

namespace StreamRecorder

namespace Command

def frame? (config : Config) : Command → Option Frame
  | .pushVideo data timestamp _ =>
      if config.videoEnabled then some ⟨.video, data, timestamp⟩ else none
  | .pushAudio data timestamp _ =>
      if config.audioEnabled then some ⟨.audio, data, timestamp⟩ else none
  | .chooseAudio _ | .chooseVideo _ | .stop => none

def isSupplied (recorder : Recorder) : Command → Bool
  | .pushVideo data _ memory => memory.frame data.size
  | .pushAudio data timestamp memory => memory.frame data.size &&
      recorder.session.all fun session =>
        (session.timeline.stampAudio timestamp session.layout.hasVideo).1.silence.all fun gap =>
          memory.silence (Silence.length gap recorder.config.audioFormat).toNat
  | .chooseAudio _ | .chooseVideo _ | .stop => true

def memory : Command → Memory
  | .pushVideo _ _ memory | .pushAudio _ _ memory => memory
  | .chooseAudio _ | .chooseVideo _ | .stop => .whole

end Command

def Frame.stamped (frame : Frame) (presentation : UInt64) : Endpoint × Buffer :=
  (frame.endpoint, Buffer.withTimestamp { data := frame.data } presentation)

def Move.isFeed : Move → Bool
  | .feed _ _ _ => true
  | .rest _ | .close _ | .renew _ _ => false

namespace Recorder

variable {recorder : Recorder} {command : Command}

theorem starting_isFeed (recorder : Recorder) : recorder.starting.isFeed = false := by
  unfold starting
  split <;> rfl

theorem hearing_isFeed (recorder : Recorder) : recorder.hearing.isFeed = false := by
  unfold hearing
  split
  · split <;> rfl
  · exact recorder.starting_isFeed

theorem move_isFeed_of_no_frame (none : command.frame? recorder.config = none) :
    (recorder.move command).isFeed = false := by
  cases command with
  | chooseAudio codec =>
      simp only [move]
      split
      · rfl
      · exact hearing_isFeed _
  | chooseVideo hevc =>
      simp only [move]
      split
      · rfl
      · exact starting_isFeed _
  | pushVideo data timestamp memory =>
      have disabled : recorder.config.videoEnabled = false := by simpa [Command.frame?] using none
      simp [move, disabled, Move.isFeed]
  | pushAudio data timestamp memory =>
      have disabled : recorder.config.audioEnabled = false := by simpa [Command.frame?] using none
      simp [move, disabled, Move.isFeed]
  | stop =>
      simp only [move]
      split <;> rfl

theorem move_isFeed_of_idle (idle : recorder.session = none) :
    (recorder.move command).isFeed = false := by
  cases delivers : command.frame? recorder.config with
  | none => exact move_isFeed_of_no_frame delivers
  | some frame =>
      cases command with
      | chooseAudio codec => cases delivers
      | chooseVideo hevc => cases delivers
      | pushVideo data timestamp memory => simp [move, idle, Move.isFeed]
      | pushAudio data timestamp memory => simp [move, idle, Move.isFeed]
      | stop => cases delivers

def padding (recorder : Recorder) (memory : Memory) (gap : Option UInt64) : Option UInt64 :=
  gap.filter fun gap => memory.silence (Silence.length gap recorder.config.audioFormat).toNat

theorem silenceBefore_eq (recorder : Recorder) (memory : Memory) (gap : Option UInt64) :
    recorder.silenceBefore memory gap =
      (recorder.padding memory gap).toList.map (Track.silence recorder.config.audioFormat) := by
  cases gap with
  | none => rfl
  | some gap =>
      cases fits : memory.silence (Silence.length gap recorder.config.audioFormat).toNat <;>
        simp [silenceBefore, padding, Option.filter, Silence.buffer, Buffer.zeroed, fits, Except.map,
          Track.silence, Buffer.withTimestamp, Buffer.withDuration]

theorem move_of_uncopied {frame : Frame} (delivers : command.frame? recorder.config = some frame)
    (lost : command.memory.frame frame.data.size = false) :
    recorder.move command = .rest recorder := by
  cases command with
  | chooseAudio codec => cases delivers
  | chooseVideo hevc => cases delivers
  | stop => cases delivers
  | pushVideo data timestamp memory =>
      obtain ⟨enabled, rfl⟩ : recorder.config.videoEnabled = true ∧
          ⟨.video, data, timestamp⟩ = frame := by simpa [Command.frame?] using delivers
      have refused : memory.frame data.size = false := lost
      cases live : recorder.session <;> simp [move, enabled, live, Buffer.copy, refused]
  | pushAudio data timestamp memory =>
      obtain ⟨enabled, rfl⟩ : recorder.config.audioEnabled = true ∧
          ⟨.audio, data, timestamp⟩ = frame := by simpa [Command.frame?] using delivers
      have refused : memory.frame data.size = false := lost
      cases live : recorder.session <;> simp [move, enabled, live, Buffer.copy, refused]

theorem Sound.move_of_copied (sound : recorder.Sound) {session : Session} {frame : Frame}
    (live : recorder.session = some session)
    (delivers : command.frame? recorder.config = some frame)
    (copied : command.memory.frame frame.data.size = true) :
    let stamped := session.timeline.place session.layout frame
    frame.endpoint ∈ session.layout.endpoints ∧
      recorder.move command = recorder.feeding session stamped.2
        ((recorder.padding command.memory stamped.1.silence).toList.map
            (Track.silence recorder.config.audioFormat) ++
          [frame.stamped stamped.1.presentation]) := by
  have wanted := sound.layout session live
  cases command with
  | chooseAudio codec => cases delivers
  | chooseVideo hevc => cases delivers
  | stop => cases delivers
  | pushVideo data timestamp memory =>
      obtain ⟨enabled, rfl⟩ : recorder.config.videoEnabled = true ∧
          ⟨.video, data, timestamp⟩ = frame := by simpa [Command.frame?] using delivers
      have carried : session.layout.hasVideo = true := by
        simp [wanted, desiredLayout, Layout.hasVideo, enabled]
      have fits : memory.frame data.size = true := copied
      have held : Buffer.copy memory.frame data = .ok { data } := by simp [Buffer.copy, fits]
      refine ⟨by simp [Layout.endpoints, carried], ?_⟩
      simp [move, enabled, live, held, Timeline.place, padding, Frame.stamped]
  | pushAudio data timestamp memory =>
      obtain ⟨enabled, rfl⟩ : recorder.config.audioEnabled = true ∧
          ⟨.audio, data, timestamp⟩ = frame := by simpa [Command.frame?] using delivers
      have carried : session.layout.hasAudio = true := by
        simp [wanted, desiredLayout, Layout.hasAudio, enabled]
      have fits : memory.frame data.size = true := copied
      have held : Buffer.copy memory.frame data = .ok { data } := by simp [Buffer.copy, fits]
      refine ⟨by simp [Layout.endpoints, carried], ?_⟩
      simp [move, enabled, live, held, Timeline.place, silenceBefore_eq, Command.memory, Frame.stamped]

theorem fits_of_isSupplied {session : Session} {frame : Frame}
    (live : recorder.session = some session)
    (delivers : command.frame? recorder.config = some frame)
    (supplied : command.isSupplied recorder = true) :
    let gap := (session.timeline.place session.layout frame).1.silence
    command.memory.frame frame.data.size = true ∧ recorder.padding command.memory gap = gap := by
  cases command with
  | chooseAudio codec => cases delivers
  | chooseVideo hevc => cases delivers
  | stop => cases delivers
  | pushVideo data timestamp memory =>
      obtain ⟨enabled, rfl⟩ : recorder.config.videoEnabled = true ∧
          ⟨.video, data, timestamp⟩ = frame := by simpa [Command.frame?] using delivers
      exact ⟨supplied, rfl⟩
  | pushAudio data timestamp memory =>
      obtain ⟨enabled, rfl⟩ : recorder.config.audioEnabled = true ∧
          ⟨.audio, data, timestamp⟩ = frame := by simpa [Command.frame?] using delivers
      simp only [Command.isSupplied, live, Option.all_some, Bool.and_eq_true] at supplied
      refine ⟨supplied.1, ?_⟩
      change (session.timeline.stampAudio timestamp session.layout.hasVideo).1.silence.filter _ =
        (session.timeline.stampAudio timestamp session.layout.hasVideo).1.silence
      generalize (session.timeline.stampAudio timestamp session.layout.hasVideo).1.silence = gap
        at supplied ⊢
      cases gap with
      | none => rfl
      | some gap =>
          have fits : memory.silence (Silence.length gap recorder.config.audioFormat).toNat = true :=
            supplied.2
          simp [Option.filter, Command.memory, fits]

/-- A frame that is delivered goes to the live graph as the next part of its track. -/
theorem Sound.move_of_frame (sound : recorder.Sound) {session : Session} {frame : Frame}
    {frames : List Frame} (live : recorder.session = some session)
    (delivers : command.frame? recorder.config = some frame)
    (supplied : command.isSupplied recorder = true)
    (records : session.timeline.Records frames) :
    ∃ timeline : Timeline, timeline.Records (frames ++ [frame]) ∧
      frame.endpoint ∈ session.layout.endpoints ∧
      recorder.move command = recorder.feeding session timeline
        ((Track.gapBefore session.layout frames frame).toList.map
            (Track.silence recorder.config.audioFormat) ++
          [Track.placed (Track.origin (frames ++ [frame])) frame]) := by
  obtain ⟨copied, padded⟩ := fits_of_isSupplied live delivers supplied
  obtain ⟨carried, moved⟩ := sound.move_of_copied live delivers copied
  obtain ⟨presentation, silence, after⟩ := records.place carried
  refine ⟨_, after, carried, ?_⟩
  rw [moved, padded, silence, presentation]
  rfl

end Recorder

/-! ## Portions -/

/-- What a graph is fed at a time: a frame of a medium it carries, or audio behind silence. -/
inductive Portion (format : AudioFormat) (layout : Layout) : List (Endpoint × Buffer) → Prop where
  | plain (frame : Frame) (presentation : UInt64) (carried : frame.endpoint ∈ layout.endpoints) :
      Portion format layout [frame.stamped presentation]
  | padded (gap : UInt64) (frame : Frame) (presentation : UInt64)
      (carried : frame.endpoint ∈ layout.endpoints) (audio : frame.endpoint = .audio) :
      Portion format layout [Track.silence format gap, frame.stamped presentation]

theorem Portion.members {format : AudioFormat} {layout : Layout}
    {buffers : List (Endpoint × Buffer)} (portion : Portion format layout buffers) :
    ∀ entry ∈ buffers, entry.1 ∈ layout.endpoints := by
  intro entry member
  cases portion with
  | plain frame presentation carried => rwa [List.mem_singleton.mp member]
  | padded gap frame presentation carried audio =>
      rcases List.mem_pair.mp member with rfl | rfl
      · change Endpoint.audio ∈ layout.endpoints
        rwa [← audio]
      · exact carried

def Move.Portioned (recorder : Recorder) : Move → Prop
  | .feed _ buffers _ => ∀ session ∈ recorder.session,
      Portion recorder.config.audioFormat session.layout buffers
  | .rest _ | .close _ | .renew _ _ => True

theorem Move.portioned_of_unfed {recorder : Recorder} {move : Move} (unfed : move.isFeed = false) :
    move.Portioned recorder := by
  cases move with
  | feed graph buffers after => cases unfed
  | rest after => trivial
  | close after => trivial
  | renew plan after => trivial

theorem Recorder.Sound.move_portioned {recorder : Recorder} (sound : recorder.Sound)
    (command : Command) : (recorder.move command).Portioned recorder := by
  cases live : recorder.session with
  | none => exact Move.portioned_of_unfed (Recorder.move_isFeed_of_idle live)
  | some session =>
      cases delivers : command.frame? recorder.config with
      | none => exact Move.portioned_of_unfed (Recorder.move_isFeed_of_no_frame delivers)
      | some frame =>
          cases copied : command.memory.frame frame.data.size with
          | false =>
              rw [Recorder.move_of_uncopied delivers copied]
              trivial
          | true =>
              obtain ⟨carried, moved⟩ := sound.move_of_copied live delivers copied
              let stamped := session.timeline.place session.layout frame
              have portion : Portion recorder.config.audioFormat session.layout
                  ((recorder.padding command.memory stamped.1.silence).toList.map
                      (Track.silence recorder.config.audioFormat) ++
                    [frame.stamped stamped.1.presentation]) := by
                cases padded : recorder.padding command.memory stamped.1.silence with
                | none => exact .plain frame stamped.1.presentation carried
                | some gap =>
                    refine .padded gap frame stamped.1.presentation carried ?_
                    cases medium : frame.endpoint with
                    | audio => rfl
                    | video =>
                        have none : stamped.1.silence = none := Timeline.place_silence_of_video medium
                        simp [none, Recorder.padding] at padded
              rw [moved]
              intro fed same
              rw [live] at same
              rwa [← Option.some.inj same]

theorem Owned.Operation.portioned {recorder : Recorder} (sound : recorder.Sound)
    (operation : Operation) : (operation.move recorder).Portioned recorder := by
  cases operation with
  | perform command => exact sound.move_portioned command
  | destroy => exact sound.move_portioned .stop
  | drop => trivial

/-! ## An engine that accepts what is pushed -/

namespace DryEngine

variable {dry : DryEngine} {session : Session}

theorem push_scripted (carries : dry.engine.Carries (some session)) {endpoint : Endpoint}
    (member : endpoint ∈ session.layout.endpoints) (buffer : Buffer) :
    (Engine.push dry session.graph endpoint buffer).1 = .ok () ∨
      ∃ fault, (Engine.push dry session.graph endpoint buffer).1 = .error fault ∧
        some fault ∈ dry.pushes := by
  cases scripted : FaultyEngine.next? dry.pushes with
  | some fault =>
      refine .inr ⟨fault, ?_, FaultyEngine.mem_of_next? scripted⟩
      simp only [Engine.push, FaultyEngine.push, scripted]
  | none =>
      have found : dry.engine.graph? session.graph = some session.liveGraph := by
        simp [MemoryEngine.graph?, carries.graphs, Session.liveGraph]
      refine .inl ?_
      simp only [Engine.push, FaultyEngine.push, scripted, MemoryEngine.push, found,
        MemoryEngine.refusal?]
      simp [Session.liveGraph, member]

theorem push_accepted (carries : dry.engine.Carries (some session))
    (accepts : ∀ fault, some fault ∉ dry.pushes) {endpoint : Endpoint}
    (member : endpoint ∈ session.layout.endpoints) (buffer : Buffer) :
    (Engine.push dry session.graph endpoint buffer).1 = .ok () := by
  rcases push_scripted carries member buffer with accepted | ⟨fault, -, pending⟩
  · exact accepted
  · exact absurd pending (accepts fault)

theorem exchanges_pushes_accepted (carries : dry.engine.Carries (some session))
    (accepts : ∀ fault, some fault ∉ dry.pushes) (buffers : List (Endpoint × Buffer))
    (members : ∀ entry ∈ buffers, entry.1 ∈ session.layout.endpoints) :
    Engine.exchanges dry (buffers.map fun (endpoint, buffer) => .push session.graph endpoint buffer) =
      (buffers.map fun entry => (entry, .ok ())).map (.ofPush session.graph) := by
  induction buffers generalizing dry with
  | nil => rfl
  | cons entry buffers ih =>
      obtain ⟨endpoint, buffer⟩ := entry
      obtain ⟨passage, graphs, counts⟩ := dry.afterAll_pushes session.graph [(endpoint, buffer)]
      have answer := push_accepted carries accepts (members _ List.mem_cons_self) buffer
      have rest := ih ⟨graphs.trans carries.graphs, counts ▸ carries.live, counts ▸ carries.alone⟩
        (fun fault pending => accepts fault (passage.pushes.subset pending))
        (fun entry member => members entry (List.mem_cons_of_mem _ member))
      simp only [List.map_cons, Engine.exchanges]
      refine congrArg₂ List.cons ?_ rest
      simp [Engine.serve, answer, Exchange.ofPush]

end DryEngine

theorem accepted_of_ok {α : Type} (items : List α) :
    accepted (items.map fun item => (item, .ok ())) = items := by
  simp [accepted, Except.toOption]

theorem accepted_append {α : Type} (first rest : List (α × Except SinkError Unit)) :
    accepted (first ++ rest) = accepted first ++ accepted rest :=
  List.filterMap_append

/-! ## Lives and their frames -/

structure Fed (format : AudioFormat) (lives : List Life) (frames : Nat → List Frame) : Prop where
  tracks : ∀ number life, lives[number]? = some life →
    accepted life.pushes = Track.buffers format life.plan.layout (frames number)
  unfed : ∀ number, lives.length ≤ number → frames number = []

namespace Fed

variable {format : AudioFormat} {closed : List Life} {opened : Option Life} {life : Life}
  {frames : Nat → List Frame}

theorem getElem?_concat_cases {last : Life} {number : Nat}
    (found : (closed ++ [last])[number]? = some life) :
    (number < closed.length ∧ closed[number]? = some life) ∨
      (number = closed.length ∧ last = life) := by
  by_cases early : number < closed.length
  · rw [List.getElem?_append_left early] at found
    exact .inl ⟨early, found⟩
  · rw [List.getElem?_append_right (by omega), List.getElem?_singleton] at found
    split at found
    · exact .inr ⟨by omega, Option.some.inj found⟩
    · cases found

theorem close (fed : Fed format (closed ++ opened.toList) frames) (ending : Ending) :
    Fed format (closed ++ opened.toList.map (Life.close ending)) frames := by
  refine ⟨?_, by simpa using fed.unfed⟩
  intro number life found
  cases opened with
  | none => exact fed.tracks number life found
  | some last =>
      rcases getElem?_concat_cases found with ⟨early, listed⟩ | ⟨rfl, rfl⟩
      · exact fed.tracks number life (by simpa [List.getElem?_append_left early] using listed)
      · exact fed.tracks closed.length last (by simp)

theorem launch (fed : Fed format closed frames) (blank : ∀ life ∈ opened, life.pushes = []) :
    Fed format (closed ++ opened.toList) frames := by
  refine ⟨?_, ?_⟩
  · intro number life found
    cases opened with
    | none => exact fed.tracks number life (by simpa using found)
    | some last =>
        rcases getElem?_concat_cases found with ⟨early, listed⟩ | ⟨rfl, rfl⟩
        · exact fed.tracks number life listed
        · rw [fed.unfed closed.length (Nat.le_refl _), blank last rfl]
          rfl
  · intro number beyond
    rw [List.length_append] at beyond
    exact fed.unfed number (by omega)

theorem feed (fed : Fed format (closed ++ [life]) frames) {later : Nat → List Frame}
    {frame : Frame} (same : ∀ number, number ≠ closed.length → later number = frames number)
    (grown : later closed.length = frames closed.length ++ [frame])
    {pushes : List ((Endpoint × Buffer) × Except SinkError Unit)}
    (placed : accepted pushes =
      (Track.gapBefore life.plan.layout (frames closed.length) frame).toList.map
          (Track.silence format) ++
        [Track.placed (Track.origin (frames closed.length ++ [frame])) frame]) :
    Fed format (closed ++ [{ life with pushes := life.pushes ++ pushes }]) later := by
  refine ⟨?_, ?_⟩
  · intro number other found
    rcases getElem?_concat_cases found with ⟨early, listed⟩ | ⟨rfl, rfl⟩
    · rw [same number (by omega)]
      exact fed.tracks number other (by simpa [List.getElem?_append_left early] using listed)
    · rw [accepted_append, grown, Track.buffers_append, placed,
        fed.tracks closed.length life (by simp)]
  · intro number beyond
    rw [List.length_append, List.length_singleton] at beyond
    rw [same number (by omega)]
    exact fed.unfed number (by simpa using beyond)

end Fed

end StreamRecorder
