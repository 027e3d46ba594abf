import StreamRecorder.Proofs.Interleaving
import StreamRecorder.Proofs.Naming
import StreamRecorder.Proofs.Rehearsal

namespace StreamRecorder

/-! ## Allocations -/

inductive Purpose where
  | frame (endpoint : Endpoint)
  | silence
  deriving DecidableEq

structure Allocation where
  purpose : Purpose
  bytes : Nat
  granted : Bool
  deriving DecidableEq

namespace Recorder

/-- The memory that a command takes, in order. A frame is copied if the live graph carries its
medium, and is looked at further only if it was. -/
def allocations (recorder : Recorder) (command : Command) : List Allocation :=
  match recorder.session, command.frame? recorder.config with
  | some session, some frame =>
      let copied := command.memory.frame frame.data.size
      let gap := (session.timeline.place session.layout frame).1.silence
      if frame.endpoint ∈ session.layout.endpoints then
        ⟨.frame frame.endpoint, frame.data.size, copied⟩ ::
          if copied then
            gap.toList.map fun gap =>
              let bytes := (Silence.length gap recorder.config.audioFormat).toNat
              ⟨.silence, bytes, command.memory.silence bytes⟩
          else []
      else []
  | _, _ => []

variable {recorder : Recorder} {command : Command} {session : Session} {frame : Frame}

theorem silence_mem_allocations {bytes : Nat} {granted : Bool}
    (member : ⟨.silence, bytes, granted⟩ ∈ recorder.allocations command) :
    ∃ session frame gap, recorder.session = some session ∧
      command.frame? recorder.config = some frame ∧
      command.memory.frame frame.data.size = true ∧
      (session.timeline.place session.layout frame).1.silence = some gap ∧
      command.memory.silence (Silence.length gap recorder.config.audioFormat).toNat = granted := by
  unfold allocations at member
  split at member
  · rename_i session frame live delivers
    simp only at member
    split at member
    · simp only [List.mem_cons, Allocation.mk.injEq, reduceCtorEq, false_and, false_or] at member
      split at member
      · rename_i copied
        obtain ⟨gap, wanted, same⟩ := List.mem_map.mp member
        cases same
        exact ⟨session, frame, gap, live, delivers, copied, Option.mem_toList.mp wanted, rfl⟩
      · cases member
    · cases member
  · cases member

end Recorder

/-! ## Frames that are lost -/

def Command.lost? : Command → Option (Endpoint × Nat)
  | .pushVideo data _ memory => if memory.frame data.size then none else some (.video, data.size)
  | .pushAudio data _ memory => if memory.frame data.size then none else some (.audio, data.size)
  | .chooseAudio _ | .chooseVideo _ | .stop => none

namespace Studio

variable {σ : Type} [Engine σ]

theorem perform_of_lost {studio : Studio σ} (sound : studio.recorder.Sound) {command : Command}
    {endpoint : Endpoint} {size : Nat} (lost : command.lost? = some (endpoint, size)) :
    studio.perform command =
      if studio.recorder.layout.any (endpoint ∈ ·.endpoints) then
        studio.note (.frameDropped endpoint (.allocation size))
      else studio := by
  cases command with
  | chooseAudio codec => cases lost
  | chooseVideo hevc => cases lost
  | stop => cases lost
  | pushVideo data timestamp memory =>
      obtain ⟨refused, rfl, rfl⟩ : memory.frame data.size = false ∧ .video = endpoint ∧
          data.size = size := by simpa [Command.lost?] using lost
      cases live : studio.recorder.session with
      | none => simp [perform, pushVideo, Recorder.layout, live]
      | some session =>
          obtain ⟨carried, -⟩ := sound.carries live
          cases enabled : studio.recorder.config.videoEnabled <;>
            simp [perform, pushVideo, Recorder.layout, Layout.endpoints, live, carried, enabled,
              Buffer.copy, refused]
  | pushAudio data timestamp memory =>
      obtain ⟨refused, rfl, rfl⟩ : memory.frame data.size = false ∧ .audio = endpoint ∧
          data.size = size := by simpa [Command.lost?] using lost
      cases live : studio.recorder.session with
      | none => simp [perform, pushAudio, Recorder.layout, live]
      | some session =>
          obtain ⟨-, carried⟩ := sound.carries live
          cases enabled : studio.recorder.config.audioEnabled <;>
            simp [perform, pushAudio, Recorder.layout, Layout.endpoints, live, carried, enabled,
              Buffer.copy, refused]

end Studio

namespace Owned

def Operation.isLost : Operation → Bool
  | .perform command => command.lost?.isSome
  | .destroy | .drop => false

section Matches

variable {σ : Type} [Engine σ] {one two : Owned σ}

structure Matches (one two : Owned σ) : Prop where
  recorder : one.studio.recorder = two.studio.recorder
  engine : one.studio.engine = two.studio.engine
  held : one.held = two.held

theorem Matches.operate (alike : one.Matches two) (sound : one.studio.recorder.Sound)
    (operation : Operation) : (one.operate operation).Matches (two.operate operation) := by
  cases holding : one.held with
  | false =>
      have released : two.held = false := alike.held ▸ holding
      rw [operate_of_gone holding, operate_of_gone released]
      exact alike
  | true =>
      have still : two.held = true := alike.held ▸ holding
      obtain ⟨first, firstHeld⟩ := operate_follows sound holding operation
      obtain ⟨second, secondHeld⟩ := operate_follows (alike.recorder ▸ sound) still operation
      refine ⟨?_, ?_, firstHeld.trans secondHeld.symm⟩
      · rw [first.recorder, second.recorder, alike.recorder, alike.engine]
      · rw [first.engine, second.engine, alike.recorder, alike.engine]

theorem operate_of_lost (sound : one.studio.recorder.Sound) {operation : Operation}
    (lost : operation.isLost = true) : (one.operate operation).Matches one := by
  cases holding : one.held with
  | false =>
      rw [operate_of_gone holding]
      exact ⟨rfl, rfl, rfl⟩
  | true =>
      cases operation with
      | destroy => cases lost
      | drop => cases lost
      | perform command =>
          obtain ⟨⟨endpoint, size⟩, gone⟩ := Option.isSome_iff_exists.mp lost
          have performed : one.operate (.perform command) =
              { one with studio := one.studio.perform command } := by
            simp [operate, step?, holding]
          rw [performed, Studio.perform_of_lost sound gone]
          split <;> exact ⟨rfl, rfl, rfl⟩

end Matches

theorem course_of_kept {σ : Type} [Engine σ] (config : Config) (engine : σ)
    (operations : List Operation) :
    (course config engine (operations.filter (!·.isLost))).Matches
      (course config engine operations) := by
  induction operations using List.reverseRecOn with
  | nil => exact ⟨rfl, rfl, rfl⟩
  | append_singleton operations operation ih =>
      rw [List.filter_append, course_concat]
      cases lost : operation.isLost with
      | true =>
          have dropped := operate_of_lost (course_sound config engine operations).1 lost
          rw [List.filter_cons_of_neg (by simp [lost]), List.filter_nil, List.append_nil]
          exact ⟨ih.recorder.trans dropped.recorder.symm, ih.engine.trans dropped.engine.symm,
            ih.held.trans dropped.held.symm⟩
      | false =>
          rw [List.filter_cons_of_pos (by simp [lost]), List.filter_nil, course_concat]
          exact ih.operate (course_sound config engine _).1 operation

end Owned

/-! ## Silence that is lost -/

theorem Timeline.place_firstAudio {timeline : Timeline} (audible : timeline.firstAudio.isSome = true)
    (layout : Layout) (frame : Frame) :
    (timeline.place layout frame).1.silence = none ∧
      (timeline.place layout frame).2.firstAudio.isSome = true := by
  cases medium : frame.endpoint with
  | video => exact ⟨place_silence_of_video medium, by simpa [place, medium]⟩
  | audio =>
      simp only [place, medium, stampAudio]
      rw [gapBefore_of_heard audible, ite_self]
      exact ⟨rfl, rfl⟩

namespace Recorder

variable {recorder : Recorder} {command : Command}

/-- Whoever has heard audio wants no silence. -/
def Heard (recorder : Recorder) : Prop :=
  ∀ session ∈ recorder.session, session.timeline.firstAudio.isSome = true

theorem Heard.unpadded (heard : recorder.Heard) (command : Command) :
    ∀ taken ∈ recorder.allocations command, taken.purpose ≠ .silence := by
  rintro ⟨purpose, bytes, granted⟩ member rfl
  obtain ⟨session, frame, gap, live, -, -, wanted, -⟩ := silence_mem_allocations member
  rw [(Timeline.place_firstAudio (heard session live) session.layout frame).1] at wanted
  cases wanted

theorem Admits.outcome_unbuilt {σ : Type} [Engine σ] {move : Move} (admitted : recorder.Admits move)
    (unfed : move.isFeed = false) (unbuilt : (move.requests recorder).countP Request.isBuild = 0)
    (engine : σ) : ∀ session ∈ (move.outcome engine recorder).session,
      session ∈ recorder.session := by
  intro session live
  cases admitted with
  | rest video audio matching => exact live
  | feed session timeline buffers live => cases unfed
  | close video audio =>
      have idle : (recorder.closed.withCodecs video audio).session = none := recorder.closed_session
      rw [Move.outcome, idle] at live
      cases live
  | renew video audio active differs =>
      rw [Move.requests, List.countP_append, List.countP_singleton] at unbuilt
      simp [Request.isBuild] at unbuilt

theorem Sound.move_heard {σ : Type} [Engine σ] (sound : recorder.Sound) (heard : recorder.Heard)
    (command : Command)
    (unbuilt : ((recorder.move command).requests recorder).countP Request.isBuild = 0)
    (engine : σ) : ((recorder.move command).outcome engine recorder).Heard := by
  have unfed (quiet : (recorder.move command).isFeed = false) :
      ((recorder.move command).outcome engine recorder).Heard := fun session live =>
    heard session ((sound.move_admitted command).outcome_unbuilt quiet unbuilt engine session live)
  cases live : recorder.session with
  | none => exact unfed (move_isFeed_of_idle live)
  | some session =>
      cases delivers : command.frame? recorder.config with
      | none => exact unfed (move_isFeed_of_no_frame delivers)
      | some frame =>
          cases copied : command.memory.frame frame.data.size with
          | false =>
              rw [move_of_uncopied delivers copied]
              exact heard
          | true =>
              obtain ⟨-, moved⟩ := sound.move_of_copied live delivers copied
              rw [moved]
              intro fed member
              obtain rfl := Option.some.inj (Option.mem_def.mp member)
              exact (Timeline.place_firstAudio (heard session live) session.layout frame).2

theorem Sound.move_of_scarce (sound : recorder.Sound) {data : Payload} {timestamp : UInt64}
    {scarce ample : Memory} {bytes : Nat}
    (refused : ⟨.silence, bytes, false⟩ ∈ recorder.allocations (.pushAudio data timestamp scarce))
    (granted : ⟨.silence, bytes, true⟩ ∈ recorder.allocations (.pushAudio data timestamp ample)) :
    ∃ (session : Session) (timeline : Timeline) (gap presentation : UInt64),
      let frame := (Endpoint.audio, Buffer.withTimestamp { data } presentation)
      timeline.firstAudio.isSome = true ∧
        recorder.move (.pushAudio data timestamp scarce) =
          recorder.feeding session timeline [frame] ∧
        recorder.move (.pushAudio data timestamp ample) =
          recorder.feeding session timeline
            [Track.silence recorder.config.audioFormat gap, frame] := by
  obtain ⟨session, frame, gap, live, delivers, copied, wanted, lacking⟩ :=
    silence_mem_allocations refused
  obtain ⟨same, sameFrame, sameGap, alsoLive, alsoDelivers, alsoCopied, alsoWanted, having⟩ :=
    silence_mem_allocations granted
  obtain rfl : session = same := Option.some.inj (live.symm.trans alsoLive)
  obtain rfl : frame = sameFrame := Option.some.inj (delivers.symm.trans alsoDelivers)
  obtain rfl : gap = sameGap := Option.some.inj (wanted.symm.trans alsoWanted)
  obtain ⟨-, moved⟩ := sound.move_of_copied live delivers copied
  obtain ⟨-, alsoMoved⟩ := sound.move_of_copied live alsoDelivers alsoCopied
  obtain ⟨-, rfl⟩ : recorder.config.audioEnabled = true ∧ ⟨.audio, data, timestamp⟩ = frame := by
    simpa [Command.frame?] using delivers
  let stamped := session.timeline.place session.layout ⟨.audio, data, timestamp⟩
  refine ⟨session, stamped.2, gap, stamped.1.presentation, rfl, moved.trans ?_,
    alsoMoved.trans ?_⟩
  · rw [wanted, padding, Option.filter_some, if_neg (by simp [lacking])]
    rfl
  · rw [wanted, padding, Option.filter_some, if_pos having]
    rfl

end Recorder

namespace Owned

variable {σ τ : Type} [Engine σ] [Engine τ]

theorem operate_heard {owned : Owned (TracedEngine σ)} (sound : owned.studio.recorder.Sound)
    (heard : owned.studio.recorder.Heard) (operation : Operation)
    (unplanned : plansOf (owned.operate operation).studio.engine.transcript.toList =
      plansOf owned.studio.engine.transcript.toList) :
    (owned.operate operation).studio.recorder.Heard := by
  cases holding : owned.held with
  | false => rwa [operate_of_gone holding]
  | true =>
      have plays := operate_plays sound holding operation
      rw [plays.transcript, plansOf_append, List.append_right_eq_self] at unplanned
      have unbuilt := plansOf_length
        (Engine.exchanges owned.studio.engine.engine
          ((operation.move owned.studio.recorder).requests owned.studio.recorder))
      rw [unplanned, Engine.exchanges_requests] at unbuilt
      rw [plays.recorder]
      cases operation with
      | perform command => exact sound.move_heard heard command unbuilt.symm _
      | destroy => exact sound.move_heard heard .stop unbuilt.symm _
      | drop =>
          intro session live
          rw [Operation.move, Move.outcome, Recorder.closed_session] at live
          cases live

theorem course_heard (config : Config) (engine : σ) (start : List Operation)
    (heard : (course config engine start).studio.recorder.Heard) (rest : List Operation)
    (unplanned : plansOf (exchanged config engine (start ++ rest)) =
      plansOf (exchanged config engine start)) :
    (course config engine (start ++ rest)).studio.recorder.Heard := by
  induction rest using List.reverseRecOn with
  | nil => rwa [List.append_nil]
  | append_singleton rest operation ih =>
      -- What was planned meanwhile lies between two lists of plans that are equal.
      have planned {earlier operations : List Operation} (before : earlier <+: operations) :
          plansOf (exchanged config engine earlier) <+:
            plansOf (exchanged config engine operations) :=
        ((exchanged_monotone config engine before).map _).filterMap _
      have early : plansOf (exchanged config engine start) <+:
          plansOf (exchanged config engine (start ++ rest)) := planned (List.prefix_append _ _)
      have late : plansOf (exchanged config engine (start ++ rest)) <+:
          plansOf (exchanged config engine (start ++ rest ++ [operation])) :=
        planned (List.prefix_append _ _)
      rw [← List.append_assoc] at unplanned ⊢
      have meanwhile := late.eq_of_length_le (unplanned ▸ early.length_le)
      rw [course_concat]
      refine operate_heard (course_sound config engine _).1 (ih ?_) operation ?_
      · exact meanwhile.trans unplanned
      · rw [← course_concat]
        exact meanwhile.symm

end Owned

namespace Rehearsal

variable {first second : Rehearsal} {asked : List Request} {silence frame : Request}

/-- The second asked for one thing more than the first, and they agree in all else. -/
structure Lacks (asked : List Request) (silence frame : Request) (first second : Rehearsal) :
    Prop where
  recorder : first.recorder = second.recorder
  held : first.held = second.held
  requests : ∃ rest, first.requests = asked ++ frame :: rest ∧
    second.requests = asked ++ silence :: frame :: rest

theorem Lacks.operate (lacks : Lacks asked silence frame first second)
    (plain : silence.isBuild = false) (answers : Nat → Except SinkError GraphId)
    (operation : Owned.Operation) :
    Lacks asked silence frame (first.operate answers operation)
      (second.operate answers operation) := by
  obtain ⟨recorder, held, rest, one, two⟩ := lacks
  cases holding : first.held with
  | false =>
      have gone : second.held = false := held ▸ holding
      simp only [Rehearsal.operate, holding, gone, Bool.false_eq_true, if_false]
      exact ⟨recorder, held, rest, one, two⟩
  | true =>
      have still : second.held = true := held ▸ holding
      -- What is lacking is no build, so the next build has the same number in both.
      have builds : first.requests.countP Request.isBuild =
          second.requests.countP Request.isBuild := by
        simp [one, two, List.countP_append, List.countP_cons, plain]
      simp only [Rehearsal.operate, holding, still, if_true]
      refine ⟨?_, rfl, rest ++ (operation.move first.recorder).requests first.recorder, ?_, ?_⟩
      · rw [recorder, builds]
      · simp [one]
      · simp [two, recorder]

theorem Lacks.foldl (lacks : Lacks asked silence frame first second)
    (plain : silence.isBuild = false) (answers : Nat → Except SinkError GraphId)
    (operations : List Owned.Operation) :
    Lacks asked silence frame (operations.foldl (Rehearsal.operate answers) first)
      (operations.foldl (Rehearsal.operate answers) second) := by
  induction operations generalizing first second with
  | nil => exact lacks
  | cons operation operations ih => exact ih (lacks.operate plain answers operation)

theorem lacks_of_fed {rehearsal : Rehearsal} (holding : rehearsal.held = true)
    {poor rich : Owned.Operation} {session : Session} {timeline : Timeline}
    {padding frame : Endpoint × Buffer}
    (fed : poor.move rehearsal.recorder = rehearsal.recorder.feeding session timeline [frame])
    (padded : rich.move rehearsal.recorder =
      rehearsal.recorder.feeding session timeline [padding, frame])
    (keeps : poor.keeps = rich.keeps) (answers : Nat → Except SinkError GraphId) :
    Lacks rehearsal.requests (.push session.graph padding.1 padding.2)
      (.push session.graph frame.1 frame.2) (rehearsal.operate answers poor)
      (rehearsal.operate answers rich) := by
  simp only [Rehearsal.operate, holding, if_true, fed, padded]
  exact ⟨rfl, keeps, [], rfl, rfl⟩

end Rehearsal

namespace Owned

variable {σ τ : Type} [Engine σ] [Engine τ]

theorem operate_of_fed {owned : Owned (TracedEngine σ)} (sound : owned.studio.recorder.Sound)
    (holding : owned.held = true) {operation : Operation} {session : Session} {timeline : Timeline}
    {buffers : List (Endpoint × Buffer)}
    (fed : operation.move owned.studio.recorder =
      owned.studio.recorder.feeding session timeline buffers) :
    (owned.operate operation).studio.recorder.session = some { session with timeline } ∧
      plansOf (owned.operate operation).studio.engine.transcript.toList =
        plansOf owned.studio.engine.transcript.toList := by
  have plays := operate_plays sound holding operation
  rw [fed] at plays
  refine ⟨congrArg Recorder.session plays.recorder, ?_⟩
  rw [plays.transcript, plansOf_append, List.append_right_eq_self, ← List.length_eq_zero_iff,
    plansOf_length, Engine.exchanges_requests, List.countP_eq_zero]
  intro request member
  obtain ⟨entry, -, rfl⟩ := List.mem_map.mp member
  exact Bool.false_ne_true

section Fed

variable {config : Config} {engine : σ} {other : τ} {before later : List Operation}
  {poor rich : Operation} {session : Session} {timeline : Timeline}
  {padding frame : Endpoint × Buffer}

theorem heard_of_fed (holding : (course config engine before).held = true)
    (fed : poor.move (course config engine before).studio.recorder =
      (course config engine before).studio.recorder.feeding session timeline [frame])
    (audible : timeline.firstAudio.isSome = true) {meanwhile : List Operation}
    (planned : plansOf (exchanged config engine (before ++ poor :: meanwhile)) =
      plansOf (exchanged config engine before)) :
    (course config engine (before ++ poor :: meanwhile)).studio.recorder.Heard := by
  obtain ⟨live, unplanned⟩ := operate_of_fed (course_sound config engine before).1 holding fed
  have heard : (course config engine (before ++ [poor])).studio.recorder.Heard := by
    intro fed member
    rw [course_concat, live] at member
    obtain rfl := Option.some.inj (Option.mem_def.mp member)
    exact audible
  have listed : before ++ poor :: meanwhile = before ++ [poor] ++ meanwhile := by simp
  rw [listed] at planned ⊢
  apply course_heard config engine _ heard meanwhile
  rw [planned, exchanged, exchanged, course_concat]
  exact unplanned.symm

theorem courses_of_fed (holding : (course config engine before).held = true)
    (fed : poor.move (course config engine before).studio.recorder =
      (course config engine before).studio.recorder.feeding session timeline [frame])
    (padded : rich.move (course config engine before).studio.recorder =
      (course config engine before).studio.recorder.feeding session timeline [padding, frame])
    (keeps : poor.keeps = rich.keeps)
    (alike : BuildsAlike (exchanged config engine (before ++ poor :: later))
      (exchanged config other (before ++ rich :: later)))
    {meanwhile : List Operation} (earlier : meanwhile <+: later) :
    let asked := (exchanged config engine before).map Exchange.request
    let less := Request.push session.graph frame.1 frame.2
    let more := Request.push session.graph padding.1 padding.2
    let lacking := course config engine (before ++ poor :: meanwhile)
    let having := course config other (before ++ rich :: meanwhile)
    lacking.studio.recorder = having.studio.recorder ∧ lacking.held = having.held ∧
      ∃ rest,
        lacking.studio.engine.transcript.toList.map Exchange.request = asked ++ less :: rest ∧
        having.studio.engine.transcript.toList.map Exchange.request =
          asked ++ more :: less :: rest := by
  intro asked less more lacking having
  obtain ⟨answers, answered, otherAnswered⟩ := alike.answers
  have start := course_rehearsed config engine before answers
    (answered.of_earlier (exchanged_monotone config engine (List.prefix_append _ _)))
  have one := course_rehearsed config engine (before ++ poor :: meanwhile) answers
    (answered.of_earlier (exchanged_monotone config engine
      ((List.prefix_append_right_inj before).mpr ((List.prefix_cons_inj poor).mpr earlier))))
  have two := course_rehearsed config other (before ++ rich :: meanwhile) answers
    (otherAnswered.of_earlier (exchanged_monotone config other
      ((List.prefix_append_right_inj before).mpr ((List.prefix_cons_inj rich).mpr earlier))))
  rw [Rehearsal.ofOperations, List.foldl_append, List.foldl_cons] at one two
  rw [start.recorder] at fed padded
  have parted := Rehearsal.lacks_of_fed (start.held.symm.trans holding) fed padded keeps answers
  obtain ⟨recorder, held, rest, first, second⟩ := parted.foldl rfl answers meanwhile
  refine ⟨one.recorder.trans (recorder.trans two.recorder.symm),
    one.held.trans (held.trans two.held.symm), rest, ?_, ?_⟩
  · rw [one.requests]
    exact first.trans (congrArg (· ++ less :: rest) start.requests.symm)
  · rw [two.requests]
    exact second.trans (congrArg (· ++ more :: less :: rest) start.requests.symm)

end Fed

/-- Lost frames leave nothing behind, and lost silence is all that is missing. -/
theorem course_of_scarce_memory (config : Config) (engine : σ) :
    (∀ (operations : List Operation) (command : Command) (endpoint : Endpoint) (size : Nat),
      command.lost? = some (endpoint, size) →
        let studio := (course config engine operations).studio
        studio.perform command =
          if studio.recorder.layout.any (endpoint ∈ ·.endpoints) then
            studio.note (.frameDropped endpoint (.allocation size))
          else studio) ∧
    (∀ operations : List Operation,
      (course config engine (operations.filter (!·.isLost))).Matches
        (course config engine operations)) ∧
    ∀ (other : τ) (before later : List Operation) (data : Payload) (timestamp : UInt64)
        (scarce ample : Memory) (bytes : Nat),
      let start := course config engine before
      let poor := Operation.perform (.pushAudio data timestamp scarce)
      let rich := Operation.perform (.pushAudio data timestamp ample)
      start.held = true →
      ⟨.silence, bytes, false⟩ ∈
        start.studio.recorder.allocations (.pushAudio data timestamp scarce) →
      ⟨.silence, bytes, true⟩ ∈
        start.studio.recorder.allocations (.pushAudio data timestamp ample) →
      BuildsAlike (exchanged config engine (before ++ poor :: later))
        (exchanged config other (before ++ rich :: later)) →
      ∃ (graph : GraphId) (gap presentation : UInt64), ∀ meanwhile, meanwhile <+: later →
        let silence := Request.push graph .audio (Track.silence config.audioFormat gap).2
        let frame := Request.push graph .audio (Buffer.withTimestamp { data } presentation)
        let lacking := course config engine (before ++ poor :: meanwhile)
        let having := course config other (before ++ rich :: meanwhile)
        lacking.studio.recorder = having.studio.recorder ∧ lacking.held = having.held ∧
        (∃ rest,
          lacking.studio.engine.transcript.toList.map Exchange.request =
            (exchanged config engine before).map Exchange.request ++ frame :: rest ∧
          having.studio.engine.transcript.toList.map Exchange.request =
            (exchanged config engine before).map Exchange.request ++
              silence :: frame :: rest) ∧
        (plansOf lacking.studio.engine.transcript.toList =
            plansOf (exchanged config engine before) →
          ∀ command, ∀ taken ∈ lacking.studio.recorder.allocations command,
            taken.purpose ≠ .silence) := by
  refine ⟨?_, course_of_kept config engine, ?_⟩
  · intro operations command endpoint size lost studio
    exact Studio.perform_of_lost (course_sound config engine operations).1 lost
  · intro other before later data timestamp scarce ample bytes start poor rich holding refused
      granted alike
    obtain ⟨sound, configured⟩ := course_sound config engine before
    obtain ⟨session, timeline, gap, presentation, audible, fed, padded⟩ :=
      sound.move_of_scarce refused granted
    rw [configured, config.effective_audioFormat] at padded
    have less : poor.move start.studio.recorder = _ := fed
    have more : rich.move start.studio.recorder = _ := padded
    refine ⟨session.graph, gap, presentation, fun meanwhile earlier => ?_⟩
    obtain ⟨recorder, held, rest, first, second⟩ :=
      courses_of_fed holding less more rfl alike earlier
    refine ⟨recorder, held, ⟨rest, first, second⟩, fun planned => ?_⟩
    apply Recorder.Heard.unpadded
    exact heard_of_fed holding less audible planned

theorem course_of_scarce_memory_before_late_audio :
    let engine : DryEngine := { engine := {} }
    let before : List Operation :=
      [.perform (.chooseVideo false), .perform (.pushVideo #[1] 5000000000 .whole),
        .perform (.pushAudio #[2, 3] 5000500000 (.upTo 1))]
    let poor := Operation.perform (.pushAudio #[4] 5001000000 (.upTo 100))
    let rich := Operation.perform (.pushAudio #[4] 5001000000 .whole)
    let later : List Operation :=
      [.perform (.pushAudio #[5] 5002000000 (.upTo 100)), .perform .stop, .destroy]
    let recorder := (course {} engine before).studio.recorder
    (course {} engine before).held = true ∧
      (course {} engine (before.filter (!·.isLost))).Matches (course {} engine before) ∧
      ⟨.silence, 176, false⟩ ∈ recorder.allocations (.pushAudio #[4] 5001000000 (.upTo 100)) ∧
      ⟨.silence, 176, true⟩ ∈ recorder.allocations (.pushAudio #[4] 5001000000 .whole) ∧
      BuildsAlike (exchanged {} engine (before ++ poor :: later))
        (exchanged {} engine (before ++ rich :: later)) ∧
      (course {} engine (before ++ poor :: later)).studio.recorder =
        (course {} engine (before ++ rich :: later)).studio.recorder ∧
      (exchanged {} engine (before ++ poor :: later)).length + 1 =
        (exchanged {} engine (before ++ rich :: later)).length := by
  intro engine before poor rich later recorder
  have held : (course {} engine before).held = true := by decide +kernel
  have refused : ⟨.silence, 176, false⟩ ∈
      recorder.allocations (.pushAudio #[4] 5001000000 (.upTo 100)) := by decide +kernel
  have granted : ⟨.silence, 176, true⟩ ∈
      recorder.allocations (.pushAudio #[4] 5001000000 .whole) := by decide +kernel
  have alike : BuildsAlike (exchanged {} engine (before ++ poor :: later))
      (exchanged {} engine (before ++ rich :: later)) := BuildsAlike.of_eq (by decide +kernel)
  obtain ⟨-, kept, silent⟩ := course_of_scarce_memory (τ := DryEngine) {} engine
  obtain ⟨graph, gap, presentation, parted⟩ := silent engine before later #[4] 5001000000
    (.upTo 100) .whole 176 held refused granted alike
  obtain ⟨same, -, -, -⟩ := parted later List.prefix_rfl
  exact ⟨held, kept before, refused, granted, alike, same, by decide +kernel⟩

end Owned

end StreamRecorder
