import StreamRecorder.Proofs.Lifecycle
import StreamRecorder.Proofs.Negotiation

namespace StreamRecorder

def Request.isBuild : Request → Bool
  | .build _ => true
  | _ => false

namespace Recorder

variable {recorder : Recorder}

theorem forall_closing (recorder : Recorder) {holds : Request → Prop}
    (endOfStream : ∀ graph endpoint, holds (.endOfStream graph endpoint))
    (awaitCompletion : ∀ graph timeout, holds (.awaitCompletion graph timeout))
    (halt : ∀ graph, holds (.halt graph)) (release : ∀ graph, holds (.release graph)) :
    ∀ request ∈ recorder.closing, holds request := by
  intro request member
  unfold closing at member
  cases live : recorder.session with
  | none => simp [live] at member
  | some session =>
      simp only [live, Session.closing, List.mem_append, List.mem_map, List.mem_cons,
        List.not_mem_nil, or_false] at member
      rcases member with ⟨endpoint, -, rfl⟩ | rfl | rfl | rfl
      · exact endOfStream session.graph endpoint
      · exact awaitCompletion session.graph _
      · exact halt session.graph
      · exact release session.graph

theorem closing_isBuild (recorder : Recorder) :
    ∀ request ∈ recorder.closing, request.isBuild = false :=
  recorder.forall_closing (fun _ _ => rfl) (fun _ _ => rfl) (fun _ => rfl) (fun _ => rfl)

structure Attempts (config : Config) (recorder : Recorder) (requests : List Request) : Prop where
  counted : recorder.counter = .ofNat (requests.countP Request.isBuild)
  carried : ∀ plan, .build plan ∈ requests → plan.layout.hasVideo = config.videoEnabled ∧
    plan.layout.hasAudio = config.audioEnabled ∧ plan.layout.isEmpty = false

theorem planned_carried (active : recorder.config.isActive = true) (video : VideoCodec)
    (audio : AudioCodec) :
    let layout := (recorder.withCodecs video audio).planned.layout
    layout.hasVideo = recorder.config.videoEnabled ∧
      layout.hasAudio = recorder.config.audioEnabled ∧ layout.isEmpty = false := by
  intro layout
  refine ⟨?_, ?_, ?_⟩
  · cases enabled : recorder.config.videoEnabled <;>
      simp [layout, planned, withCodecs_desiredLayout, Layout.hasVideo, enabled]
  · cases enabled : recorder.config.audioEnabled <;>
      simp [layout, planned, withCodecs_desiredLayout, Layout.hasAudio, enabled]
  · exact (desiredLayout_isEmpty _).trans (by rw [withCodecs, active]; rfl)

theorem launched_counter (recorder : Recorder) (plan : Plan) (result : Except SinkError GraphId) :
    (recorder.launched plan result).counter = recorder.counter := by
  cases result <;> rfl

theorem Attempts.quiet {config : Config} {after : Recorder} {requests more : List Request}
    (attempts : Attempts config recorder requests) (counter : after.counter = recorder.counter)
    (quiet : ∀ request ∈ more, request.isBuild = false) :
    Attempts config after (requests ++ more) := by
  have none : more.countP Request.isBuild = 0 :=
    List.countP_eq_zero.mpr fun request member => by simp [quiet request member]
  refine ⟨?_, ?_⟩
  · rw [counter, attempts.counted, List.countP_append, none, Nat.add_zero]
  · intro plan asked
    rcases List.mem_append.mp asked with earlier | late
    · exact attempts.carried plan earlier
    · cases quiet _ late

theorem Attempts.move {σ : Type} [Engine σ] {requests : List Request} {move : Move}
    (attempts : Attempts recorder.config recorder requests) (engine : σ)
    (admitted : recorder.Admits move) :
    Attempts recorder.config (move.outcome engine recorder)
      (requests ++ move.requests recorder) := by
  cases admitted with
  | rest video audio matching => exact attempts.quiet rfl (by simp [Move.requests])
  | feed session timeline buffers live =>
      refine attempts.quiet rfl ?_
      intro request member
      obtain ⟨entry, -, rfl⟩ := List.mem_map.mp member
      rfl
  | close video audio =>
      exact attempts.quiet (closed_counter recorder) recorder.closing_isBuild
  | renew video audio active differs =>
      let chosen := recorder.withCodecs video audio
      obtain ⟨closed, quiet⟩ := attempts.quiet (closed_counter recorder) recorder.closing_isBuild
      simp only [Move.requests, Move.outcome, ← List.append_assoc]
      refine ⟨?_, ?_⟩
      · rw [launched_counter, List.countP_append, UInt32.ofNat_add, ← closed]
        simp [attempting, withCodecs, Request.isBuild]
      · intro plan asked
        rw [List.mem_append, List.mem_singleton] at asked
        rcases asked with earlier | last
        · exact quiet plan earlier
        · obtain rfl := Request.build.inj last
          exact planned_carried active video audio

end Recorder

structure Recorder.Startable (recorder : Recorder) : Prop where
  wanted : ∀ layout ∈ recorder.layout, layout = recorder.desiredLayout
  plannable : ∀ location, ∃ plan,
    Plan.ofLayout recorder.desiredLayout recorder.config.audioFormat location = .ok plan

theorem Recorder.startable {recorder : Recorder} (active : recorder.config.isActive = true)
    (wanted : ∀ session ∈ recorder.session, session.layout = recorder.desiredLayout) :
    recorder.Startable := by
  refine ⟨?_, ?_⟩
  · intro layout member
    obtain ⟨session, live, rfl⟩ := Option.mem_map.mp member
    exact wanted session live
  · intro location
    have nonempty : recorder.desiredLayout.isEmpty = false := by
      rw [recorder.desiredLayout_isEmpty, active]
      rfl
    exact ⟨_, Plan.ofLayout_of_nonempty nonempty recorder.config.audioFormat location⟩

namespace Studio

variable {σ : Type} [Engine σ] {studio : Studio σ}

theorem teardown_startable (active : studio.recorder.config.isActive = true) :
    studio.teardown.recorder.Startable := by
  rw [teardown_recorder]
  exact Recorder.startable (by rwa [Recorder.closed_config]) (by simp)

theorem adoptAudio_startable (sound : studio.recorder.Sound)
    (enabled : studio.recorder.config.audioEnabled = true) (codec : AudioCodec) :
    (studio.adoptAudio codec).recorder.Startable := by
  let chosen : Studio σ := { studio with recorder.audioCodec := codec }
  have active : chosen.recorder.config.isActive = true := by simp [chosen, Config.isActive, enabled]
  unfold adoptAudio
  cases other : chosen.recorder.carriesOtherAudio codec with
  | true =>
      simp only [chosen] at other
      simp only [other, if_true]
      exact teardown_startable active
  | false =>
      have wanted := sound.layout_of_same_audio enabled other
      simp only [chosen] at other
      simp only [other, Bool.false_eq_true, if_false]
      exact Recorder.startable active wanted

theorem adoptVideo_startable (sound : studio.recorder.Sound)
    (active : studio.recorder.config.isActive = true) (codec : VideoCodec) :
    (studio.adoptVideo codec).recorder.Startable := by
  let chosen : Studio σ := { studio with recorder.videoCodec := codec }
  unfold adoptVideo
  cases other : chosen.recorder.config.videoEnabled && chosen.recorder.carriesOtherVideo codec with
  | true =>
      simp only [chosen] at other
      simp only [other, if_true]
      exact teardown_startable active
  | false =>
      have wanted := sound.layout_of_same_video other
      simp only [chosen] at other
      simp only [other, Bool.false_eq_true, if_false]
      exact Recorder.startable active wanted

end Studio

namespace DryRun

theorem run_attempts (config : Config) (steps : List (Step Owned.Operation)) :
    let last := (run (fresh config) steps).2
    last.studio.recorder.config = config.effective ∧
      Recorder.Attempts config.effective last.studio.recorder
        ((transcript config steps).map Exchange.request) := by
  refine tracedRun_invariant (fun recorder _ transcript =>
    Recorder.Attempts config.effective recorder (transcript.map Exchange.request)) ?_ ?_ ?_
  · exact ⟨rfl, nofun⟩
  · intro step member recorder dry transcript attempts
    exact attempts
  · intro recorder dry transcript configured move admitted attempts
    rw [List.map_append, Engine.exchanges_requests]
    rw [← configured] at attempts ⊢
    exact attempts.move dry admitted

theorem build_of_built {config : Config} {steps : List (Step Owned.Operation)} {graph : GraphId}
    {location : String} {layout : Layout}
    (noted : .built graph location layout ∈ (memoryEngine (run (fresh config) steps).2).events) :
    ∃ plan : Plan, plan.layout = layout ∧
      .build plan ∈ (transcript config steps).map Exchange.request := by
  have events : (memoryEngine (run (fresh config) steps).2).events.toList =
      (transcript config steps).filterMap Exchange.event? := (Told.run config steps).events
  rw [← Array.mem_toList_iff, events, List.mem_filterMap] at noted
  obtain ⟨exchange, member, noted⟩ := noted
  obtain ⟨plan, asked, same⟩ := Exchange.request_of_built noted
  exact ⟨plan, same, List.mem_map.mpr ⟨exchange, member, asked⟩⟩

/-- After any run, the recorder, the engine and the negotiation agree on what is live. -/
theorem layout_follows_negotiation (config : Config) (steps : List (Step Owned.Operation)) :
    let last := (run (fresh config) steps).2
    let recorder := last.studio.recorder
    recorder.phase = (if recorder.session.isSome then .running else .idle) ∧
      (memoryEngine last).counts.live = (if recorder.session.isSome then 1 else 0) ∧
      (∀ session ∈ recorder.session,
        session.layout = config.effective.layoutOf recorder.codecs) ∧
      (∀ graph location layout, .built graph location layout ∈ (memoryEngine last).events →
        layout.hasVideo = config.effective.videoEnabled ∧
        layout.hasAudio = config.effective.audioEnabled ∧ layout.isEmpty = false) ∧
      recorder.counter =
        .ofNat (((transcript config steps).map Exchange.request).countP Request.isBuild) ∧
      (config.effective.audioEnabled →
        ∀ codec, (last.studio.adoptAudio codec).recorder.Startable) ∧
      (config.effective.isActive →
        ∀ codec, (last.studio.adoptVideo codec).recorder.Startable) := by
  intro last recorder
  have sound : recorder.Sound := run_sound config steps
  obtain ⟨configured, counted, carried⟩ := run_attempts config steps
  refine ⟨sound.phase, ?_, ?_, ?_, counted, ?_, ?_⟩
  · have live : (memoryEngine last).counts.live = recorder.session.toList.length :=
      (Told.run config steps).carries.live
    rw [live]
    cases recorder.session <;> rfl
  · intro session live
    rw [sound.layout session live, Recorder.desiredLayout_eq, configured]
  · intro graph location layout noted
    obtain ⟨plan, rfl, asked⟩ := build_of_built noted
    exact carried plan asked
  · intro enabled
    exact Studio.adoptAudio_startable sound (by rwa [configured])
  · intro active
    exact Studio.adoptVideo_startable sound (by rwa [configured])

end DryRun
end StreamRecorder
