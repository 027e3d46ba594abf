import StreamRecorder.Proofs.Scarcity

namespace StreamRecorder

def Exchange.mishap? : Exchange → Option Level
  | ⟨.build _, .built (.error _)⟩ => some .error
  | ⟨.push _ _ _, .accepted (.error _)⟩ => some .warn
  | ⟨.endOfStream _ _, .accepted (.error _)⟩ => some .warn
  | ⟨.awaitCompletion _ _, .completed completion⟩ =>
      if completion = .endOfStream then none else some .warn
  | _ => none

def Notice.isBracket : Notice → Bool
  | .started _ | .stopped _ => true
  | _ => false

def Notice.isPlain (notice : Notice) : Bool :=
  notice.level ≠ .error && notice.level ≠ .warn && !notice.isBracket

def brackets (paths : List String) : List Notice :=
  paths.flatMap fun path => [.started path, .stopped path]

/-! ## Balance -/

/-- A log says as much as a transcript does, but for some faults and losses that no exchange shows
and for what is due. -/
structure Balance (faults losses : Nat) (due log : List Notice) (transcript : List Exchange) :
    Prop where
  errors : log.countP (·.level = .error) = transcript.countP (·.mishap? = some .error) + faults
  warnings : log.countP (·.level = .warn) = transcript.countP (·.mishap? = some .warn) + losses
  recordings : log.filter Notice.isBracket ++ due =
    brackets (transcript.filterMap Exchange.location?)

namespace Balance

variable {faults losses : Nat} {due log : List Notice} {transcript : List Exchange}

theorem append (balance : Balance faults losses due log transcript) {notices later : List Notice}
    {exchanges : List Exchange}
    (errors : notices.countP (·.level = .error) = exchanges.countP (·.mishap? = some .error))
    (warnings : notices.countP (·.level = .warn) = exchanges.countP (·.mishap? = some .warn))
    (recordings : notices.filter Notice.isBracket ++ later =
      due ++ brackets (exchanges.filterMap Exchange.location?)) :
    Balance faults losses later (log ++ notices) (transcript ++ exchanges) where
  errors := by
    rw [List.countP_append, List.countP_append, balance.errors, errors]
    omega
  warnings := by
    rw [List.countP_append, List.countP_append, balance.warnings, warnings]
    omega
  recordings := by
    rw [List.filter_append, List.append_assoc, recordings, ← List.append_assoc,
      balance.recordings, List.filterMap_append, brackets, brackets, brackets, List.flatMap_append]

theorem lost (balance : Balance faults losses due log transcript) {notice : Notice}
    (warns : notice.level = .warn) (inside : notice.isBracket = false) :
    Balance faults (losses + 1) due (log ++ [notice]) transcript where
  errors := by simp [List.countP_append, warns, balance.errors]
  warnings := by simp [List.countP_append, warns, balance.warnings, Nat.add_assoc]
  recordings := by
    rw [List.filter_append, List.filter_singleton, inside]
    simpa using balance.recordings

end Balance

/-! ## Balanced studios -/

namespace Studio

variable {σ : Type} {studio : Studio (TracedEngine σ)} {faults losses : Nat} {due : List Notice}

def Balanced (faults losses : Nat) (due : List Notice) (studio : Studio (TracedEngine σ)) : Prop :=
  Balance faults losses due studio.log.toList studio.engine.transcript.toList

theorem noteAll_log (studio : Studio (TracedEngine σ)) (notices : List Notice) :
    (studio.noteAll notices).log.toList = studio.log.toList ++ notices := by
  induction notices generalizing studio with
  | nil => exact (List.append_nil _).symm
  | cons notice notices ih =>
      refine (ih (studio.note notice)).trans ?_
      rw [note, Array.toList_push, List.append_assoc, List.singleton_append]

namespace Balanced

theorem note (balanced : studio.Balanced faults losses due) {notice : Notice}
    (plain : notice.isPlain = true) : (studio.note notice).Balanced faults losses due := by
  simp only [Notice.isPlain, Bool.and_eq_true, decide_eq_true_eq, Bool.not_eq_true'] at plain
  obtain ⟨⟨harmless, quiet⟩, inside⟩ := plain
  have more : Balance faults losses due (studio.log.toList ++ [notice])
      (studio.engine.transcript.toList ++ []) := by
    apply Balance.append balanced
    · simp [harmless]
    · simp [quiet]
    · simp [inside, brackets]
  rwa [List.append_nil, ← noteAll_log] at more

theorem lost (balanced : studio.Balanced faults losses due) {notice : Notice}
    (warns : notice.level = .warn) (inside : notice.isBracket = false) :
    (studio.note notice).Balanced faults (losses + 1) due := by
  have more := Balance.lost balanced warns inside
  rwa [← noteAll_log] at more

theorem exchanged (balanced : studio.Balanced faults losses due) (engine : σ) (request : Request)
    (answer : Answer) (notices : List Notice) {later : List Notice}
    (errors : notices.countP (·.level = .error) =
      [Exchange.mk request answer].countP (·.mishap? = some .error))
    (warnings : notices.countP (·.level = .warn) =
      [Exchange.mk request answer].countP (·.mishap? = some .warn))
    (recordings : notices.filter Notice.isBracket ++ later =
      due ++ brackets ([Exchange.mk request answer].filterMap Exchange.location?)) :
    Studio.Balanced faults losses later
      ({ studio with engine := studio.engine.noted engine request answer }.noteAll notices) := by
  have more := Balance.append balanced errors warnings recordings
  rw [Balanced, noteAll_log, noteAll_engine, TracedEngine.noted, Array.toList_push]
  exact more

theorem advance (balanced : studio.Balanced faults losses due) (session : Session)
    (timeline : Timeline) (timestamp : UInt64) :
    (studio.advance session timeline timestamp).Balanced faults losses due := by
  unfold Studio.advance Timeline.notices
  cases session.timeline.precededOrigin timestamp with
  | none => exact balanced
  | some origin => exact Balanced.note balanced rfl

variable [Engine σ]

theorem endStream (balanced : studio.Balanced faults losses due) (graph : GraphId)
    (endpoint : Endpoint) : (studio.endStream graph endpoint).Balanced faults losses due := by
  have same := (List.append_nil due).symm
  simp only [Studio.endStream, Engine.endOfStream]
  cases (Engine.endOfStream studio.engine.engine graph endpoint).1 with
  | ok result => exact balanced.exchanged _ _ _ [] rfl rfl same
  | error fault => exact balanced.exchanged _ _ _ [.endOfStreamFailed endpoint fault] rfl rfl same

theorem endStreams (balanced : studio.Balanced faults losses due) (session : Session) :
    (studio.endStreams session).Balanced faults losses due := by
  unfold Studio.endStreams
  induction session.layout.endpoints generalizing studio with
  | nil => exact balanced
  | cons endpoint endpoints ih => exact ih (balanced.endStream session.graph endpoint)

theorem awaitDrain (balanced : studio.Balanced faults losses due) (session : Session) :
    (studio.awaitDrain session).Balanced faults losses due := by
  have same := (List.append_nil due).symm
  simp only [Studio.awaitDrain, Engine.awaitCompletion]
  generalize (Engine.awaitCompletion studio.engine.engine session.graph _).1 = completion
  apply balanced.exchanged _ _ _ [drainNotice studio.recorder.config.flushTimeout completion]
  all_goals cases completion
  all_goals first | rfl | exact same

theorem close {session : Session}
    (balanced : studio.Balanced faults losses [.stopped session.location]) :
    (studio.close session).Balanced faults losses [] := by
  have halted : Studio.Balanced faults losses [.stopped session.location]
      { studio with engine := Engine.halt studio.engine session.graph } :=
    balanced.exchanged _ (.halt session.graph) .done [] rfl rfl rfl
  exact halted.exchanged _ (.release session.graph) .done [.stopped session.location] rfl rfl rfl

theorem launch (balanced : studio.Balanced faults losses []) (plan : Plan) :
    (studio.launch plan).Balanced faults losses
      (match (Engine.build studio.engine plan).1 with
        | .ok _ => [.stopped plan.location]
        | .error _ => []) := by
  simp only [Studio.launch, Engine.build]
  cases (Engine.build studio.engine.engine plan).1 with
  | ok graph => exact balanced.exchanged _ _ _ [.started plan.location] rfl rfl rfl
  | error fault => exact balanced.exchanged _ _ _ [.buildFailed fault] rfl rfl rfl

theorem pushFrame (balanced : studio.Balanced faults losses due) (graph : GraphId)
    (endpoint : Endpoint) (buffer : Buffer) :
    (studio.pushFrame graph endpoint buffer).Balanced faults losses due := by
  have same := (List.append_nil due).symm
  simp only [Studio.pushFrame, Engine.push]
  cases (Engine.push studio.engine.engine graph endpoint buffer).1 with
  | ok result => exact balanced.exchanged _ _ _ [] rfl rfl same
  | error fault =>
      exact balanced.exchanged _ _ _ [.frameRefused endpoint buffer.presentation fault] rfl rfl same

theorem pushSilence (balanced : studio.Balanced faults losses due) (memory : Memory)
    (graph : GraphId) (gap : UInt64) :
    let bytes := (Silence.length gap studio.recorder.config.audioFormat).toNat
    (studio.pushSilence memory graph gap).Balanced faults
      (losses + if memory.silence bytes = false then 1 else 0) due := by
  intro bytes
  have same := (List.append_nil due).symm
  simp only [Studio.pushSilence, Silence.buffer, Buffer.zeroed, Engine.push]
  cases fits : memory.silence bytes with
  | false =>
      simp only [bytes] at fits
      simp only [Bool.false_eq_true, if_false, Except.map]
      exact balanced.lost rfl rfl
  | true =>
      simp only [bytes] at fits
      simp only [if_true, Except.map]
      generalize Buffer.withDuration _ gap = silence
      cases (Engine.push studio.engine.engine graph .audio silence).1 with
      | ok result => exact balanced.exchanged _ _ _ [.silenceInserted gap silence.size] rfl rfl same
      | error fault => exact balanced.exchanged _ _ _ [.silenceDropped fault] rfl rfl same

end Balanced

end Studio

/-! ## Commands -/

def Recorder.due (recorder : Recorder) : List Notice :=
  (recorder.session.map fun session => .stopped session.location).toList

theorem Recorder.due_of_idle {recorder : Recorder} (idle : recorder.session = none) :
    recorder.due = [] := by
  rw [due, idle]
  rfl

namespace Studio

variable {σ : Type} [Engine σ] {studio : Studio (TracedEngine σ)} {faults losses : Nat}

def Accounted (faults losses : Nat) (studio : Studio (TracedEngine σ)) : Prop :=
  studio.Balanced faults losses studio.recorder.due

namespace Accounted

theorem teardown (accounted : studio.Accounted faults losses) :
    studio.teardown.Accounted faults losses := by
  rw [Accounted, Recorder.due_of_idle (by rw [teardown_recorder, Recorder.closed_session])]
  unfold Studio.teardown
  cases live : studio.recorder.session with
  | none =>
      rw [Accounted, Recorder.due_of_idle live] at accounted
      exact accounted
  | some session =>
      have detached : studio.detach.Balanced faults losses [.stopped session.location] := by
        rw [Accounted, Recorder.due, live] at accounted
        exact accounted
      exact ((detached.endStreams session).awaitDrain session).close

theorem launch (accounted : studio.Accounted faults losses) (idle : studio.recorder.session = none)
    (plan : Plan) : (studio.launch plan).Accounted faults losses := by
  rw [Accounted, Recorder.due_of_idle idle] at accounted
  have launched := accounted.launch plan
  rw [Accounted, launch_recorder]
  cases answered : (Engine.build studio.engine plan).1 with
  | ok graph =>
      rw [answered] at launched
      exact launched
  | error fault =>
      rw [answered] at launched
      rw [Recorder.launched, Recorder.due_of_idle idle]
      exact launched

theorem build (accounted : studio.Accounted faults losses) (idle : studio.recorder.session = none)
    {layout : Layout} (nonempty : layout.isEmpty = false) :
    (studio.build layout).Accounted faults losses := by
  unfold Studio.build
  simp only [Plan.ofLayout_of_nonempty nonempty]
  refine launch ?_ ?_ _
  · exact Balanced.note accounted rfl
  · exact idle

theorem start (accounted : studio.Accounted faults losses)
    (active : studio.recorder.config.isActive = true) : studio.start.Accounted faults losses := by
  simp only [Studio.start]
  split
  · exact Balanced.note accounted rfl
  · -- An empty layout would be complained about with no build to show for it.
    apply accounted.teardown.build
    · rw [teardown_recorder, Recorder.closed_session]
    · rw [Recorder.desiredLayout_isEmpty, active]
      rfl

theorem adoptAudio (accounted : studio.Accounted faults losses) (codec : AudioCodec) :
    (studio.adoptAudio codec).Accounted faults losses := by
  simp only [Studio.adoptAudio]
  split
  · apply teardown
    exact Balanced.note accounted rfl
  · exact accounted

theorem adoptVideo (accounted : studio.Accounted faults losses) (codec : VideoCodec) :
    (studio.adoptVideo codec).Accounted faults losses := by
  simp only [Studio.adoptVideo]
  split
  · apply teardown
    exact Balanced.note accounted rfl
  · exact accounted

theorem chooseAudio (accounted : studio.Accounted faults losses) (codec : AudioCodec) :
    (studio.chooseAudio codec).Accounted faults losses := by
  simp only [Studio.chooseAudio]
  split
  · exact accounted
  · rename_i enabled
    have adopted := accounted.adoptAudio codec
    cases codec with
    | aacEld => exact adopted
    | alac =>
        apply adopted.start
        rw [adoptAudio_config]
        simp only [Bool.not_eq_true', Bool.not_eq_false] at enabled
        rw [Config.isActive, enabled, Bool.true_or]

theorem chooseVideo (accounted : studio.Accounted faults losses) (hevc : Bool) :
    (studio.chooseVideo hevc).Accounted faults losses := by
  simp only [Studio.chooseVideo]
  split
  · exact accounted
  · rename_i active
    refine start ?_ ?_
    · exact Balanced.note (accounted.adoptVideo (VideoCodec.ofHevc hevc)) rfl
    · rw [note_recorder, adoptVideo_config]
      simpa using active

theorem stop (accounted : studio.Accounted faults losses) :
    studio.stop.Accounted faults losses := by
  unfold Studio.stop
  cases live : studio.recorder.session with
  | none => exact accounted
  | some session => exact accounted.teardown

theorem destroy (accounted : studio.Accounted faults losses) :
    studio.destroy.Accounted faults losses := by
  apply teardown
  exact Balanced.note accounted.stop rfl

omit [Engine σ] in
theorem lost (accounted : studio.Accounted faults losses) {notice : Notice}
    (warns : notice.level = .warn) (inside : notice.isBracket = false) :
    (studio.note notice).Accounted faults (losses + 1) :=
  Balanced.lost accounted warns inside

omit [Engine σ] in
theorem advance (accounted : studio.Accounted faults losses) {session : Session}
    (live : studio.recorder.session = some session) (timeline : Timeline) (timestamp : UInt64) :
    (studio.advance session timeline timestamp).Accounted faults losses := by
  have same : (studio.advance session timeline timestamp).recorder.due = studio.recorder.due := by
    rw [advance_recorder, Recorder.due, Recorder.due, live]
    rfl
  rw [Accounted, same]
  exact Balanced.advance accounted session timeline timestamp

theorem pushFrame (accounted : studio.Accounted faults losses) (graph : GraphId)
    (endpoint : Endpoint) (buffer : Buffer) :
    (studio.pushFrame graph endpoint buffer).Accounted faults losses := by
  rw [Accounted, pushFrame_recorder]
  exact Balanced.pushFrame accounted graph endpoint buffer

theorem pushSilence (accounted : studio.Accounted faults losses) (memory : Memory)
    (graph : GraphId) (gap : UInt64) :
    let bytes := (Silence.length gap studio.recorder.config.audioFormat).toNat
    (studio.pushSilence memory graph gap).Accounted faults
      (losses + if memory.silence bytes = false then 1 else 0) := by
  intro bytes
  rw [Accounted, pushSilence_recorder]
  exact Balanced.pushSilence accounted memory graph gap

theorem pushVideo (accounted : studio.Accounted faults losses) (data : Payload)
    (timestamp : UInt64) (memory : Memory) :
    (studio.pushVideo memory data timestamp).Accounted faults (losses +
      (studio.recorder.allocations (.pushVideo data timestamp memory)).countP (!·.granted)) := by
  simp only [Studio.pushVideo, Recorder.allocations, Command.frame?]
  cases enabled : studio.recorder.config.videoEnabled with
  | false => cases studio.recorder.session <;> exact accounted
  | true =>
      cases live : studio.recorder.session with
      | none => exact accounted
      | some session =>
          cases carried : session.layout.hasVideo with
          | false => simpa [Layout.endpoints, carried] using accounted
          | true =>
              cases fits : memory.frame data.size with
              | false =>
                  simpa [Layout.endpoints, carried, Buffer.copy, fits, Command.memory] using
                    accounted.lost rfl rfl
              | true =>
                  let stamped := session.timeline.stampVideo timestamp
                  have placed := (accounted.advance live stamped.2 timestamp).pushFrame
                    session.graph .video (Buffer.withTimestamp { data } stamped.1)
                  simpa [Layout.endpoints, carried, Buffer.copy, fits, Command.memory,
                    Timeline.place] using placed

theorem pushAudio (accounted : studio.Accounted faults losses) (data : Payload)
    (timestamp : UInt64) (memory : Memory) :
    (studio.pushAudio memory data timestamp).Accounted faults (losses +
      (studio.recorder.allocations (.pushAudio data timestamp memory)).countP (!·.granted)) := by
  simp only [Studio.pushAudio, Recorder.allocations, Command.frame?]
  cases enabled : studio.recorder.config.audioEnabled with
  | false => cases studio.recorder.session <;> exact accounted
  | true =>
      cases live : studio.recorder.session with
      | none => exact accounted
      | some session =>
          cases carried : session.layout.hasAudio with
          | false => simpa [Layout.endpoints, carried] using accounted
          | true =>
              cases fits : memory.frame data.size with
              | false =>
                  simpa [Layout.endpoints, carried, Buffer.copy, fits, Command.memory] using
                    accounted.lost rfl rfl
              | true =>
                  cases stamped : session.timeline.stampAudio timestamp session.layout.hasVideo with
                  | mk stamp timeline =>
                      have advanced := accounted.advance live timeline timestamp
                      let buffer := Buffer.withTimestamp { data } stamp.presentation
                      cases wanted : stamp.silence with
                      | none =>
                          have placed := advanced.pushFrame session.graph .audio buffer
                          simpa [Layout.endpoints, carried, Buffer.copy, fits, Command.memory,
                            Timeline.place, stamped, wanted] using placed
                      | some gap =>
                          have placed := (advanced.pushSilence memory session.graph gap).pushFrame
                            session.graph .audio buffer
                          rw [advance_recorder] at placed
                          simpa [Layout.endpoints, carried, Buffer.copy, fits, Command.memory,
                            Timeline.place, stamped, wanted, List.countP_singleton] using placed

theorem perform (accounted : studio.Accounted faults losses) (command : Command) :
    (studio.perform command).Accounted faults
      (losses + (studio.recorder.allocations command).countP (!·.granted)) := by
  have unfed (none : command.frame? studio.recorder.config = none) :
      (studio.recorder.allocations command).countP (!·.granted) = 0 := by
    simp only [Recorder.allocations, none]
    cases studio.recorder.session <;> rfl
  cases command with
  | chooseAudio codec =>
      rw [unfed rfl]
      exact accounted.chooseAudio codec
  | chooseVideo hevc =>
      rw [unfed rfl]
      exact accounted.chooseVideo hevc
  | pushVideo data timestamp memory => exact accounted.pushVideo data timestamp memory
  | pushAudio data timestamp memory => exact accounted.pushAudio data timestamp memory
  | stop =>
      rw [unfed rfl]
      exact accounted.stop

end Accounted

omit [Engine σ] in
theorem ofConfig_accounted (config : Config) (engine : σ) :
    (Studio.ofConfig config { engine : TracedEngine σ }).Accounted
      (if config.validate = .ok () then 0 else 1) 0 := by
  change Balance _ 0 [] (openingNotices config) []
  simp only [openingNotices]
  generalize config.effective = enabled
  cases valid : config.validate with
  | ok result =>
      rw [if_pos rfl]
      cases enabled.isActive <;> cases enabled.audioEnabled <;> cases enabled.videoEnabled
      all_goals exact ⟨rfl, rfl, rfl⟩
  | error fault =>
      rw [if_neg (by simp)]
      cases enabled.isActive <;> cases enabled.audioEnabled <;> cases enabled.videoEnabled
      all_goals exact ⟨rfl, rfl, rfl⟩

end Studio

/-! ## Runs -/

namespace Owned

variable {σ : Type} [Engine σ]

def allocations (owned : Owned σ) : Operation → List Allocation
  | .perform command => if owned.held then owned.studio.recorder.allocations command else []
  | .destroy | .drop => []

def allocated (owned : Owned σ) : List Operation → List Allocation
  | [] => []
  | operation :: rest => owned.allocations operation ++ (owned.operate operation).allocated rest

variable {faults losses : Nat}

theorem operate_accounted {owned : Owned (TracedEngine σ)}
    (accounted : owned.studio.Accounted faults losses) (operation : Operation) :
    (owned.operate operation).studio.Accounted faults
      (losses + (owned.allocations operation).countP (!·.granted)) := by
  cases holding : owned.held with
  | false =>
      rw [operate_of_gone holding]
      cases operation <;> simpa [allocations, holding] using accounted
  | true =>
      cases operation with
      | perform command =>
          simpa [operate, step?, allocations, holding] using accounted.perform command
      | destroy => simpa [operate, step?, allocations, holding] using accounted.destroy
      | drop => simpa [operate, step?, allocations, holding, drop] using accounted.teardown

theorem operations_accounted {owned : Owned (TracedEngine σ)}
    (accounted : owned.studio.Accounted faults losses) (operations : List Operation) :
    (operations.foldl operate owned).studio.Accounted faults
      (losses + (owned.allocated operations).countP (!·.granted)) := by
  induction operations generalizing owned losses with
  | nil => exact accounted
  | cons operation operations ih =>
      rw [allocated, List.countP_append, ← Nat.add_assoc]
      exact ih (operate_accounted accounted operation)

theorem course_gone (config : Config) (engine : σ) (operations : List Operation)
    (gone : (course config engine operations).held = false) :
    (course config engine operations).studio.recorder.session = none := by
  induction operations using List.reverseRecOn with
  | nil => cases gone
  | append_singleton operations operation ih =>
      rw [course_concat] at gone ⊢
      cases holding : (course config engine operations).held with
      | false =>
          rw [operate_of_gone holding]
          exact ih holding
      | true =>
          have plays := operate_plays (course_sound config engine operations).1 holding operation
          rw [plays.recorder]
          exact operation.outcome_idle _ _ (plays.held.symm.trans gone)

/-- Every loss is in the log, and nothing else is: its complaints are the exchanges that went wrong,
the refused allocations and the fault of the configuration, and its recordings the graphs built. -/
theorem log_accounts_for_run (config : Config) (engine : σ) (operations : List Operation) :
    let owned := course config engine operations
    let log := owned.studio.log.toList
    let transcript := owned.studio.engine.transcript.toList
    let taken := allocated { studio := .ofConfig config { engine : TracedEngine σ } } operations
    log.countP (·.level = .error) = transcript.countP (·.mishap? = some .error) +
        (if config.validate = .ok () then 0 else 1) ∧
      log.countP (·.level = .warn) = transcript.countP (·.mishap? = some .warn) +
        taken.countP (!·.granted) ∧
      log.filter Notice.isBracket ++ owned.studio.recorder.due =
        brackets (transcript.filterMap Exchange.location?) ∧
      (owned.held = false →
        log.filter Notice.isBracket = brackets (transcript.filterMap Exchange.location?)) := by
  intro owned log transcript taken
  let start : Owned (TracedEngine σ) := { studio := .ofConfig config { engine } }
  have begun : start.studio.Accounted _ 0 := Studio.ofConfig_accounted config engine
  have accounted := operations_accounted begun operations
  rw [Nat.zero_add] at accounted
  have recordings : log.filter Notice.isBracket ++ owned.studio.recorder.due =
      brackets (transcript.filterMap Exchange.location?) := accounted.recordings
  refine ⟨accounted.errors, accounted.warnings, recordings, fun gone => ?_⟩
  rwa [Recorder.due_of_idle (course_gone config engine operations gone), List.append_nil]
    at recordings

/-- A build fails; then a frame is refused, one is lost, and so is silence. The graph neither hears
that its first stream ends nor drains. -/
theorem log_accounts_for_run_of_trouble :
    let engine : DryEngine :=
      { engine := { completion := .timedOut }
        builds := [some (.engine "busy")]
        pushes := [some (.push .video "full")]
        endings := [some (.engine "deaf")] }
    let operations : List Operation :=
      [.perform (.chooseVideo false), .perform (.chooseVideo false),
        .perform (.pushVideo #[1] 5000000000 .whole),
        .perform (.pushAudio #[2, 3] 5000500000 (.upTo 1)),
        .perform (.pushAudio #[4] 5001000000 (.upTo 100)), .destroy]
    let owned := course {} engine operations
    let log := owned.studio.log.toList
    owned.held = false ∧ log.countP (·.level = .error) = 1 ∧ log.countP (·.level = .warn) = 5 ∧
      log.filter Notice.isBracket =
        brackets (owned.studio.engine.transcript.toList.filterMap Exchange.location?) := by
  intro engine operations
  have gone : (course {} engine operations).held = false := by decide +kernel
  obtain ⟨errors, warnings, -, recordings⟩ := log_accounts_for_run {} engine operations
  refine ⟨gone, errors.trans ?_, warnings.trans ?_, recordings gone⟩
  · decide +kernel
  · decide +kernel

end Owned

end StreamRecorder
