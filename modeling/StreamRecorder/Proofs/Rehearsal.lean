import StreamRecorder.Proofs.Delivery
import StreamRecorder.Proofs.Layouts

/-!
# Rehearsals

Given what each build will be answered, the operations alone say what is asked of an engine and what
becomes of the recorder.
-/

namespace StreamRecorder

def Exchange.buildAnswer? : Exchange → Option (Except SinkError GraphId)
  | ⟨.build _, .built result⟩ => some result
  | _ => none

def buildAnswers (transcript : List Exchange) : List (Except SinkError GraphId) :=
  transcript.filterMap Exchange.buildAnswer?

theorem buildAnswers_append (first rest : List Exchange) :
    buildAnswers (first ++ rest) = buildAnswers first ++ buildAnswers rest :=
  List.filterMap_append

/-- Wherever both transcripts have an answer to a build of the same number, it is the same. -/
def BuildsAlike (first second : List Exchange) : Prop :=
  ∀ (number : Nat) (one two : Except SinkError GraphId), (buildAnswers first)[number]? = some one →
    (buildAnswers second)[number]? = some two → one = two

theorem BuildsAlike.of_eq {first second : List Exchange}
    (same : buildAnswers first = buildAnswers second) : BuildsAlike first second := by
  intro number one two found other
  rw [same, other] at found
  exact (Option.some.inj found).symm

def Answered (answers : Nat → Except SinkError GraphId) (transcript : List Exchange) : Prop :=
  ∀ number result, (buildAnswers transcript)[number]? = some result → result = answers number

theorem buildAnswers_of_earlier {earlier transcript : List Exchange} {number : Nat}
    {result : Except SinkError GraphId} (before : earlier <+: transcript)
    (found : (buildAnswers earlier)[number]? = some result) :
    (buildAnswers transcript)[number]? = some result := by
  obtain ⟨later, rfl⟩ := before
  have early : number < (buildAnswers earlier).length := (List.getElem?_eq_some_iff.mp found).1
  rw [buildAnswers_append, List.getElem?_append_left early, found]

theorem Answered.of_earlier {answers : Nat → Except SinkError GraphId}
    {earlier transcript : List Exchange} (answered : Answered answers transcript)
    (before : earlier <+: transcript) : Answered answers earlier := by
  intro number result found
  exact answered number result (buildAnswers_of_earlier before found)

theorem BuildsAlike.answers {first second : List Exchange} (alike : BuildsAlike first second) :
    ∃ answers, Answered answers first ∧ Answered answers second := by
  let answers : Nat → Except SinkError GraphId := fun number =>
    ((buildAnswers first)[number]?.or (buildAnswers second)[number]?).getD (.error (.engine ""))
  refine ⟨answers, ?_, ?_⟩
  · intro number result found
    simp only [answers, found, Option.some_or, Option.getD_some]
  · intro number result found
    cases other : (buildAnswers first)[number]? with
    | none => simp only [answers, other, found, Option.none_or, Option.getD_some]
    | some one =>
        have same : one = result := alike number one result other found
        simp only [answers, other, same, Option.some_or, Option.getD_some]

theorem Engine.buildAnswers_length {σ : Type} [Engine σ] (engine : σ) (requests : List Request) :
    (buildAnswers (exchanges engine requests)).length = requests.countP Request.isBuild := by
  induction requests generalizing engine with
  | nil => rfl
  | cons request requests ih =>
      have rest := ih (serve engine request).2
      cases request with
      | build plan =>
          rw [List.countP_cons_of_pos rfl, ← rest]
          rfl
      | push graph endpoint buffer => exact rest
      | endOfStream graph endpoint => exact rest
      | awaitCompletion graph timeout => exact rest
      | halt graph => exact rest
      | release graph => exact rest

theorem Engine.buildAnswers_of_quiet {σ : Type} [Engine σ] (engine : σ) {requests : List Request}
    (quiet : ∀ request ∈ requests, request.isBuild = false) :
    buildAnswers (exchanges engine requests) = [] := by
  rw [← List.length_eq_zero_iff, buildAnswers_length, List.countP_eq_zero]
  intro request member
  simp [quiet request member]

theorem Engine.buildAnswers_closing {σ : Type} [Engine σ] (engine : σ) (recorder : Recorder) :
    buildAnswers (exchanges engine recorder.closing) = [] :=
  buildAnswers_of_quiet engine recorder.closing_isBuild

/-! ## The course of a recorder -/

namespace Owned

variable {σ : Type} [Engine σ]

def course (config : Config) (engine : σ) (operations : List Operation) : Owned (TracedEngine σ) :=
  operations.foldl operate { studio := .ofConfig config { engine } }

def exchanged (config : Config) (engine : σ) (operations : List Operation) : List Exchange :=
  (course config engine operations).studio.engine.transcript.toList

theorem course_concat (config : Config) (engine : σ) (operations : List Operation)
    (operation : Operation) : course config engine (operations ++ [operation]) =
      (course config engine operations).operate operation := by
  simp [course]

theorem course_sound (config : Config) (engine : σ) (operations : List Operation) :
    (course config engine operations).studio.recorder.Sound ∧
      (course config engine operations).studio.recorder.config = config.effective := by
  induction operations using List.reverseRecOn with
  | nil => exact ⟨Recorder.ofConfig_sound config, rfl⟩
  | append_singleton operations operation ih =>
      obtain ⟨sound, configured⟩ := ih
      rw [course_concat]
      refine ⟨operate_sound sound operation, ?_⟩
      cases holding : (course config engine operations).held with
      | false => rwa [operate_of_gone holding]
      | true =>
          rw [(operate_plays sound holding operation).recorder]
          exact ((operation.admitted sound).outcome_config _).trans configured

theorem exchanged_concat (config : Config) (engine : σ) (operations : List Operation)
    (operation : Operation) : exchanged config engine operations <+:
      exchanged config engine (operations ++ [operation]) := by
  have sound := (course_sound config engine operations).1
  rw [exchanged, exchanged, course_concat]
  cases holding : (course config engine operations).held with
  | false => rw [operate_of_gone holding]
  | true =>
      rw [(operate_plays sound holding operation).transcript]
      exact List.prefix_append _ _

theorem exchanged_monotone (config : Config) (engine : σ) {earlier operations : List Operation}
    (before : earlier <+: operations) :
    exchanged config engine earlier <+: exchanged config engine operations :=
  isPrefix_of_concat (exchanged_concat config engine) before

end Owned

/-! ## Rehearsing -/

def Move.settled (answer : Except SinkError GraphId) : Move → Recorder
  | .rest after | .feed _ _ after | .close after => after
  | .renew plan after => after.launched plan answer

theorem Move.outcome_eq_settled {σ : Type} [Engine σ] (engine : σ) (recorder : Recorder)
    (move : Move) (answer : Except SinkError GraphId)
    (answered : ∀ result,
      (buildAnswers (Engine.exchanges engine (move.requests recorder)))[0]? = some result →
        result = answer) :
    move.outcome engine recorder = move.settled answer := by
  cases move with
  | rest after => rfl
  | feed graph buffers after => rfl
  | close after => rfl
  | renew plan after =>
      let torn := Engine.afterAll engine recorder.closing
      have asked : buildAnswers (Engine.exchanges engine (recorder.closing ++ [.build plan])) =
          [(Engine.build torn plan).1] := by
        rw [Engine.exchanges_append, buildAnswers_append, Engine.buildAnswers_closing]
        rfl
      have same : (Engine.build torn plan).1 = answer := by
        apply answered
        rw [requests, asked]
        rfl
      rw [outcome, settled, same]

structure Rehearsal where
  recorder : Recorder
  requests : List Request := []
  held : Bool := true

namespace Rehearsal

def operate (answers : Nat → Except SinkError GraphId) (rehearsal : Rehearsal)
    (operation : Owned.Operation) : Rehearsal :=
  if rehearsal.held then
    let move := operation.move rehearsal.recorder
    { recorder := move.settled (answers (rehearsal.requests.countP Request.isBuild))
      requests := rehearsal.requests ++ move.requests rehearsal.recorder
      held := operation.keeps }
  else rehearsal

def ofOperations (answers : Nat → Except SinkError GraphId) (config : Config)
    (operations : List Owned.Operation) : Rehearsal :=
  operations.foldl (operate answers) { recorder := .ofConfig config }

structure Holds {σ : Type} (rehearsal : Rehearsal) (owned : Owned (TracedEngine σ)) : Prop where
  recorder : owned.studio.recorder = rehearsal.recorder
  held : owned.held = rehearsal.held
  requests : owned.studio.engine.transcript.toList.map Exchange.request = rehearsal.requests
  builds : (buildAnswers owned.studio.engine.transcript.toList).length =
    rehearsal.requests.countP Request.isBuild

variable {σ : Type} [Engine σ] {rehearsal : Rehearsal} {owned : Owned (TracedEngine σ)}

theorem Holds.operate (holds : rehearsal.Holds owned) (sound : owned.studio.recorder.Sound)
    (answers : Nat → Except SinkError GraphId) (operation : Owned.Operation)
    (answered : Answered answers (owned.operate operation).studio.engine.transcript.toList) :
    (rehearsal.operate answers operation).Holds (owned.operate operation) := by
  cases holding : owned.held with
  | false =>
      have gone : rehearsal.held = false := holds.held ▸ holding
      have same : rehearsal.operate answers operation = rehearsal := by
        simp [Rehearsal.operate, gone]
      rw [Owned.operate_of_gone holding, same]
      exact holds
  | true =>
      have plays := Owned.operate_plays sound holding operation
      have still : rehearsal.held = true := holds.held ▸ holding
      let move := operation.move rehearsal.recorder
      let count := rehearsal.requests.countP Request.isBuild
      have rehearsed : rehearsal.operate answers operation =
          { recorder := move.settled (answers count)
            requests := rehearsal.requests ++ move.requests rehearsal.recorder
            held := operation.keeps } := by
        simp [Rehearsal.operate, still, move, count]
      have moved := plays.recorder
      have told := plays.transcript
      rw [holds.recorder] at moved told
      -- The first build of this move has as its number the builds that came before it.
      have next : ∀ result, (buildAnswers (Engine.exchanges owned.studio.engine.engine
          (move.requests rehearsal.recorder)))[0]? = some result → result = answers count := by
        intro result first
        apply answered
        rw [told, buildAnswers_append, List.getElem?_append_right holds.builds.le, holds.builds,
          Nat.sub_self]
        exact first
      rw [rehearsed]
      refine ⟨?_, plays.held, ?_, ?_⟩
      · rw [moved]
        exact move.outcome_eq_settled _ _ _ next
      · rw [told, List.map_append, holds.requests, Engine.exchanges_requests]
      · rw [told, buildAnswers_append, List.length_append, holds.builds,
          Engine.buildAnswers_length, List.countP_append]

end Rehearsal

namespace Owned

variable {σ τ : Type} [Engine σ] [Engine τ]

theorem course_rehearsed (config : Config) (engine : σ) (operations : List Operation)
    (answers : Nat → Except SinkError GraphId)
    (answered : Answered answers (exchanged config engine operations)) :
    (Rehearsal.ofOperations answers config operations).Holds (course config engine operations) := by
  -- From the right, since an answer is found by the number of all builds before it.
  induction operations using List.reverseRecOn with
  | nil => exact ⟨rfl, rfl, rfl, rfl⟩
  | append_singleton operations operation ih =>
      have earlier : Answered answers (exchanged config engine operations) :=
        answered.of_earlier (exchanged_concat config engine operations operation)
      have holds := ih earlier
      have sound := (course_sound config engine operations).1
      rw [exchanged, course_concat] at answered
      rw [course_concat, Rehearsal.ofOperations, List.foldl_append]
      exact holds.operate sound answers operation answered

end Owned

/-! ## Errands -/

inductive Errand where
  | build (plan : Plan)
  | deliver (graph : GraphId) (frame : Frame) (presentation : UInt64)
  /-- Audio behind a gap: the silence goes first. -/
  | deliverPadded (graph : GraphId) (gap : UInt64) (data : Payload) (presentation : UInt64)
  | close (session : Session)

def Errand.requests (config : Config) : Errand → List Request
  | .build plan => [.build plan]
  | .deliver graph frame presentation =>
      [.push graph frame.endpoint (Buffer.withTimestamp { data := frame.data } presentation)]
  | .deliverPadded graph gap data presentation =>
      [.push graph .audio (Track.silence config.audioFormat gap).2,
        .push graph .audio (Buffer.withTimestamp { data } presentation)]
  | .close session => session.closing config.flushTimeout

theorem Errand.requests_effective (config : Config) :
    Errand.requests config.effective = Errand.requests config := by
  funext errand
  cases errand with
  | build plan => rfl
  | deliver graph frame presentation => rfl
  | deliverPadded graph gap data presentation =>
      simp only [requests, config.effective_audioFormat]
  | close session => simp only [requests, config.effective_flushTimeout]

theorem Recorder.closing_errands (recorder : Recorder) :
    recorder.closing =
      (recorder.session.toList.map Errand.close).flatMap (Errand.requests recorder.config) := by
  unfold closing
  cases recorder.session with
  | none => rfl
  | some session => simp [Errand.requests]

theorem Recorder.Admits.errands {recorder : Recorder} {move : Move}
    (admitted : recorder.Admits move) (portioned : move.Portioned recorder) :
    ∃ errands : List Errand,
      move.requests recorder = errands.flatMap (Errand.requests recorder.config) := by
  cases admitted with
  | rest video audio matching => exact ⟨[], rfl⟩
  | close video audio => exact ⟨_, recorder.closing_errands⟩
  | renew video audio active differs =>
      let plan := (recorder.withCodecs video audio).planned
      refine ⟨recorder.session.toList.map Errand.close ++ [.build plan], ?_⟩
      rw [Move.requests, recorder.closing_errands, List.flatMap_append]
      rfl
  | feed session timeline buffers live =>
      have portion : Portion recorder.config.audioFormat session.layout buffers :=
        portioned session live
      cases portion with
      | plain frame presentation carried =>
          exact ⟨[.deliver session.graph frame presentation], rfl⟩
      | padded gap frame presentation carried audio =>
          obtain ⟨endpoint, data, timestamp⟩ := frame
          obtain rfl : endpoint = .audio := audio
          exact ⟨[.deliverPadded session.graph gap data presentation], rfl⟩

namespace Owned

variable {σ τ : Type} [Engine σ] [Engine τ]

theorem exchanged_errands (config : Config) (engine : σ) (operations : List Operation) :
    ∃ errands : List Errand, (exchanged config engine operations).map Exchange.request =
      errands.flatMap (Errand.requests config) := by
  induction operations using List.reverseRecOn with
  | nil => exact ⟨[], rfl⟩
  | append_singleton operations operation ih =>
      obtain ⟨errands, earlier⟩ := ih
      obtain ⟨sound, configured⟩ := course_sound config engine operations
      rw [exchanged] at earlier
      rw [exchanged, course_concat]
      cases holding : (course config engine operations).held with
      | false =>
          rw [operate_of_gone holding]
          exact ⟨errands, earlier⟩
      | true =>
          obtain ⟨more, asked⟩ := (operation.admitted sound).errands (operation.portioned sound)
          rw [configured, Errand.requests_effective] at asked
          refine ⟨errands ++ more, ?_⟩
          rw [(operate_plays sound holding operation).transcript, List.map_append,
            Engine.exchanges_requests, earlier, asked, List.flatMap_append]

/-- Only the answers to builds steer a recorder, and it breaks off none of its errands. -/
theorem course_of_buildsAlike (config : Config) (first : σ) (second : τ)
    (operations : List Operation)
    (alike : BuildsAlike (exchanged config first operations) (exchanged config second operations)) :
    (∀ earlier, earlier <+: operations →
      (course config first earlier).studio.recorder =
          (course config second earlier).studio.recorder ∧
        (course config first earlier).held = (course config second earlier).held ∧
        (exchanged config first earlier).map Exchange.request =
          (exchanged config second earlier).map Exchange.request) ∧
      ∃ errands : List Errand, (exchanged config first operations).map Exchange.request =
        errands.flatMap (Errand.requests config) := by
  obtain ⟨answers, firstAnswered, secondAnswered⟩ := alike.answers
  refine ⟨?_, exchanged_errands config first operations⟩
  intro earlier before
  have one := course_rehearsed config first earlier answers
    (firstAnswered.of_earlier (exchanged_monotone config first before))
  have two := course_rehearsed config second earlier answers
    (secondAnswered.of_earlier (exchanged_monotone config second before))
  exact ⟨one.recorder.trans two.recorder.symm, one.held.trans two.held.symm,
    one.requests.trans two.requests.symm⟩

theorem course_of_buildsAlike_refused :
    let operations : List Operation :=
      [.perform (.chooseVideo false), .perform (.pushVideo #[1] 5000000000 .whole),
        .perform (.pushAudio #[2] 5001000000 .whole), .perform (.chooseVideo true),
        .perform (.chooseAudio .alac), .perform (.pushAudio #[3] 5002000000 .whole),
        .perform .stop, .destroy]
    let builds : FaultScript := [none, some (.engine "busy")]
    let willing : DryEngine := { engine := {}, builds }
    let refusing : DryEngine :=
      { engine := { completion := .timedOut }
        builds
        pushes := [none, some (.push .audio "full"), some (.engine "full")]
        endings := [some (.engine "deaf"), none, some (.missingEndpoint .video)] }
    BuildsAlike (exchanged {} willing operations) (exchanged {} refusing operations) ∧
      (exchanged {} willing operations).map Exchange.request =
        (exchanged {} refusing operations).map Exchange.request := by
  intro operations builds willing refusing
  have alike : BuildsAlike (exchanged {} willing operations) (exchanged {} refusing operations) :=
    BuildsAlike.of_eq (by decide +kernel)
  have same := (course_of_buildsAlike {} willing refusing operations alike).1 operations
    List.prefix_rfl
  exact ⟨alike, same.2.2⟩

end Owned

end StreamRecorder
