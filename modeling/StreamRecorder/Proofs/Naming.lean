import StreamRecorder.Proofs.FileNames
import StreamRecorder.Proofs.Layouts

namespace StreamRecorder

def Request.plan? : Request → Option Plan
  | .build plan => some plan
  | _ => none

def Exchange.location? : Exchange → Option String
  | ⟨.build plan, .built (.ok _)⟩ => some plan.location
  | _ => none

def plansOf (transcript : List Exchange) : List Plan :=
  (transcript.map Exchange.request).filterMap Request.plan?

theorem plansOf_append (first rest : List Exchange) :
    plansOf (first ++ rest) = plansOf first ++ plansOf rest := by
  simp [plansOf]

theorem plansOf_length (transcript : List Exchange) : (plansOf transcript).length =
    (transcript.map Exchange.request).countP Request.isBuild := by
  rw [plansOf, List.length_filterMap_eq_countP]
  congr 1
  funext request
  cases request <;> rfl

theorem locations_sublist (transcript : List Exchange) :
    (transcript.filterMap Exchange.location?).Sublist ((plansOf transcript).map Plan.location) := by
  induction transcript with
  | nil => exact List.Sublist.refl _
  | cons exchange transcript ih =>
      obtain ⟨request, answer⟩ := exchange
      cases request with
      | build plan =>
          rcases answer with (fault | graph) | _ | _ | _
          · exact ih.cons plan.location
          · exact ih.cons_cons plan.location
          · exact ih.cons plan.location
          · exact ih.cons plan.location
          · exact ih.cons plan.location
      | push graph endpoint buffer => exact ih
      | endOfStream graph endpoint => exact ih
      | awaitCompletion graph timeout => exact ih
      | halt graph => exact ih
      | release graph => exact ih

theorem unplanned {requests : List Request}
    (quiet : ∀ request ∈ requests, request.isBuild = false) :
    requests.filterMap Request.plan? = [] := by
  rw [List.filterMap_eq_nil_iff]
  intro request member
  cases request with
  | build plan => cases quiet _ member
  | push graph endpoint buffer => rfl
  | endOfStream graph endpoint => rfl
  | awaitCompletion graph timeout => rfl
  | halt graph => rfl
  | release graph => rfl

namespace Engine

variable {σ : Type} [Engine σ] {requests : List Request}

theorem plansOf_exchanges (engine : σ) (requests : List Request) :
    plansOf (exchanges engine requests) = requests.filterMap Request.plan? := by
  rw [plansOf, exchanges_requests]

theorem unnamed_of_quiet (engine : σ) (quiet : ∀ request ∈ requests, request.isBuild = false) :
    plansOf (exchanges engine requests) = [] ∧
      (exchanges engine requests).filterMap Exchange.location? = [] := by
  have unplanned : plansOf (exchanges engine requests) = [] :=
    (plansOf_exchanges engine requests).trans (unplanned quiet)
  have named := locations_sublist (exchanges engine requests)
  rw [unplanned] at named
  exact ⟨unplanned, List.eq_nil_of_sublist_nil named⟩

theorem exchanges_builds (engine : σ) (requests : List Request) :
    ((exchanges engine requests).filterMap Exchange.location?).length +
      (exchanges engine requests).countP Exchange.failsBuild =
        (plansOf (exchanges engine requests)).length := by
  induction requests generalizing engine with
  | nil => rfl
  | cons request requests ih =>
      have rest := ih (serve engine request).2
      cases request with
      | build plan =>
          have answered : (serve engine (.build plan)).1 = .built (Engine.build engine plan).1 := rfl
          rw [exchanges, answered]
          cases (Engine.build engine plan).1 with
          | error fault =>
              rw [List.countP_cons_of_pos rfl]
              change _ = (plansOf _).length + 1
              rw [← rest]
              rfl
          | ok graph =>
              change _ + 1 + _ = (plansOf _).length + 1
              rw [← rest]
              exact Nat.add_right_comm _ 1 _
      | push graph endpoint buffer => exact rest
      | endOfStream graph endpoint => exact rest
      | awaitCompletion graph timeout => exact rest
      | halt graph => exact rest
      | release graph => exact rest

end Engine

theorem Config.effective_outputTemplate (config : Config) :
    config.effective.outputTemplate = config.outputTemplate := by
  unfold effective
  split <;> rfl

def Numbering (template : String) (plans : List Plan) : Prop :=
  ∀ (number : Nat) (plan : Plan), plans[number]? = some plan →
    plan.location = OutputPath.text template (.ofNat (number + 1)) plan.layout

namespace Numbering

variable {template : String} {plans : List Plan}

theorem concat (numbering : Numbering template plans) {plan : Plan}
    (next : plan.location = OutputPath.text template (.ofNat (plans.length + 1)) plan.layout) :
    Numbering template (plans ++ [plan]) := by
  intro number other found
  rcases Nat.lt_trichotomy number plans.length with before | rfl | beyond
  · rw [List.getElem?_append_left before] at found
    exact numbering number other found
  · rw [List.getElem?_concat_length] at found
    exact Option.some.inj found ▸ next
  · rw [List.getElem?_eq_none (by simpa using beyond)] at found
    cases found

theorem nodup (numbering : Numbering template plans) (few : plans.length < 2 ^ 32) :
    (plans.map Plan.location).Nodup := by
  rw [List.Nodup, List.pairwise_map, List.pairwise_iff_getElem]
  intro first second firstBound secondBound earlier same
  rw [numbering first _ (List.getElem?_eq_getElem firstBound),
    numbering second _ (List.getElem?_eq_getElem secondBound)] at same
  have numbers := congrArg UInt32.toNat (OutputPath.eq_of_text_eq same).2.1
  rw [UInt32.toNat_ofNat', UInt32.toNat_ofNat'] at numbers
  omega

end Numbering

structure Named (config : Config) (recorder : Recorder) (transcript : List Exchange) : Prop where
  attempts : Recorder.Attempts config recorder (transcript.map Exchange.request)
  numbering : Numbering config.outputTemplate (plansOf transcript)
  settled : (transcript.filterMap Exchange.location?).length +
    transcript.countP Exchange.failsBuild = (plansOf transcript).length
  live : ∀ session ∈ recorder.session,
    session.location =
        OutputPath.text config.outputTemplate recorder.counter session.layout ∧
      (transcript.filterMap Exchange.location?).getLast? = some session.location

namespace Named

variable {σ : Type} [Engine σ] {config : Config} {recorder after : Recorder}
  {transcript : List Exchange}

theorem counted (named : Named config recorder transcript) :
    recorder.counter = .ofNat (plansOf transcript).length := by
  rw [named.attempts.counted, plansOf_length]

theorem quiet (named : Named config recorder transcript) (engine : σ) {requests : List Request}
    (unbuilt : ∀ request ∈ requests, request.isBuild = false)
    (counter : after.counter = recorder.counter)
    (live : ∀ session ∈ after.session, ∃ old ∈ recorder.session,
      session.location = old.location ∧ session.layout = old.layout) :
    Named config after (transcript ++ Engine.exchanges engine requests) := by
  obtain ⟨unplanned, unnamed⟩ := Engine.unnamed_of_quiet engine unbuilt
  have failed := Engine.exchanges_builds engine requests
  rw [unplanned, unnamed] at failed
  refine ⟨?_, ?_, ?_, ?_⟩
  · rw [List.map_append, Engine.exchanges_requests]
    exact named.attempts.quiet counter unbuilt
  · rw [plansOf_append, unplanned, List.append_nil]
    exact named.numbering
  · have settled := named.settled
    rw [plansOf_append, unplanned, List.filterMap_append, unnamed, List.countP_append]
    simp only [List.length_nil, Nat.zero_add] at failed
    simpa [failed] using settled
  · intro session member
    obtain ⟨old, oldMember, location, layout⟩ := live session member
    obtain ⟨text, last⟩ := named.live old oldMember
    rw [List.filterMap_append, unnamed, List.append_nil, location, layout, counter]
    exact ⟨text, last⟩

theorem build (named : Named config recorder transcript) {plan : Plan}
    (location : plan.location =
      OutputPath.text config.outputTemplate (recorder.counter + 1) plan.layout)
    (idle : after.session = none) (counter : after.counter = recorder.counter + 1)
    (result : Except SinkError GraphId)
    (attempts : Recorder.Attempts config (after.launched plan result)
      (transcript.map Exchange.request ++ [.build plan])) :
    Named config (after.launched plan result) (transcript ++ [⟨.build plan, .built result⟩]) := by
  have next : recorder.counter + 1 = .ofNat ((plansOf transcript).length + 1) := by
    rw [named.counted, UInt32.ofNat_add]
    rfl
  have settled := named.settled
  refine ⟨by rwa [List.map_append], ?_, ?_, ?_⟩
  · rw [plansOf_append]
    exact named.numbering.concat (by rw [location, next])
  · rw [plansOf_append, List.length_append, ← settled, List.filterMap_append, List.countP_append,
      List.length_append]
    cases result with
    | error fault => exact (Nat.add_assoc ..).symm
    | ok graph => exact Nat.add_right_comm ..
  · intro session live
    cases result with
    | error fault =>
        rw [Recorder.launched, idle] at live
        cases live
    | ok graph =>
        obtain rfl := Option.some.inj (Option.mem_def.mp live)
        refine ⟨?_, ?_⟩
        · rw [Recorder.launched_counter, counter]
          exact location
        · rw [List.filterMap_append]
          exact List.getLast?_concat

theorem move {move : Move} (named : Named recorder.config recorder transcript) (engine : σ)
    (admitted : recorder.Admits move) :
    Named recorder.config (move.outcome engine recorder)
      (transcript ++ Engine.exchanges engine (move.requests recorder)) := by
  have attempts := named.attempts.move engine admitted
  cases admitted with
  | rest video audio matching =>
      exact named.quiet engine (by simp [Move.requests]) rfl
        (fun session member => ⟨session, member, rfl, rfl⟩)
  | feed session timeline buffers live =>
      refine named.quiet engine ?_ rfl ?_
      · intro request member
        obtain ⟨entry, -, rfl⟩ := List.mem_map.mp member
        rfl
      · intro fed member
        obtain rfl := Option.some.inj (Option.mem_def.mp member)
        exact ⟨session, live, rfl, rfl⟩
  | close video audio =>
      exact named.quiet engine recorder.closing_isBuild recorder.closed_counter
        (by simp [Move.outcome, Recorder.withCodecs])
  | renew video audio active differs =>
      -- The new codecs change nothing in how the old graph is closed, and closing takes no number.
      have closed : Named recorder.config recorder.closed
          (transcript ++ Engine.exchanges engine recorder.closing) :=
        named.quiet engine recorder.closing_isBuild recorder.closed_counter (by simp)
      rw [Move.requests, Engine.exchanges_append, ← List.append_assoc]
      refine closed.build ?_ ?_ ?_ _ ?_
      · rw [recorder.closed_counter]
        rfl
      · simp [Recorder.attempting]
      · rw [recorder.closed_counter]
        rfl
      · rw [List.map_append, Engine.exchanges_requests, List.append_assoc]
        exact attempts

end Named

theorem Recorder.Admits.attempt {recorder : Recorder} {move : Move}
    (admitted : recorder.Admits move) :
    ∃ attempt : Option Plan, (move.requests recorder).filterMap Request.plan? = attempt.toList := by
  have closing : recorder.closing.filterMap Request.plan? = [] :=
    unplanned recorder.closing_isBuild
  cases admitted with
  | rest video audio matching => exact ⟨none, rfl⟩
  | feed session timeline buffers live =>
      refine ⟨none, unplanned ?_⟩
      intro request member
      obtain ⟨entry, -, rfl⟩ := List.mem_map.mp member
      rfl
  | close video audio => exact ⟨none, closing⟩
  | renew video audio active differs =>
      refine ⟨some (recorder.withCodecs video audio).planned, ?_⟩
      rw [Move.requests, List.filterMap_append, closing]
      rfl

namespace DryRun

def attempts (config : Config) (steps : List (Step Owned.Operation)) : List Plan :=
  plansOf (transcript config steps)

theorem run_named (config : Config) (steps : List (Step Owned.Operation)) :
    Named config.effective (run (fresh config) steps).2.studio.recorder
      (transcript config steps) := by
  refine (tracedRun_invariant (fun recorder _ transcript =>
    Named config.effective recorder transcript) ?_ ?_ ?_).2
  · exact ⟨⟨rfl, nofun⟩, nofun, rfl, nofun⟩
  · intro step member recorder dry transcript named
    exact named
  · intro recorder dry transcript configured move admitted named
    rw [← configured] at named ⊢
    exact named.move dry admitted

theorem locations_eq {memory : MemoryEngine} {transcript : List Exchange}
    (events : memory.events.toList = transcript.filterMap Exchange.event?) :
    memory.locations = transcript.filterMap Exchange.location? := by
  rw [MemoryEngine.locations, events, List.filterMap_filterMap]
  apply List.filterMap_congr
  intro exchange member
  obtain ⟨request, answer⟩ := exchange
  cases request with
  | build plan => rcases answer with (_ | _) | _ | _ | _ <;> rfl
  | push graph endpoint buffer => rcases answer with _ | (_ | _) | _ | _ <;> rfl
  | endOfStream graph endpoint => rcases answer with _ | (_ | _) | _ | _ <;> rfl
  | awaitCompletion graph timeout => cases answer <;> rfl
  | halt graph => rfl
  | release graph => rfl

theorem attempts_concat (config : Config) (steps : List (Step Owned.Operation))
    (step : Step Owned.Operation) : ∃ attempt : Option Plan,
      attempts config (steps ++ [step]) = attempts config steps ++ attempt.toList := by
  have sound : (tracedRun config steps).studio.recorder.Sound :=
    (shadow_run config steps).recorder ▸ run_sound config steps
  have stepped : tracedRun config (steps ++ [step]) = (tracedRun config steps).proceed step :=
    List.foldl_concat ..
  simp only [attempts, transcript, stepped]
  cases (tracedRun config steps).proceed_turn sound step with
  | scripted _ script recorder engine held =>
      refine ⟨none, ?_⟩
      rw [engine, Option.toList_none, List.append_nil]
      rfl
  | gone operation released same =>
      refine ⟨none, ?_⟩
      rw [same, Option.toList_none, List.append_nil]
  | moved operation holding follows held =>
      obtain ⟨attempt, asked⟩ := (operation.admitted sound).attempt
      refine ⟨attempt, ?_⟩
      rw [follows.engine, (Engine.afterAll_traced _ _).2, plansOf_append, Engine.plansOf_exchanges,
        asked]

theorem attempts_monotone (config : Config) {earlier steps : List (Step Owned.Operation)}
    (before : earlier <+: steps) : attempts config earlier <+: attempts config steps := by
  apply isPrefix_of_concat _ before
  intro steps step
  obtain ⟨attempt, added⟩ := attempts_concat config steps step
  rw [added]
  exact List.prefix_append _ _

theorem attempts_step (config : Config) (steps : List (Step Owned.Operation))
    (step : Step Owned.Operation) : ∃ attempt : Option Plan,
      attempts config (steps ++ [step]) = attempts config steps ++ attempt.toList ∧
      ∀ plan ∈ attempt, plan.location = OutputPath.text config.outputTemplate
        (run (fresh config) (steps ++ [step])).2.studio.recorder.counter plan.layout := by
  obtain ⟨attempt, added⟩ := attempts_concat config steps step
  refine ⟨attempt, added, ?_⟩
  rintro plan rfl
  have named := run_named config (steps ++ [step])
  have counted : (run (fresh config) (steps ++ [step])).2.studio.recorder.counter =
      .ofNat ((attempts config steps).length + 1) := by
    have length : (plansOf (transcript config (steps ++ [step]))).length =
        (attempts config steps).length + 1 := congrArg List.length added |>.trans (by simp)
    rw [named.counted, length]
  have last : (attempts config (steps ++ [step]))[(attempts config steps).length]? =
      some plan := by
    rw [added]
    exact List.getElem?_concat_length
  rw [counted, ← config.effective_outputTemplate]
  exact named.numbering _ plan last

/-- Attempts to build are numbered from one, failed ones too, and no two of them name one file. -/
theorem locations_are_fresh (config : Config) (steps : List (Step Owned.Operation))
    (few : (attempts config steps).length < 2 ^ 32) :
    let last := (run (fresh config) steps).2
    let recorder := last.studio.recorder
    let memory := memoryEngine last
    (∀ (number : Nat) (plan : Plan), (attempts config steps)[number]? = some plan →
      plan.location =
        OutputPath.text config.outputTemplate (.ofNat (number + 1)) plan.layout) ∧
      (∀ earlier, earlier <+: steps → attempts config earlier <+: attempts config steps ∧
        (run (fresh config) earlier).2.studio.recorder.counter.toNat =
          (attempts config earlier).length) ∧
      (∀ earlier step, ∃ attempt : Option Plan,
        attempts config (earlier ++ [step]) = attempts config earlier ++ attempt.toList ∧
        ∀ plan ∈ attempt, plan.location = OutputPath.text config.outputTemplate
          (run (fresh config) (earlier ++ [step])).2.studio.recorder.counter plan.layout) ∧
      memory.locations.length + (transcript config steps).countP Exchange.failsBuild =
        (attempts config steps).length ∧
      ((attempts config steps).map Plan.location).Nodup ∧ memory.locations.Nodup ∧
      ∀ session ∈ recorder.session,
        recorder.outputPath = memory.locations.getLast? ∧
        recorder.outputPath =
          some (OutputPath.text config.outputTemplate recorder.counter session.layout) := by
  intro last recorder memory
  have named := run_named config steps
  have locations : memory.locations = (transcript config steps).filterMap Exchange.location? :=
    locations_eq (Told.run config steps).events
  have distinct := named.numbering.nodup few
  have template := config.effective_outputTemplate
  refine ⟨template ▸ named.numbering, ?_, attempts_step config, locations ▸ named.settled, distinct,
    ?_, ?_⟩
  · intro earlier before
    have shorter := attempts_monotone config before
    refine ⟨shorter, ?_⟩
    rw [(run_named config earlier).counted]
    exact UInt32.toNat_ofNat_of_lt' (shorter.length_le.trans_lt few)
  · rw [locations]
    exact distinct.sublist (locations_sublist _)
  · intro session live
    obtain ⟨text, built⟩ := named.live session live
    have path : recorder.outputPath = some session.location := by
      rw [Recorder.outputPath, Option.mem_def.mp live]
      rfl
    rw [path, locations, built, ← template, text]
    exact ⟨rfl, rfl⟩

theorem locations_are_fresh_after_failed_build :
    let config : Config := { outputTemplate := "take.1" }
    let steps : List (Step Owned.Operation) :=
      [.schedule .build (some (.engine "busy")), .operate (.perform (.chooseVideo false)),
        .operate (.perform (.chooseVideo true)), .operate (.perform (.chooseAudio .alac)),
        .operate (.perform .stop)]
    (attempts config steps).length < 2 ^ 32 ∧
      (memoryEngine (run (fresh config) steps).2).locations.Nodup := by
  intro config steps
  have few : (attempts config steps).length < 2 ^ 32 := by decide +kernel
  obtain ⟨-, -, -, -, -, fresh, -⟩ := locations_are_fresh config steps few
  exact ⟨few, fresh⟩

end DryRun
end StreamRecorder
