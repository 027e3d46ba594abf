import StreamRecorder.Proofs.Lifecycle

/-!
# Handles on one recorder

A `Roster` counts handles without looking at the recorder behind them, and says what its owner would
be told in place of what comes through them.
-/

namespace StreamRecorder

structure Roster where
  made : Nat := 1
  present : Finset Nat := {0}

namespace Roster

def after (roster : Roster) : Shared.Operation → Roster
  | .call _ _ => roster
  | .clone handle =>
      if handle ∈ roster.present then
        { made := roster.made + 1, present := insert roster.made roster.present }
      else roster
  | .drop handle | .destroy handle => { roster with present := roster.present.erase handle }

/-- What the owner of a recorder tells it in place of a call. -/
def inPlaceOf : Call → Command
  | .chooseAudio compressionType => .chooseAudio (AudioCodec.ofCompressionType compressionType)
  | .chooseVideo hevc => .chooseVideo hevc
  | .pushVideo data timestamp memory => .pushVideo data timestamp memory
  | .pushAudio data timestamp memory => .pushAudio data timestamp memory
  | .stop => .stop

def relayed (roster : Roster) : Shared.Operation → List Owned.Operation
  | .call handle call => if handle ∈ roster.present then [.perform (inPlaceOf call)] else []
  | .clone _ => []
  | .drop handle => if roster.present = {handle} then [.drop] else []
  | .destroy handle =>
      if roster.present = {handle} then [.perform .stop, .drop]
      else if handle ∈ roster.present then [.perform .stop]
      else []

theorem command_eq (call : Call) : call.command = inPlaceOf call := by
  cases call <;> rfl

theorem after_of_absent {roster : Roster} {operation : Shared.Operation}
    (absent : operation.handle ∉ roster.present) : roster.after operation = roster := by
  cases operation with
  | call handle call => rfl
  | clone handle => exact if_neg absent
  | drop handle => exact congrArg (Roster.mk roster.made) (Finset.erase_eq_of_notMem absent)
  | destroy handle => exact congrArg (Roster.mk roster.made) (Finset.erase_eq_of_notMem absent)

theorem relayed_of_absent {roster : Roster} {operation : Shared.Operation}
    (absent : operation.handle ∉ roster.present) : roster.relayed operation = [] := by
  have other : roster.present ≠ {operation.handle} := by
    intro single
    exact absent (single ▸ Finset.mem_singleton_self _)
  cases operation with
  | call handle call => exact if_neg absent
  | clone handle => rfl
  | drop handle => exact if_neg other
  | destroy handle => exact (if_neg other).trans (if_neg absent)

/-! ## Steps -/

def afterStep (roster : Roster) : DryRun.Step Shared.Operation → Roster
  | .operate operation => roster.after operation
  | .schedule _ _ | .refuseNextBuild | .setCompletion _ => roster

def relayedStep (roster : Roster) :
    DryRun.Step Shared.Operation → List (DryRun.Step Owned.Operation)
  | .operate operation => (roster.relayed operation).map .operate
  | .schedule site entry => [.schedule site entry]
  | .refuseNextBuild => [.refuseNextBuild]
  | .setCompletion completion => [.setCompletion completion]

def afterAll (roster : Roster) (steps : List (DryRun.Step Shared.Operation)) : Roster :=
  steps.foldl afterStep roster

def relayedAll (roster : Roster) :
    List (DryRun.Step Shared.Operation) → List (DryRun.Step Owned.Operation)
  | [] => []
  | step :: steps => roster.relayedStep step ++ (roster.afterStep step).relayedAll steps

theorem relayedAll_append (roster : Roster) (first rest : List (DryRun.Step Shared.Operation)) :
    roster.relayedAll (first ++ rest) =
      roster.relayedAll first ++ (roster.afterAll first).relayedAll rest := by
  induction first generalizing roster with
  | nil => rfl
  | cons step first ih =>
      rw [List.cons_append, relayedAll, relayedAll, ih, List.append_assoc]
      rfl

end Roster

/-! ## The handles of a recorder -/

namespace Shared

variable {σ : Type} (shared : Shared σ)

theorem isAlive_iff : shared.isAlive = true ↔ ∃ handle, shared.hasHandle handle = true := by
  simp only [isAlive, hasHandle, List.any_eq_true, List.getD_eq_getElem?_getD, id_eq]
  constructor
  · rintro ⟨_, member, rfl⟩
    obtain ⟨handle, found⟩ := List.mem_iff_getElem?.mp member
    exact ⟨handle, by rw [found]; rfl⟩
  · rintro ⟨handle, found⟩
    cases kept : shared.handles[handle]? with
    | none => simp [kept] at found
    | some present =>
        rw [kept] at found
        exact ⟨present, List.mem_of_getElem? kept, found⟩

theorem getD_append_true (handles : List Bool) (handle : Nat) :
    (handles ++ [true]).getD handle false = true ↔
      handle = handles.length ∨ handles.getD handle false = true := by
  simp only [List.getD_eq_getElem?_getD]
  rcases Nat.lt_trichotomy handle handles.length with before | rfl | beyond
  · rw [List.getElem?_append_left before]
    simp [Nat.ne_of_lt before]
  · simp
  · rw [List.getElem?_eq_none (by simp; omega), List.getElem?_eq_none (by omega)]
    simp [Nat.ne_of_gt beyond]

theorem getD_set_false (handles : List Bool) (gone handle : Nat) :
    (handles.set gone false).getD handle false = true ↔
      handle ≠ gone ∧ handles.getD handle false = true := by
  simp only [List.getD_eq_getElem?_getD, List.getElem?_set]
  by_cases same : gone = handle
  · subst same
    by_cases made : gone < handles.length <;> simp [made]
  · simp [same, Ne.symm same]

end Shared

namespace Roster

variable {σ : Type} {roster : Roster} {shared : Shared σ} {owned : Owned σ}

structure Stands (roster : Roster) (shared : Shared σ) (owned : Owned σ) : Prop where
  made : shared.handles.length = roster.made
  present : ∀ handle, shared.hasHandle handle = true ↔ handle ∈ roster.present
  studio : shared.studio = owned.studio
  held : owned.held = true ↔ roster.present.Nonempty

theorem Stands.isAlive (stands : roster.Stands shared owned) :
    shared.isAlive = true ↔ roster.present.Nonempty := by
  rw [shared.isAlive_iff]
  exact exists_congr stands.present

theorem Stands.recorder? (stands : roster.Stands shared owned) :
    shared.recorder? = owned.recorder? := by
  have alike : shared.isAlive = owned.held :=
    Bool.eq_iff_iff.mpr (stands.isAlive.trans stands.held.symm)
  rw [Shared.recorder?, Owned.recorder?, alike, stands.studio]

theorem Stands.hasHandle_eq_false (stands : roster.Stands shared owned) {handle : Nat}
    (absent : handle ∉ roster.present) : shared.hasHandle handle = false := by
  rw [← Bool.not_eq_true, stands.present]
  exact absent

variable [Engine σ]

theorem Stands.perform (stands : roster.Stands shared owned) {handle : Nat}
    (there : handle ∈ roster.present) (command : Command) :
    roster.Stands { shared with studio := shared.studio.perform command }
      (owned.operate (.perform command)) := by
  have holding : owned.held = true := stands.held.mpr ⟨handle, there⟩
  have operated : owned.operate (.perform command) =
      { owned with studio := owned.studio.perform command } := by
    simp [Owned.operate, Owned.step?, holding]
  rw [operated, stands.studio]
  exact ⟨stands.made, stands.present, rfl, stands.held⟩

theorem Stands.drop (stands : roster.Stands shared owned) {handle : Nat}
    (there : handle ∈ roster.present) :
    Stands { roster with present := roster.present.erase handle } (shared.drop handle)
      ((if roster.present = {handle} then [.drop] else []).foldl Owned.operate owned) := by
  let rest : Shared σ := { shared with handles := shared.handles.set handle false }
  have made : rest.handles.length = roster.made := List.length_set.trans stands.made
  have present (other : Nat) : rest.hasHandle other = true ↔ other ∈ roster.present.erase handle := by
    rw [Finset.mem_erase, ← stands.present]
    exact Shared.getD_set_false shared.handles handle other
  have alive : rest.isAlive = true ↔ (roster.present.erase handle).Nonempty := by
    rw [rest.isAlive_iff]
    exact exists_congr present
  by_cases last : roster.present = {handle}
  · have none : roster.present.erase handle = ∅ := by rw [last, Finset.erase_singleton]
    have dead : rest.isAlive = false := by simpa [none] using alive
    have holding : owned.held = true := stands.held.mpr ⟨handle, there⟩
    have dropped : shared.drop handle = { rest with studio := rest.studio.teardown } := by
      rw [Shared.drop, if_neg (by simpa [rest] using dead)]
    rw [if_pos last, dropped]
    refine ⟨made, present, ?_, ?_⟩
    · simp [rest, stands.studio, Owned.operate, Owned.step?, holding, Owned.drop]
    · simp [none, Owned.operate, Owned.step?, holding, Owned.drop]
  · have others : (roster.present.erase handle).Nonempty := by
      rw [Finset.nonempty_iff_ne_empty, ne_eq, Finset.erase_eq_empty_iff]
      rintro (empty | single)
      · rw [empty] at there
        cases there
      · exact last single
    have dropped : shared.drop handle = rest := by
      rw [Shared.drop, if_pos (alive.mpr others)]
    rw [if_neg last, dropped]
    exact ⟨made, present, stands.studio, by simpa [others] using stands.held.mpr ⟨handle, there⟩⟩

theorem Stands.operate (stands : roster.Stands shared owned) (operation : Shared.Operation) :
    (roster.after operation).Stands ((shared.step? operation).getD shared)
      ((roster.relayed operation).foldl Owned.operate owned) := by
  by_cases there : operation.handle ∈ roster.present
  · have stepped : (shared.step? operation).getD shared = shared.step operation := by
      rw [Shared.step?, if_pos ((stands.present _).mpr there), Option.getD_some]
    rw [stepped]
    cases operation with
    | call handle call =>
        change handle ∈ roster.present at there
        simp only [relayed, if_pos there, List.foldl_cons, List.foldl_nil, ← command_eq]
        exact stands.perform there call.command
    | clone handle =>
        change handle ∈ roster.present at there
        simp only [after, if_pos there, relayed, List.foldl_nil]
        refine ⟨?_, ?_, stands.studio, ?_⟩
        · simp [Shared.step, stands.made]
        · intro other
          rw [Finset.mem_insert, ← stands.made, ← stands.present]
          exact Shared.getD_append_true shared.handles other
        · simpa using stands.held.mpr ⟨handle, there⟩
    | drop handle => exact stands.drop there
    | destroy handle =>
        change handle ∈ roster.present at there
        have stopped := (stands.perform there .stop).drop there
        simp only [relayed, if_pos there]
        by_cases last : roster.present = {handle}
        · rw [if_pos last] at stopped ⊢
          exact stopped
        · rw [if_neg last] at stopped ⊢
          exact stopped
  · have unstepped : (shared.step? operation).getD shared = shared := by
      rw [Shared.step?, stands.hasHandle_eq_false there]
      rfl
    rw [unstepped, after_of_absent there, relayed_of_absent there]
    exact stands

end Roster

/-! ## Dry runs -/

namespace DryRun

def freshShared (config : Config) : Shared DryEngine :=
  { studio := .ofConfig config { engine := {} } }

theorem freshShared_stands (config : Config) :
    Roster.Stands {} (freshShared config) (fresh config) := by
  refine ⟨rfl, ?_, rfl, by simp [fresh]⟩
  intro handle
  cases handle <;> simp [freshShared, Shared.hasHandle]

theorem advance_stands {roster : Roster} {shared : Shared DryEngine} {owned : Owned DryEngine}
    (stands : roster.Stands shared owned) (step : Step Shared.Operation) :
    (roster.afterStep step).Stands (advance shared step)
      ((roster.relayedStep step).foldl Owned.proceed owned) := by
  cases step with
  | operate operation =>
      rw [Roster.relayedStep, List.foldl_map]
      exact stands.operate operation
  | schedule site entry =>
      exact ⟨stands.made, stands.present,
        congrArg (fun studio : Studio DryEngine =>
          { studio with engine := studio.engine.schedule entry site }) stands.studio, stands.held⟩
  | refuseNextBuild =>
      exact ⟨stands.made, stands.present,
        congrArg (fun studio : Studio DryEngine =>
          { studio with engine := studio.engine.mapEngine MemoryEngine.refuseNextBuild })
          stands.studio, stands.held⟩
  | setCompletion completion =>
      exact ⟨stands.made, stands.present,
        congrArg (fun studio : Studio DryEngine =>
          { studio with engine := studio.engine.mapEngine (MemoryEngine.setCompletion · completion) })
          stands.studio, stands.held⟩

theorem run_stands {roster : Roster} {shared : Shared DryEngine} {owned : Owned DryEngine}
    (stands : roster.Stands shared owned) (steps : List (Step Shared.Operation)) :
    (roster.afterAll steps).Stands (run shared steps).2
      (run owned (roster.relayedAll steps)).2 := by
  -- What is relayed of a step is carried out before what is relayed of the steps behind it.
  induction steps generalizing roster shared owned with
  | nil => exact stands
  | cons step steps ih =>
      have rest := ih (advance_stands stands step)
      rw [run_last] at rest ⊢
      rw [Roster.relayedAll, List.foldl_append]
      exact rest

theorem run_idle_of_gone (config : Config) (steps : List (Step Owned.Operation))
    (gone : (run (fresh config) steps).2.held = false) :
    (run (fresh config) steps).2.studio.recorder.session = none := by
  rw [run_last] at gone ⊢
  refine (List.foldlRecOn (motive := fun owned : Owned DryEngine => owned.studio.recorder.Sound ∧
    (owned.held = false → owned.studio.recorder.session = none)) steps Owned.proceed
    ⟨Recorder.ofConfig_sound config, by simp [fresh]⟩ ?_).2 gone
  intro owned invariant step member
  obtain ⟨sound, idle⟩ := invariant
  have turn := owned.proceed_turn sound step
  refine ⟨turn.sound sound, ?_⟩
  intro released
  cases turn with
  | scripted _ _ recorder engine held =>
      rw [recorder]
      exact idle (held.symm.trans released)
  | gone operation before same =>
      rw [same]
      exact idle before
  | moved operation holding follows held =>
      rw [follows.recorder]
      exact Owned.Operation.outcome_idle _ _ (held.symm.trans released)

/-- What comes through handles is what their recorder is relayed as its owner's operations, and the
recorder goes, with every graph closed once, when the last handle does. -/
theorem handles_relay_to_owner (config : Config) (steps : List (Step Shared.Operation)) :
    let shared := (run (freshShared config) steps).2
    let present := (Roster.afterAll {} steps).present
    (∀ earlier, earlier <+: steps →
      let through := (run (freshShared config) earlier).2
      let relayed := Roster.relayedAll {} earlier
      let owned := (run (fresh config) relayed).2
      relayed <+: Roster.relayedAll {} steps ∧ through.studio = owned.studio ∧
        through.recorder? = owned.recorder? ∧
        (owned.held = true ↔ (Roster.afterAll {} earlier).present.Nonempty)) ∧
      (∀ compressionType : UInt8,
        AudioCodec.ofCompressionType compressionType = .alac ↔ compressionType = 2) ∧
      (∀ operation : Shared.Operation,
        (shared.step? operation).isSome = true ↔ operation.handle ∈ present) ∧
      ∃ lives : List Life, (memoryEngine shared).events.toList = lives.flatMap Life.events ∧
        (∀ life ∈ lives.dropLast, life.ending.isSome) ∧
        (present = ∅ → (∀ life ∈ lives, life.ending.isSome) ∧
          shared.studio.recorder.session = none ∧ (memoryEngine shared).counts.live = 0) := by
  intro shared present
  have stands := run_stands (freshShared_stands config) steps
  let relayed := Roster.relayedAll {} steps
  have told := Told.run config relayed
  obtain ⟨closed, opened, recounts⟩ := told.recounts
  refine ⟨?_, AudioCodec.ofCompressionType_eq_alac_iff, ?_, closed ++ opened.toList, ?_,
    recounts.ended_of_dropLast, ?_⟩
  · rintro earlier ⟨later, rfl⟩
    have before := run_stands (freshShared_stands config) earlier
    rw [Roster.relayedAll_append]
    exact ⟨List.prefix_append _ _, before.studio, before.recorder?, before.held⟩
  · intro operation
    rw [← stands.present, Shared.step?]
    cases shared.hasHandle operation.handle <;> simp
  · have events := told.events.trans (events_of_lives recounts.told)
    rw [← stands.studio] at events
    exact events
  · intro none
    have gone : (run (fresh config) relayed).2.held = false := by
      rw [← Bool.not_eq_true, stands.held]
      simpa using none
    have idle := run_idle_of_gone config relayed gone
    have unopened : opened = Option.none := by simpa [idle] using recounts.opened_isSome
    have live := told.carries.live
    rw [← stands.studio] at idle live
    rw [idle] at live
    refine ⟨?_, idle, live⟩
    intro life member
    rw [unopened, Option.toList_none, List.append_nil] at member
    obtain ⟨ending, present, -⟩ := recounts.ended life member
    exact Option.isSome_of_mem present

end DryRun
end StreamRecorder
