import StreamRecorder.Proofs.Arrivals

namespace StreamRecorder

/-- What is known of a graph that has not been released. -/
structure Standing where
  endpoints : List Endpoint
  ended : List Endpoint := []
  halted : Bool := false

structure Standing.Takes (standing : Standing) (endpoint : Endpoint) : Prop where
  running : standing.halted = false
  present : endpoint ∈ standing.endpoints
  unended : endpoint ∉ standing.ended

abbrev Register := GraphId → Option Standing

namespace Register

def blank : Register := fun _ => none

def only (graph : GraphId) (standing : Standing) : Register :=
  Function.update blank graph (some standing)

def change (register : Register) (graph : GraphId) (f : Standing → Standing) : Register :=
  Function.update register graph ((register graph).map f)

def Permits (register : Register) : Request → Prop
  | .build _ => True
  | .push graph endpoint _ | .endOfStream graph endpoint =>
      ∃ standing ∈ register graph, standing.Takes endpoint
  | .awaitCompletion graph _ | .halt graph =>
      ∃ standing ∈ register graph, standing.halted = false
  | .release graph => (register graph).isSome

def after (register : Register) : Exchange → Register
  | ⟨.build plan, .built (.ok graph)⟩ =>
      Function.update register graph (some { endpoints := plan.endpoints })
  | ⟨.endOfStream graph endpoint, _⟩ =>
      register.change graph fun standing => { standing with ended := endpoint :: standing.ended }
  | ⟨.halt graph, _⟩ => register.change graph fun standing => { standing with halted := true }
  | ⟨.release graph, _⟩ => Function.update register graph none
  | _ => register

def afterAll (register : Register) (exchanged : List Exchange) : Register :=
  exchanged.foldl after register

def Obeyed (register : Register) : List Exchange → Prop
  | [] => True
  | exchange :: rest => register.Permits exchange.request ∧ (register.after exchange).Obeyed rest

structure Leads (register : Register) (exchanged : List Exchange) (last : Register) : Prop where
  obeyed : register.Obeyed exchanged
  reached : register.afterAll exchanged = last

variable {register middle last : Register} {first rest : List Exchange} {graph : GraphId}
  {standing : Standing}

theorem Leads.refl (register : Register) : register.Leads [] register :=
  ⟨trivial, rfl⟩

theorem Leads.cons {exchange : Exchange} (permitted : register.Permits exchange.request)
    (later : (register.after exchange).Leads rest last) :
    register.Leads (exchange :: rest) last :=
  ⟨⟨permitted, later.obeyed⟩, later.reached⟩

theorem Leads.trans (start : register.Leads first middle) (finish : middle.Leads rest last) :
    register.Leads (first ++ rest) last := by
  induction first generalizing register with
  | nil =>
      have same : register = middle := start.reached
      exact same ▸ finish
  | cons exchange first ih =>
      obtain ⟨permitted, obeyed⟩ := start.obeyed
      exact .cons permitted (ih ⟨obeyed, start.reached⟩)

@[simp] theorem only_self (graph : GraphId) (standing : Standing) :
    only graph standing graph = some standing :=
  Function.update_self ..

@[simp] theorem change_only (graph : GraphId) (standing : Standing) (f : Standing → Standing) :
    (only graph standing).change graph f = only graph (f standing) := by
  rw [change, only_self, only, Function.update_idem]
  rfl

@[simp] theorem release_only (graph : GraphId) (standing : Standing) :
    Function.update (only graph standing) graph none = blank := by
  rw [only, Function.update_idem]
  exact Function.update_eq_self graph blank

theorem leads_pushes (pushes : List ((Endpoint × Buffer) × Except SinkError Unit))
    (takes : ∀ entry ∈ pushes.map Prod.fst, standing.Takes entry.1) :
    (only graph standing).Leads (pushes.map (.ofPush graph)) (only graph standing) := by
  induction pushes with
  | nil => exact .refl _
  | cons push pushes ih =>
      have rest := ih fun entry member => takes entry (List.mem_cons_of_mem _ member)
      have fits : standing.Takes push.1.1 := takes _ List.mem_cons_self
      exact .cons ⟨standing, only_self graph standing, fits⟩ rest

theorem leads_streams (graph : GraphId) (streams : List (Endpoint × Except SinkError Unit))
    (distinct : (streams.map Prod.fst).Nodup)
    (takes : ∀ endpoint ∈ streams.map Prod.fst, standing.Takes endpoint) :
    ∃ ended, (only graph standing).Leads
      (streams.map fun entry => ⟨.endOfStream graph entry.1, .accepted entry.2⟩)
      (only graph { standing with ended }) := by
  induction streams generalizing standing with
  | nil => exact ⟨standing.ended, .refl _⟩
  | cons stream streams ih =>
      obtain ⟨fresh, later⟩ := List.nodup_cons.mp distinct
      let next : Standing := { standing with ended := stream.1 :: standing.ended }
      -- No endpoint stands in the list twice, so the rest still takes theirs.
      have still : ∀ endpoint ∈ streams.map Prod.fst, next.Takes endpoint := by
        intro endpoint member
        have earlier := takes endpoint (List.mem_cons_of_mem _ member)
        refine ⟨earlier.running, earlier.present, ?_⟩
        rintro (_ | ⟨_, old⟩)
        · exact fresh member
        · exact earlier.unended old
      obtain ⟨ended, rest⟩ := ih later still
      have fits : standing.Takes stream.1 := takes _ List.mem_cons_self
      refine ⟨ended, .cons ⟨standing, only_self graph standing, fits⟩ ?_⟩
      rw [after, change_only]
      exact rest

theorem leads_ending (ending : Ending) (running : standing.halted = false)
    (fresh : standing.ended = [])
    (complete : ending.streams.map Prod.fst = standing.endpoints)
    (distinct : standing.endpoints.Nodup) :
    (only graph standing).Leads (ending.exchanges graph) blank := by
  have takes : ∀ endpoint ∈ ending.streams.map Prod.fst, standing.Takes endpoint := by
    intro endpoint member
    exact ⟨running, complete ▸ member, by simp [fresh]⟩
  obtain ⟨ended, streams⟩ := leads_streams graph ending.streams (complete ▸ distinct) takes
  let flushed : Standing := { standing with ended }
  have awaited : (only graph flushed).Permits (.awaitCompletion graph ending.timeout) :=
    ⟨flushed, only_self graph flushed, running⟩
  have halted : (only graph flushed).Permits (.halt graph) :=
    ⟨flushed, only_self graph flushed, running⟩
  refine streams.trans (.cons awaited (.cons halted (.cons ?_ ?_)))
  · simp [after, Permits]
  · refine ⟨trivial, ?_⟩
    simp [after, afterAll]

end Register

theorem Layout.nodup_endpoints (layout : Layout) : layout.endpoints.Nodup := by
  unfold endpoints
  cases layout.hasVideo <;> cases layout.hasAudio <;> decide

namespace Register

def ofSession : Option Session → Register
  | none => blank
  | some session => only session.graph { endpoints := session.layout.endpoints }

variable {σ : Type} [Engine σ] {recorder : Recorder} {move : Move}

theorem leads_closing (engine : σ) (recorder : Recorder) :
    (ofSession recorder.session).Leads (Engine.exchanges engine recorder.closing) blank := by
  unfold Recorder.closing
  cases recorder.session with
  | none => exact .refl _
  | some session =>
      obtain ⟨ending, complete, -, same⟩ :=
        Engine.exchanges_closing engine session recorder.config.flushTimeout
      simp only [same]
      exact leads_ending ending rfl rfl complete session.layout.nodup_endpoints

theorem leads_build {before : Recorder} (idle : before.session = none) (planned : Recorder)
    (result : Except SinkError GraphId) :
    blank.Leads [⟨.build planned.planned, .built result⟩]
      (ofSession (before.launched planned.planned result).session) := by
  refine ⟨⟨trivial, trivial⟩, ?_⟩
  -- Nothing else is known then, so the engine may call the graph whatever it likes.
  cases result with
  | error fault =>
      rw [Recorder.launched, idle]
      rfl
  | ok graph =>
      change only graph { endpoints := planned.planned.endpoints } = _
      rw [planned.planned_endpoints]
      rfl

theorem leads_move (engine : σ) (admitted : recorder.Admits move)
    (portioned : move.Portioned recorder) :
    (ofSession recorder.session).Leads (Engine.exchanges engine (move.requests recorder))
      (ofSession (move.outcome engine recorder).session) := by
  cases admitted with
  | rest video audio matching => exact .refl _
  | feed session timeline buffers live =>
      have portion : Portion recorder.config.audioFormat session.layout buffers :=
        portioned session live
      obtain ⟨pushes, listed, same⟩ := Engine.exchanges_pushes engine session.graph buffers
      have takes : ∀ entry ∈ pushes.map Prod.fst,
          Standing.Takes { endpoints := session.layout.endpoints } entry.1 := by
        intro entry member
        rw [listed] at member
        exact ⟨rfl, portion.members entry member, by simp⟩
      rw [live, Recorder.feeding, Move.requests, same]
      exact leads_pushes pushes takes
  | close video audio =>
      have idle : (recorder.closed.withCodecs video audio).session = none := recorder.closed_session
      rw [Move.outcome, idle]
      exact leads_closing engine recorder
  | renew video audio active differs =>
      let chosen := recorder.withCodecs video audio
      have idle : chosen.attempting.session = none := by simp [Recorder.attempting]
      rw [Move.requests, Engine.exchanges_append]
      exact (leads_closing engine recorder).trans (leads_build idle chosen _)

end Register

def Exchange.pushFault? : Exchange → Option SinkError
  | ⟨.push _ _ _, .accepted (.error fault)⟩ => some fault
  | _ => none

theorem Exchange.pushFault?_of_request {exchange : Exchange}
    (other : exchange.request.isPush = false) : exchange.pushFault? = none := by
  obtain ⟨request, answer⟩ := exchange
  cases request with
  | push graph endpoint buffer => cases other
  | build plan => rfl
  | endOfStream graph endpoint => rfl
  | awaitCompletion graph timeout => rfl
  | halt graph => rfl
  | release graph => rfl

theorem Engine.pushFaults_of_requests {σ : Type} [Engine σ] (engine : σ) {requests : List Request}
    (other : ∀ request ∈ requests, request.isPush = false) :
    (exchanges engine requests).filterMap Exchange.pushFault? = [] := by
  rw [List.filterMap_eq_nil_iff]
  intro exchange member
  exact Exchange.pushFault?_of_request (other _ (request_mem member))

namespace DryEngine

variable {dry : DryEngine}

theorem pushFaults_of_portion {session : Session} (carries : dry.engine.Carries (some session))
    (buffers : List (Endpoint × Buffer))
    (members : ∀ entry ∈ buffers, entry.1 ∈ session.layout.endpoints) :
    ∀ fault ∈ (Engine.exchanges dry (buffers.map fun (endpoint, buffer) =>
        .push session.graph endpoint buffer)).filterMap Exchange.pushFault?,
      some fault ∈ dry.pushes := by
  induction buffers generalizing dry with
  | nil => simp
  | cons entry buffers ih =>
      obtain ⟨endpoint, buffer⟩ := entry
      obtain ⟨passage, graphs, counts⟩ := dry.afterAll_pushes session.graph [(endpoint, buffer)]
      have rest := ih ⟨graphs.trans carries.graphs, counts ▸ carries.live, counts ▸ carries.alone⟩
        (fun entry member => members entry (List.mem_cons_of_mem _ member))
      intro fault met
      rw [List.map_cons, Engine.exchanges, List.filterMap_cons] at met
      rcases push_scripted carries (members _ List.mem_cons_self) buffer with
        accepted | ⟨refusal, refused, pending⟩
      · simp only [Engine.serve, accepted, Exchange.pushFault?] at met
        exact passage.pushes.subset (rest fault met)
      · simp only [Engine.serve, refused, Exchange.pushFault?, List.mem_cons] at met
        rcases met with rfl | later
        · exact pending
        · exact passage.pushes.subset (rest fault later)

theorem pushFaults_of_move {recorder : Recorder} {move : Move}
    (carries : dry.engine.Carries recorder.session) (admitted : recorder.Admits move)
    (portioned : move.Portioned recorder) :
    ∀ fault ∈ (Engine.exchanges dry (move.requests recorder)).filterMap Exchange.pushFault?,
      some fault ∈ dry.pushes := by
  have quiet (unfed : move.isFeed = false) :
      ∀ fault ∈ (Engine.exchanges dry (move.requests recorder)).filterMap Exchange.pushFault?,
        some fault ∈ dry.pushes := by
    rw [Engine.pushFaults_of_requests dry (admitted.unpushed unfed)]
    simp
  cases admitted with
  | rest video audio matching => exact quiet rfl
  | feed session timeline buffers live =>
      have portion : Portion recorder.config.audioFormat session.layout buffers :=
        portioned session live
      exact pushFaults_of_portion (live ▸ carries) buffers portion.members
  | close video audio => exact quiet rfl
  | renew video audio active differs => exact quiet rfl

end DryEngine

namespace DryRun

structure Civil (steps : List (Step Owned.Operation)) (recorder : Recorder) (dry : DryEngine)
    (transcript : List Exchange) : Prop where
  leads : Register.blank.Leads transcript (.ofSession recorder.session)
  carries : dry.engine.Carries recorder.session
  pending : ∀ fault, some fault ∈ dry.pushes → .schedule .push (some fault) ∈ steps
  scripted : ∀ fault ∈ transcript.filterMap Exchange.pushFault?,
    .schedule .push (some fault) ∈ steps

theorem Civil.run (config : Config) (steps : List (Step Owned.Operation)) :
    let last := (DryRun.run (fresh config) steps).2
    Civil steps last.studio.recorder last.studio.engine (transcript config steps) := by
  refine (tracedRun_induction (Civil steps) ?_ ?_ ?_).2
  · exact ⟨.refl _, ⟨rfl, rfl, Nat.zero_le 1⟩, nofun, nofun⟩
  · -- A script asks nothing, and the fault that it adds is one of the steps.
    intro step member recorder dry transcript civil
    refine ⟨civil.leads, step.adjust_carries civil.carries, ?_, civil.scripted⟩
    intro fault pending
    rcases step.mem_adjust .push pending with earlier | rfl
    · exact civil.pending fault earlier
    · exact member
  · intro recorder dry transcript configured sound operation civil move
    have admitted := operation.admitted sound
    have portioned := operation.portioned sound
    obtain ⟨passage, kept⟩ := DryEngine.move_carries civil.carries admitted
    refine ⟨civil.leads.trans (Register.leads_move dry admitted portioned), kept, ?_, ?_⟩
    · exact fun fault pending => civil.pending fault (passage.pushes.subset pending)
    · intro fault met
      rw [List.filterMap_append, List.mem_append] at met
      rcases met with earlier | late
      · exact civil.scripted fault earlier
      · exact civil.pending fault
          (DryEngine.pushFaults_of_move civil.carries admitted portioned fault late)

/-- A run keeps the protocol, and whatever it is refused was refused by a script. -/
theorem protocol_is_kept (config : Config) (steps : List (Step Owned.Operation)) :
    Register.blank.Obeyed (transcript config steps) ∧
      (∀ graph endpoint buffer answer,
        ⟨.push graph endpoint buffer, .accepted answer⟩ ∈ transcript config steps →
          answer = .ok () ∨
            ∃ fault, answer = .error fault ∧ .schedule .push (some fault) ∈ steps) ∧
      (∀ graph endpoint answer,
        ⟨.endOfStream graph endpoint, .accepted answer⟩ ∈ transcript config steps →
          answer = .ok () ∨
            ∃ fault, answer = .error fault ∧ .schedule .endOfStream (some fault) ∈ steps) := by
  have civil := Civil.run config steps
  have told := Told.run config steps
  refine ⟨civil.leads.obeyed, ?_, ?_⟩
  · intro graph endpoint buffer answer exchanged
    cases answer with
    | ok done => exact .inl rfl
    | error fault =>
        have met : fault ∈ (transcript config steps).filterMap Exchange.pushFault? :=
          List.mem_filterMap.mpr ⟨_, exchanged, rfl⟩
        exact .inr ⟨fault, rfl, civil.scripted fault met⟩
  · intro graph endpoint answer exchanged
    cases answer with
    | ok done => exact .inl rfl
    | error fault =>
        have met : fault ∈ (transcript config steps).filterMap Exchange.endingFault? :=
          List.mem_filterMap.mpr ⟨_, exchanged, rfl⟩
        exact .inr ⟨fault, rfl, told.scripted fault met⟩

end DryRun
end StreamRecorder
