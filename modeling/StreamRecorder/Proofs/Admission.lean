import StreamRecorder.Proofs.Bookkeeping
import StreamRecorder.Proofs.Naming

namespace StreamRecorder

def Exchange.taken? (endpoint : Endpoint) : Exchange → Option Buffer
  | ⟨.push _ reached buffer, .accepted (.ok ())⟩ => if reached = endpoint then some buffer else none
  | _ => none

theorem Exchange.location?_of_graph? {exchange : Exchange} {id : GraphId}
    (about : exchange.request.graph? = some id) : exchange.location? = none := by
  obtain ⟨request, answer⟩ := exchange
  cases request with
  | build plan => cases about
  | _ => rfl

namespace MemoryEngine

def Act.alters (graph : GraphId) : Act → Bool
  | .ask (.endOfStream id _) | .ask (.release id) => id = graph
  | _ => false

variable {engine after : MemoryEngine} {id : GraphId} {exchange : Exchange}
  {transcript : List Exchange} {held : List GraphId}

/-! ## What is read off the log -/

theorem Deed.taken (deed : Deed engine exchange after) (endpoint : Endpoint) :
    after.pushed endpoint = engine.pushed endpoint ++ (exchange.taken? endpoint).toList := by
  cases deed with
  | denied request fault plain => cases request <;> simp [Exchange.taken?]
  | missed exchange id about absent unheard =>
      obtain ⟨request, answer⟩ := exchange
      cases answer with
      | accepted result => exact absurd rfl (unheard result)
      | _ => cases request <;> simp [Exchange.taken?]
  | pushed graph reached buffer alive present running =>
      by_cases same : reached = endpoint <;>
        simp [MemoryEngine.pushed, note, Exchange.taken?, same]
  | _ => simp [MemoryEngine.pushed, note, withGraph, withEnded, withoutGraph, Exchange.taken?]

theorem Deed.located (deed : Deed engine exchange after) :
    after.locations = engine.locations ++ exchange.location?.toList := by
  cases deed with
  | denied request fault plain => cases request <;> simp [Exchange.location?]
  | missed exchange id about absent unheard =>
      rw [Exchange.location?_of_graph? about, Option.toList_none, List.append_nil]
  | _ => simp [locations, note, withGraph, withEnded, withoutGraph, Exchange.location?]

/-! ## Plans and ends -/

def Closed (log : List Event) : Prop :=
  log.Pairwise fun earlier later => ∀ graph endpoint buffer,
    earlier = .endOfStream graph endpoint → later ≠ .pushed graph endpoint buffer

theorem Closed.concat {log : List Event} (closed : Closed log) {event : Event}
    (admitted : ∀ graph endpoint buffer, event = .pushed graph endpoint buffer →
      .endOfStream graph endpoint ∉ log) : Closed (log ++ [event]) := by
  refine List.pairwise_append.mpr ⟨closed, List.pairwise_singleton _ _, ?_⟩
  rintro earlier member later last graph endpoint buffer rfl
  rw [List.mem_singleton.mp last]
  intro taken
  exact admitted graph endpoint buffer taken member

def BuiltFrom (transcript : List Exchange) (id : GraphId) (plan : Plan) : Prop :=
  ∀ other, ⟨.build other, .built (.ok id)⟩ ∈ transcript ↔ other = plan

/-- What an engine keeps of its graphs is told by its log and by what it was asked. -/
structure Told (engine : MemoryEngine) (transcript : List Exchange) : Prop where
  planned : ∀ graph ∈ engine.graphs, ∃ plan : Plan,
    BuiltFrom transcript graph.id plan ∧ graph.endpoints = plan.endpoints
  finished : ∀ graph ∈ engine.graphs, ∀ endpoint,
    endpoint ∈ graph.finished ↔ .endOfStream graph.id endpoint ∈ engine.log
  known : ∀ plan id, ⟨.build plan, .built (.ok id)⟩ ∈ transcript → id ∈ builtGraphs engine.log
  closed : Closed engine.log

theorem BuiltFrom.concat {plan : Plan} (built : BuiltFrom transcript id plan)
    (another : ∀ other, exchange ≠ ⟨.build other, .built (.ok id)⟩) :
    BuiltFrom (transcript ++ [exchange]) id plan := by
  intro other
  rw [List.mem_append, List.mem_singleton, built other]
  exact or_iff_left (another other).symm

namespace Told

theorem exchanged (told : Told engine transcript) (unbuilt : exchange.location? = none) :
    Told engine (transcript ++ [exchange]) := by
  have another (other : Plan) (id : GraphId) : exchange ≠ ⟨.build other, .built (.ok id)⟩ := by
    rintro rfl
    cases unbuilt
  refine { told with planned := ?_, known := ?_ }
  · intro graph alive
    obtain ⟨plan, built, endpoints⟩ := told.planned graph alive
    exact ⟨plan, built.concat fun other => another other graph.id, endpoints⟩
  · intro plan id member
    rcases List.mem_append.mp member with early | last
    · exact told.known plan id early
    · exact absurd (List.mem_singleton.mp last).symm (another plan id)

theorem noted (told : Told engine transcript) {event : Event}
    (unending : ∀ graph endpoint, event ≠ .endOfStream graph endpoint)
    (admitted : ∀ graph endpoint buffer, event = .pushed graph endpoint buffer →
      .endOfStream graph endpoint ∉ engine.log) : Told (engine.note event) transcript where
  planned := told.planned
  finished graph alive endpoint := by
    rw [told.finished graph alive, log_note, List.mem_append, List.mem_singleton]
    exact (or_iff_left (unending graph.id endpoint).symm).symm
  known plan id member := by
    rw [log_note, builtGraphs, List.filterMap_append]
    exact List.mem_append_left _ (told.known plan id member)
  closed := log_note engine event ▸ told.closed.concat admitted

theorem withEnded (told : Told engine transcript) (id : GraphId) (endpoint : Endpoint) :
    Told ((engine.withEnded id endpoint).note (.endOfStream id endpoint)) transcript where
  planned graph alive := by
    obtain ⟨old, was, rfl⟩ := List.mem_map.mp alive
    split <;> exact told.planned old was
  finished graph alive reached := by
    obtain ⟨old, was, rfl⟩ := List.mem_map.mp alive
    rw [log_note, List.mem_append, List.mem_singleton]
    have before := told.finished old was reached
    split
    · rename_i same
      simp only [LiveGraph.finish, List.mem_insert_iff, before, same, Event.endOfStream.injEq,
        true_and]
      exact or_comm
    · rename_i other
      rw [before]
      exact (or_iff_left fun same => other (Event.endOfStream.inj same).1).symm
  known plan other member := by
    rw [log_note, builtGraphs, List.filterMap_append]
    exact List.mem_append_left _ (told.known plan other member)
  closed := by
    rw [log_note]
    exact told.closed.concat (by simp)

theorem withoutGraph (told : Told engine transcript) (id : GraphId) :
    Told (engine.withoutGraph id) transcript where
  planned graph alive := told.planned graph (List.mem_of_mem_filter alive)
  finished graph alive := told.finished graph (List.mem_of_mem_filter alive)
  known := told.known
  closed := told.closed

theorem built (told : Told engine transcript) (kept : Kept engine held)
    (fresh : engine.counts.built + 1 ∉ builtGraphs engine.log) (plan : Plan) :
    Told ((engine.withGraph plan).note
        (.built (engine.counts.built + 1) plan.location plan.layout))
      (transcript ++ [⟨.build plan, .built (.ok (engine.counts.built + 1))⟩]) where
  planned graph alive := by
    rcases List.mem_append.mp alive with old | new
    · obtain ⟨before, built, endpoints⟩ := told.planned graph old
      refine ⟨before, built.concat ?_, endpoints⟩
      intro other same
      have clash := (Answer.built.inj (Exchange.mk.inj same).2)
      have listed := told.known before graph.id ((built before).mpr rfl)
      rw [← Except.ok.inj clash] at listed
      exact fresh listed
    · obtain rfl := List.mem_singleton.mp new
      refine ⟨plan, fun other => ?_, rfl⟩
      rw [List.mem_append, List.mem_singleton]
      constructor
      · rintro (early | last)
        · exact absurd (told.known other _ early) fresh
        · cases last
          rfl
      · rintro rfl
        exact .inr rfl
  finished graph alive endpoint := by
    rw [log_note, List.mem_append, List.mem_singleton]
    rcases List.mem_append.mp alive with old | new
    · rw [told.finished graph old endpoint]
      exact (or_iff_left (by simp)).symm
    · obtain rfl := List.mem_singleton.mp new
      -- Nothing was told of this number before, and so no end.
      have silent := (kept.chronicles (engine.counts.built + 1)).untold fresh
      have none : .endOfStream (engine.counts.built + 1) endpoint ∉ engine.log := fun member =>
        List.filter_eq_nil_iff.mp silent _ member (by simp [Event.graph])
      simp only [List.not_mem_nil, false_iff]
      rintro (early | last)
      · exact none early
      · cases last
  known other id member := by
    rw [log_note, builtGraphs, List.filterMap_append]
    rcases List.mem_append.mp member with early | last
    · exact List.mem_append_left _ (told.known other id early)
    · cases List.mem_singleton.mp last
      exact List.mem_append_right _ (by simp [Event.builtGraph?])
  closed := by
    rw [log_note]
    exact told.closed.concat (by simp)

theorem deed (told : Told engine transcript) (kept : Kept engine held)
    (numbered : engine.Numbered) (few : after.log.countP Event.isBuilt < UInt32.size)
    (deed : Deed engine exchange after) : Told after (transcript ++ [exchange]) := by
  cases deed with
  | built plan willing =>
      apply told.built kept
      apply numbered.fresh
      rwa [log_note, List.countP_append] at few
  | refused plan refusing => exact { told.exchanged rfl with }
  | pushed graph endpoint buffer alive present running =>
      apply (told.exchanged rfl).noted (by simp)
      rintro _ _ _ ⟨⟩
      rwa [told.finished graph alive] at running
  | ended graph endpoint alive present =>
      exact (told.exchanged rfl).withEnded graph.id endpoint
  | waited id timeout alive => exact (told.exchanged rfl).noted (by simp) (by simp)
  | halted id alive => exact (told.exchanged rfl).noted (by simp) (by simp)
  | released id alive =>
      exact ((told.exchanged rfl).withoutGraph id).noted (by simp) (by simp)
  | denied request fault plain =>
      apply told.exchanged
      cases request <;> rfl
  | missed exchange id about absent unheard =>
      exact told.exchanged (Exchange.location?_of_graph? about)

end Told

theorem afterActs_told (acts : List Act)
    (few : (afterActs acts).engine.log.countP Event.isBuilt < UInt32.size) :
    Told (afterActs acts).engine (afterActs acts).transcript.toList := by
  refine afterActs_induction (motive := fun engine transcript =>
    engine.log.countP Event.isBuilt < UInt32.size → Told engine transcript) ?_ ?_ ?_ acts few
  · exact fun _ => ⟨by simp, by simp, by simp, .nil⟩
  · intro engine transcript refuses completion told few
    exact { told few with }
  · intro acts exchange after deed told few
    have fewer := deed.grows.sublist.countP_le.trans_lt few
    exact (told fewer).deed (afterActs_kept acts fewer) (afterActs_numbered acts) few deed

theorem afterActs_taken (acts : List Act) (endpoint : Endpoint) :
    (afterActs acts).engine.pushed endpoint =
      (afterActs acts).transcript.toList.filterMap (Exchange.taken? endpoint) := by
  refine afterActs_induction (motive := fun engine transcript =>
    engine.pushed endpoint = transcript.filterMap (Exchange.taken? endpoint)) ?_ ?_ ?_ acts
  · rfl
  · exact fun _ _ _ _ taken => taken
  · intro acts exchange after deed taken
    rw [deed.taken, taken, List.filterMap_append, List.filterMap_cons]
    cases exchange.taken? endpoint <;> rfl

theorem afterActs_located (acts : List Act) : (afterActs acts).engine.locations =
    (afterActs acts).transcript.toList.filterMap Exchange.location? := by
  refine afterActs_induction (motive := fun engine transcript =>
    engine.locations = transcript.filterMap Exchange.location?) ?_ ?_ ?_ acts
  · rfl
  · exact fun _ _ _ _ located => located
  · intro acts exchange after deed located
    rw [deed.located, located, List.filterMap_append, List.filterMap_cons]
    cases exchange.location? <;> rfl

/-! ## What others do -/

theorem graph?_withGraph {graph : GraphId} (alive : graph ∈ engine.ids) (plan : Plan) :
    (engine.withGraph plan).graph? graph = engine.graph? graph := by
  obtain ⟨mine, found⟩ := Option.isSome_iff_exists.mp ((isLive_iff engine graph).mpr alive)
  rw [found]
  simp only [graph?, withGraph, List.find?_append] at found ⊢
  rw [found, Option.some_or]

theorem graph?_withEnded {graph : GraphId} (other : id ≠ graph) (endpoint : Endpoint) :
    (engine.withEnded id endpoint).graph? graph = engine.graph? graph := by
  simp only [graph?, withEnded]
  induction engine.graphs with
  | nil => rfl
  | cons entry graphs ih =>
      rw [List.map_cons, List.find?_cons, List.find?_cons, ih]
      by_cases ended : entry.id = id
      · simp [ended, LiveGraph.finish, other]
      · simp [ended]

theorem graph?_withoutGraph {graph : GraphId} (other : id ≠ graph) :
    (engine.withoutGraph id).graph? graph = engine.graph? graph := by
  simp only [graph?, withoutGraph, List.find?_filter]
  congr 1
  funext entry
  by_cases same : entry.id = graph
  · simp [same, other.symm]
  · simp [same]

theorem Deed.graph? {graph : GraphId} (deed : Deed engine exchange after)
    (alive : graph ∈ engine.ids) (other : (Act.ask exchange.request).alters graph = false) :
    after.graph? graph = engine.graph? graph := by
  cases deed with
  | built plan willing => exact graph?_withGraph alive plan
  | ended ended endpoint =>
      apply graph?_withEnded
      simpa [Act.alters] using other
  | released id =>
      apply graph?_withoutGraph
      simpa [Act.alters] using other
  | _ => rfl

theorem afterActs_graph? {graph : GraphId} {acts : List Act}
    (alive : graph ∈ (afterActs acts).engine.ids) {later : List Act}
    (others : ∀ last ∈ later, last.alters graph = false) :
    (afterActs (acts ++ later)).engine.graph? graph = (afterActs acts).engine.graph? graph := by
  induction later using List.reverseRecOn with
  | nil => rw [List.append_nil]
  | append_singleton later last ih =>
      have before := ih fun act member => others act (List.mem_append_left _ member)
      rw [← List.append_assoc, afterActs_concat, ← before]
      cases last with
      | ask request =>
          apply (act_ask _ request).1.graph?
          · rwa [← isLive_iff, isLive, before, ← isLive, isLive_iff]
          · exact others _ (by simp)
      | refuseNextBuild => rfl
      | setCompletion completion => rfl

theorem push_answer_of_graph? {other : MemoryEngine} (same : engine.graph? id = other.graph? id)
    (endpoint : Endpoint) (buffer : Buffer) :
    (engine.push id endpoint buffer).1 = (other.push id endpoint buffer).1 := by
  simp only [MemoryEngine.push, same]
  cases refusal? (other.graph? id) endpoint <;> rfl

theorem endOfStream_answer_of_graph? {other : MemoryEngine}
    (same : engine.graph? id = other.graph? id) (endpoint : Endpoint) :
    (engine.endOfStream id endpoint).1 = (other.endOfStream id endpoint).1 := by
  have known : engine.hasEndpoint id endpoint = other.hasEndpoint id endpoint := by
    simp only [hasEndpoint, same]
  by_cases present : other.hasEndpoint id endpoint
  · simp [MemoryEngine.endOfStream, known, present]
  · simp [MemoryEngine.endOfStream, known, present]

/-- A graph takes what its plan has an endpoint for, until the log says that this has ended. -/
theorem engine_admits_by_plan_and_log (acts : List Act)
    (few : (afterActs acts).engine.log.countP Event.isBuilt < UInt32.size) :
    let engine := (afterActs acts).engine
    let transcript := (afterActs acts).transcript.toList
    (∀ graph ∈ heldAfter transcript, ∃ plan : Plan, BuiltFrom transcript graph plan ∧
      (∀ endpoint buffer, engine.push graph endpoint buffer =
        if endpoint ∉ plan.endpoints then (.error (.missingEndpoint endpoint), engine)
        else if .endOfStream graph endpoint ∈ engine.log then
          (.error (.push endpoint "endpoint already at end-of-stream"), engine)
        else (.ok (), engine.note (.pushed graph endpoint buffer))) ∧
      (∀ endpoint, engine.endOfStream graph endpoint =
        if endpoint ∈ plan.endpoints then
          (.ok (), (engine.withEnded graph endpoint).note (.endOfStream graph endpoint))
        else (.error (.missingEndpoint endpoint), engine)) ∧
      ∀ later : List Act, (∀ act ∈ later, act.alters graph = false) →
        let since := (afterActs (acts ++ later)).engine
        ∀ endpoint buffer,
          (since.push graph endpoint buffer).1 = (engine.push graph endpoint buffer).1 ∧
          (since.endOfStream graph endpoint).1 = (engine.endOfStream graph endpoint).1) ∧
    Closed engine.log ∧
    (∀ endpoint, engine.pushed endpoint = transcript.filterMap (Exchange.taken? endpoint)) ∧
    engine.locations = transcript.filterMap Exchange.location? := by
  intro engine transcript
  have told : Told engine transcript := afterActs_told acts few
  refine ⟨?_, told.closed, afterActs_taken acts, afterActs_located acts⟩
  intro id holding
  have alive : id ∈ engine.ids := (afterActs_kept acts few).graphs ▸ holding
  obtain ⟨graph, found⟩ := Option.isSome_iff_exists.mp ((isLive_iff engine id).mpr alive)
  obtain ⟨member, rfl⟩ := mem_of_graph? found
  obtain ⟨plan, built, endpoints⟩ := told.planned graph member
  refine ⟨plan, built, ?_, ?_, ?_⟩
  · intro endpoint buffer
    rw [push_of_graph? found, endpoints]
    simp only [told.finished graph member endpoint]
  · intro endpoint
    rw [endOfStream_of_graph? found, endpoints]
  · intro later others since endpoint buffer
    have same := afterActs_graph? alive others
    exact ⟨push_answer_of_graph? same endpoint buffer, endOfStream_answer_of_graph? same endpoint⟩

/-- The plan has only the video branch of what its layout says. Sound has no endpoint there, and the
end of the other graph's stream changes nothing. -/
theorem engine_admits_by_plan_and_log_of_cut_plan :
    let cut : Plan :=
      { layout := { video := some .h264, audio := some .aacEld }, branches := [.ofVideo .h264],
        location := "1.mp4" }
    let whole : Plan :=
      { layout := { audio := some .alac }, branches := [.ofAudio {} .alac], location := "2.mp4" }
    let acts : List Act :=
      [.ask (.build cut), .ask (.build whole), .ask (.push 1 .video { data := #[7] }),
        .ask (.push 1 .audio { data := #[8] }), .ask (.endOfStream 2 .audio),
        .ask (.push 2 .audio { data := #[9] }), .ask (.halt 1)]
    let engine := (afterActs acts).engine
    let transcript := (afterActs acts).transcript.toList
    engine.log.countP Event.isBuilt < UInt32.size ∧ heldAfter transcript = [1, 2] ∧
      (∃ plan : Plan, BuiltFrom transcript 1 plan ∧
        ∀ later : List Act, (∀ act ∈ later, act.alters 1 = false) → ∀ buffer,
          ((afterActs (acts ++ later)).engine.push 1 .video buffer).1 = .ok ()) ∧
      (engine.push 1 .audio { data := #[8] }).1 = .error (.missingEndpoint .audio) ∧
      (engine.push 2 .audio { data := #[9] }).1 =
        .error (.push .audio "endpoint already at end-of-stream") ∧
      Closed engine.log ∧
      engine.pushed .video = transcript.filterMap (Exchange.taken? .video) ∧
      engine.locations = ["1.mp4", "2.mp4"] := by
  intro cut whole acts engine transcript
  have few : engine.log.countP Event.isBuilt < UInt32.size := by decide +kernel
  have held : heldAfter transcript = [1, 2] := by decide +kernel
  obtain ⟨graphs, closed, taken, located⟩ := engine_admits_by_plan_and_log acts few
  obtain ⟨plan, built, -, -, others⟩ := graphs 1 (by decide +kernel)
  refine ⟨few, held, ⟨plan, built, fun later apart buffer => ?_⟩, by decide +kernel,
    by decide +kernel, closed, taken .video, located.trans (by decide +kernel)⟩
  exact (others later apart .video buffer).1.trans rfl

end MemoryEngine
end StreamRecorder
