import StreamRecorder.Proofs.Isolation

namespace StreamRecorder

def Event.isBuilt (event : Event) : Bool := event.builtGraph?.isSome

def Event.isReleased : Event → Bool
  | .released _ => true
  | _ => false

def Event.isInner (event : Event) : Bool := !event.isBuilt && !event.isReleased

namespace MemoryEngine

/-! ## Acts -/

/-- All that can be done to a memory engine: what any engine is asked, and what a test arranges. -/
inductive Act where
  | ask (request : Request)
  | refuseNextBuild
  | setCompletion (completion : Completion)

def Act.isBuild : Act → Bool
  | .ask request => request.isBuild
  | .refuseNextBuild | .setCompletion _ => false

def act (traced : TracedEngine MemoryEngine) : Act → TracedEngine MemoryEngine
  | .ask request => (Engine.serve traced request).2
  | .refuseNextBuild => { traced with engine := traced.engine.refuseNextBuild }
  | .setCompletion completion => { traced with engine := traced.engine.setCompletion completion }

def afterActs (acts : List Act) : TracedEngine MemoryEngine :=
  acts.foldl act { engine := {} }

theorem afterActs_concat (acts : List Act) (last : Act) :
    afterActs (acts ++ [last]) = act (afterActs acts) last := by
  simp [afterActs]

/-- The graphs that whoever asks has been given and has not let go. -/
def hold (held : List GraphId) : Exchange → List GraphId
  | ⟨.build _, .built (.ok graph)⟩ => held ++ [graph]
  | ⟨.release graph, .done⟩ => held.filter (· ≠ graph)
  | _ => held

def heldAfter (transcript : List Exchange) : List GraphId :=
  transcript.foldl hold []

/-! ## Deeds -/

def ids (engine : MemoryEngine) : List GraphId := engine.graphs.map LiveGraph.id

def log (engine : MemoryEngine) : List Event := engine.events.toList

@[simp] theorem log_note (engine : MemoryEngine) (event : Event) :
    (engine.note event).log = engine.log ++ [event] :=
  Array.toList_push

@[simp] theorem ids_note (engine : MemoryEngine) (event : Event) :
    (engine.note event).ids = engine.ids := rfl

def withGraph (engine : MemoryEngine) (plan : Plan) : MemoryEngine :=
  { engine with
    counts := engine.counts.afterBuild
    graphs := engine.graphs ++ [{ id := engine.counts.built + 1, endpoints := plan.endpoints }] }

def withEnded (engine : MemoryEngine) (id : GraphId) (endpoint : Endpoint) : MemoryEngine :=
  { engine with
    graphs := engine.graphs.map fun graph =>
      if graph.id = id then LiveGraph.finish graph endpoint else graph }

def withoutGraph (engine : MemoryEngine) (id : GraphId) : MemoryEngine :=
  { engine with
    counts := engine.counts.afterRelease
    graphs := engine.graphs.filter (·.id ≠ id) }

@[simp] theorem ids_withGraph (engine : MemoryEngine) (plan : Plan) :
    (engine.withGraph plan).ids = engine.ids ++ [engine.counts.built + 1] := by
  simp [ids, withGraph]

@[simp] theorem ids_withEnded (engine : MemoryEngine) (id : GraphId) (endpoint : Endpoint) :
    (engine.withEnded id endpoint).ids = engine.ids := by
  have same (graph : LiveGraph) :
      (if graph.id = id then LiveGraph.finish graph endpoint else graph).id = graph.id := by
    split <;> rfl
  simp [ids, withEnded, same]

@[simp] theorem ids_withoutGraph (engine : MemoryEngine) (id : GraphId) :
    (engine.withoutGraph id).ids = engine.ids.filter (· ≠ id) := by
  simp only [ids, withoutGraph, List.filter_map]
  rfl

inductive Deed (before : MemoryEngine) : Exchange → MemoryEngine → Prop where
  | built (plan : Plan) (willing : before.refusesNextBuild = false) :
      Deed before ⟨.build plan, .built (.ok (before.counts.built + 1))⟩
        ((before.withGraph plan).note
          (.built (before.counts.built + 1) plan.location plan.layout))
  | refused (plan : Plan) (refusing : before.refusesNextBuild = true) :
      Deed before
        ⟨.build plan,
          .built (.error (.construction ("no element could be linked for " ++ plan.text)))⟩
        { before with refusesNextBuild := false }
  | pushed (graph : LiveGraph) (endpoint : Endpoint) (buffer : Buffer)
      (alive : graph ∈ before.graphs) (present : endpoint ∈ graph.endpoints)
      (running : endpoint ∉ graph.finished) :
      Deed before ⟨.push graph.id endpoint buffer, .accepted (.ok ())⟩
        (before.note (.pushed graph.id endpoint buffer))
  | ended (graph : LiveGraph) (endpoint : Endpoint) (alive : graph ∈ before.graphs)
      (present : endpoint ∈ graph.endpoints) :
      Deed before ⟨.endOfStream graph.id endpoint, .accepted (.ok ())⟩
        ((before.withEnded graph.id endpoint).note (.endOfStream graph.id endpoint))
  | waited (id : GraphId) (timeout : UInt64) (alive : id ∈ before.ids) :
      Deed before ⟨.awaitCompletion id timeout, .completed before.completion⟩
        (before.note (.waited id timeout before.completion))
  | halted (id : GraphId) (alive : id ∈ before.ids) :
      Deed before ⟨.halt id, .done⟩ (before.note (.halted id))
  | released (id : GraphId) (alive : id ∈ before.ids) :
      Deed before ⟨.release id, .done⟩ ((before.withoutGraph id).note (.released id))
  | denied (request : Request) (fault : SinkError) (plain : request.isBuild = false) :
      Deed before ⟨request, .accepted (.error fault)⟩ before
  | missed (exchange : Exchange) (id : GraphId) (about : exchange.request.graph? = some id)
      (absent : id ∉ before.ids) (unheard : ∀ result, exchange.answer ≠ .accepted result) :
      Deed before exchange before

variable {engine : MemoryEngine} {id : GraphId} {graph : LiveGraph} {endpoint : Endpoint}

theorem mem_of_graph? (found : engine.graph? id = some graph) :
    graph ∈ engine.graphs ∧ graph.id = id := by
  refine ⟨List.mem_of_find?_eq_some found, ?_⟩
  simpa using List.find?_some found

theorem isLive_iff (engine : MemoryEngine) (id : GraphId) :
    engine.isLive id = true ↔ id ∈ engine.ids := by
  simp [isLive, graph?, ids, List.find?_isSome]

theorem build_of_willing (willing : engine.refusesNextBuild = false) (plan : Plan) :
    engine.build plan = (.ok (engine.counts.built + 1), (engine.withGraph plan).note
      (.built (engine.counts.built + 1) plan.location plan.layout)) := by
  rw [build, if_neg (by simp [willing])]
  rfl

theorem build_of_refusing (refusing : engine.refusesNextBuild = true) (plan : Plan) :
    engine.build plan = (.error (.construction ("no element could be linked for " ++ plan.text)),
      { engine with refusesNextBuild := false }) := by
  rw [build, if_pos refusing]

theorem push_of_graph? (found : engine.graph? id = some graph) (endpoint : Endpoint)
    (buffer : Buffer) : engine.push id endpoint buffer =
      if endpoint ∉ graph.endpoints then (.error (.missingEndpoint endpoint), engine)
      else if endpoint ∈ graph.finished then
        (.error (.push endpoint "endpoint already at end-of-stream"), engine)
      else (.ok (), engine.note (.pushed id endpoint buffer)) := by
  simp only [push, found, refusal?]
  by_cases present : endpoint ∈ graph.endpoints
  · by_cases finished : endpoint ∈ graph.finished <;> simp [present, finished]
  · simp [present]

theorem endOfStream_of_graph? (found : engine.graph? id = some graph) (endpoint : Endpoint) :
    engine.endOfStream id endpoint =
      if endpoint ∈ graph.endpoints then
        (.ok (), (engine.withEnded id endpoint).note (.endOfStream id endpoint))
      else (.error (.missingEndpoint endpoint), engine) := by
  by_cases present : endpoint ∈ graph.endpoints <;>
    simp [endOfStream, hasEndpoint, found, present, withEnded]

theorem not_mem_ids (dead : engine.isLive id = false) : id ∉ engine.ids := by
  rw [← isLive_iff, dead]
  exact Bool.false_ne_true

theorem push_deed (engine : MemoryEngine) (id : GraphId) (endpoint : Endpoint) (buffer : Buffer) :
    Deed engine ⟨.push id endpoint buffer, .accepted (engine.push id endpoint buffer).1⟩
      (engine.push id endpoint buffer).2 := by
  cases found : engine.graph? id with
  | none =>
      have absent : engine.push id endpoint buffer =
          (.error (.missingEndpoint endpoint), engine) := by
        simp [push, found, refusal?]
      rw [absent]
      exact .denied _ _ rfl
  | some graph =>
      rw [push_of_graph? found]
      obtain ⟨alive, rfl⟩ := mem_of_graph? found
      split
      · exact .denied _ _ rfl
      · rename_i present
        split
        · exact .denied _ _ rfl
        · rename_i running
          exact .pushed graph endpoint buffer alive (not_not.mp present) running

theorem endOfStream_deed (engine : MemoryEngine) (id : GraphId) (endpoint : Endpoint) :
    Deed engine ⟨.endOfStream id endpoint, .accepted (engine.endOfStream id endpoint).1⟩
      (engine.endOfStream id endpoint).2 := by
  cases found : engine.graph? id with
  | none =>
      have absent : engine.endOfStream id endpoint =
          (.error (.missingEndpoint endpoint), engine) := by
        simp [endOfStream, hasEndpoint, found]
      rw [absent]
      exact .denied _ _ rfl
  | some graph =>
      rw [endOfStream_of_graph? found]
      obtain ⟨alive, rfl⟩ := mem_of_graph? found
      split
      · rename_i present
        exact .ended graph endpoint alive present
      · exact .denied _ _ rfl

theorem serve_deed (engine : MemoryEngine) (request : Request) :
    Deed engine ⟨request, (Engine.serve engine request).1⟩ (Engine.serve engine request).2 := by
  cases request with
  | build plan =>
      change Deed engine ⟨.build plan, .built (engine.build plan).1⟩ (engine.build plan).2
      cases refuses : engine.refusesNextBuild with
      | true =>
          rw [build_of_refusing refuses]
          exact .refused plan refuses
      | false =>
          rw [build_of_willing refuses]
          exact .built plan refuses
  | push id endpoint buffer => exact engine.push_deed id endpoint buffer
  | endOfStream id endpoint => exact engine.endOfStream_deed id endpoint
  | awaitCompletion id timeout =>
      simp only [Engine.serve, Engine.awaitCompletion, awaitCompletion]
      cases live : engine.isLive id with
      | true => exact .waited id timeout ((isLive_iff engine id).mp live)
      | false => exact .missed _ id rfl (not_mem_ids live) (by simp)
  | halt id =>
      simp only [Engine.serve, Engine.halt, halt]
      cases live : engine.isLive id with
      | true => exact .halted id ((isLive_iff engine id).mp live)
      | false => exact .missed _ id rfl (not_mem_ids live) (by simp)
  | release id =>
      simp only [Engine.serve, Engine.release, release]
      cases live : engine.isLive id with
      | true => exact .released id ((isLive_iff engine id).mp live)
      | false => exact .missed _ id rfl (not_mem_ids live) (by simp)

theorem hold_absent (held : List GraphId) {exchange : Exchange}
    (about : exchange.request.graph? = some id) (absent : id ∉ held) :
    hold held exchange = held := by
  obtain ⟨request, answer⟩ := exchange
  cases request with
  | build plan => simp [Request.graph?] at about
  | release graph =>
      cases answer with
      | done =>
          obtain rfl : graph = id := Option.some_inj.mp about
          exact List.filter_eq_self.mpr fun other member =>
            decide_eq_true (ne_of_mem_of_not_mem member absent)
      | _ => rfl
  | _ => cases answer <;> rfl

/-! ## The log -/

def builtGraphs (log : List Event) : List GraphId := log.filterMap Event.builtGraph?

def balance (log : List Event) : Int :=
  log.countP Event.isBuilt - log.countP Event.isReleased

theorem builtGraphs_length (log : List Event) :
    (builtGraphs log).length = log.countP Event.isBuilt :=
  List.length_filterMap_eq_countP

theorem Numbered.fresh {engine : MemoryEngine} (numbered : engine.Numbered)
    (few : engine.log.countP Event.isBuilt + 1 < UInt32.size) :
    engine.counts.built + 1 ∉ builtGraphs engine.log := by
  obtain ⟨count, built, graphs⟩ := numbered
  have length : engine.log.countP Event.isBuilt = count := by
    rw [← builtGraphs_length, builtGraphs, log, graphs, List.length_map, List.length_range]
  intro member
  rw [builtGraphs, log, graphs, List.mem_map] at member
  obtain ⟨earlier, listed, same⟩ := member
  have before : earlier < count := List.mem_range.mp listed
  have next : engine.counts.built + 1 = UInt32.ofNat (count + 1) := by
    rw [built, UInt32.ofNat_add]
    rfl
  rw [next] at same
  have numbers := congrArg UInt32.toNat same
  rw [UInt32.toNat_ofNat_of_lt' (by omega), UInt32.toNat_ofNat_of_lt' (by omega)] at numbers
  omega

theorem prefixes_concat (log : List Event) (event : Event) :
    {earlier | earlier <+: log ++ [event]} = insert (log ++ [event]) {earlier | earlier <+: log} :=
  Set.ext fun _ => List.prefix_concat_iff

theorem isGreatest_concat {log : List Event} {most : Int}
    (greatest : IsGreatest (balance '' {earlier | earlier <+: log}) most) (event : Event) :
    IsGreatest (balance '' {earlier | earlier <+: log ++ [event]})
      (max (balance (log ++ [event])) most) := by
  rw [prefixes_concat, Set.image_insert_eq]
  exact greatest.insert _

theorem balance_le {log : List Event} {most : Int}
    (greatest : IsGreatest (balance '' {earlier | earlier <+: log}) most) : balance log ≤ most :=
  greatest.2 (Set.mem_image_of_mem balance List.prefix_rfl)

/-! ## Chronicles -/

inductive Chronicle (log : List Event) (held : List GraphId) (graph : GraphId) : Prop where
  | unbuilt (unknown : graph ∉ builtGraphs log) (unheld : graph ∉ held)
      (untold : log.filter (·.graph = graph) = [])
  | alive (holding : graph ∈ held) (location : String) (layout : Layout) (life : List Event)
      (inner : ∀ event ∈ life, event.isInner = true)
      (told : log.filter (·.graph = graph) = .built graph location layout :: life)
  | dropped (unheld : graph ∉ held) (location : String) (layout : Layout) (life : List Event)
      (inner : ∀ event ∈ life, event.isInner = true)
      (told : log.filter (·.graph = graph) =
        .built graph location layout :: life ++ [.released graph])

namespace Chronicle

variable {log : List Event} {held later : List GraphId} {graph : GraphId} {event : Event}

theorem mem_builtGraphs {rest : List Event} {location : String} {layout : Layout}
    (told : log.filter (·.graph = graph) = .built graph location layout :: rest) :
    graph ∈ builtGraphs log := by
  have member : .built graph location layout ∈ log.filter (·.graph = graph) := by
    rw [told]
    exact List.mem_cons_self
  exact List.mem_filterMap.mpr ⟨_, (List.mem_filter.mp member).1, rfl⟩

theorem known (chronicle : Chronicle log held graph) (holding : graph ∈ held) :
    graph ∈ builtGraphs log := by
  cases chronicle with
  | unbuilt unknown unheld untold => exact absurd holding unheld
  | alive _ location layout life inner told => exact mem_builtGraphs told
  | dropped unheld location layout life inner told => exact absurd holding unheld

theorem other (chronicle : Chronicle log held graph) (about : event.graph ≠ graph)
    (same : graph ∈ later ↔ graph ∈ held) : Chronicle (log ++ [event]) later graph := by
  have told : (log ++ [event]).filter (·.graph = graph) = log.filter (·.graph = graph) := by
    simp [List.filter_append, about]
  cases chronicle with
  | unbuilt unknown unheld untold =>
      refine .unbuilt ?_ (mt same.mp unheld) (told.trans untold)
      intro member
      obtain ⟨entry, listed, named⟩ := List.mem_filterMap.mp member
      rcases List.mem_append.mp listed with early | last
      · exact unknown (List.mem_filterMap.mpr ⟨entry, early, named⟩)
      · obtain rfl := List.mem_singleton.mp last
        cases entry <;> cases named
        exact about rfl
  | alive holding location layout life inner earlier =>
      exact .alive (same.mpr holding) location layout life inner (told.trans earlier)
  | dropped unheld location layout life inner earlier =>
      exact .dropped (mt same.mp unheld) location layout life inner (told.trans earlier)

theorem untold (chronicle : Chronicle log held graph) (unknown : graph ∉ builtGraphs log) :
    log.filter (·.graph = graph) = [] := by
  cases chronicle with
  | unbuilt _ _ untold => exact untold
  | alive _ _ _ _ _ told => exact absurd (mem_builtGraphs told) unknown
  | dropped _ _ _ _ _ told => exact absurd (mem_builtGraphs told) unknown

theorem begin (chronicle : Chronicle log held graph) (unknown : graph ∉ builtGraphs log)
    (location : String) (layout : Layout) :
    Chronicle (log ++ [.built graph location layout]) (held ++ [graph]) graph := by
  refine .alive (by simp) location layout [] (by simp) ?_
  rw [List.filter_append, chronicle.untold unknown]
  simp [Event.graph]

theorem go_on (chronicle : Chronicle log held event.graph) (holding : event.graph ∈ held)
    (inner : event.isInner = true) : Chronicle (log ++ [event]) held event.graph := by
  cases chronicle with
  | unbuilt unknown unheld untold => exact absurd holding unheld
  | dropped unheld location layout life plain told => exact absurd holding unheld
  | alive _ location layout life plain told =>
      refine .alive holding location layout (life ++ [event]) ?_ ?_
      · intro entry member
        rcases List.mem_append.mp member with early | last
        · exact plain entry early
        · rwa [List.mem_singleton.mp last]
      · simp [List.filter_append, told]

theorem finish (chronicle : Chronicle log held graph) (holding : graph ∈ held)
    (gone : graph ∉ later) : Chronicle (log ++ [.released graph]) later graph := by
  cases chronicle with
  | unbuilt unknown unheld untold => exact absurd holding unheld
  | dropped unheld location layout life plain told => exact absurd holding unheld
  | alive _ location layout life inner told =>
      refine .dropped gone location layout life inner ?_
      rw [List.filter_append, told]
      simp [Event.graph]

end Chronicle

/-! ## Books -/

structure Kept (engine : MemoryEngine) (held : List GraphId) : Prop where
  graphs : engine.ids = held
  distinct : held.Nodup
  live : engine.counts.live = held.length
  balanced : (engine.counts.live : Int) = balance engine.log
  peak : IsGreatest (balance '' {earlier | earlier <+: engine.log}) engine.counts.mostLive
  chronicles : ∀ graph, Chronicle engine.log held graph

theorem balance_concat (log : List Event) (event : Event) :
    balance (log ++ [event]) = balance log +
      ((if event.isBuilt then 1 else 0) - (if event.isReleased then 1 else 0)) := by
  simp only [balance, List.countP_append, List.countP_singleton]
  push_cast
  ring

theorem kept_empty : Kept {} [] where
  graphs := rfl
  distinct := List.nodup_nil
  live := rfl
  balanced := rfl
  peak := by
    have only : {earlier | earlier <+: (({} : MemoryEngine).log)} = {[]} :=
      Set.ext fun _ => List.prefix_nil
    rw [only, Set.image_singleton]
    exact isGreatest_singleton
  chronicles graph := .unbuilt (by simp [builtGraphs, log]) (by simp) rfl

namespace Kept

variable {held : List GraphId} {event : Event}

theorem withEnded (kept : Kept engine held) (id : GraphId) (endpoint : Endpoint) :
    Kept (engine.withEnded id endpoint) held :=
  { kept with graphs := (ids_withEnded engine id endpoint).trans kept.graphs }

theorem noted (kept : Kept engine held) (alive : event.graph ∈ engine.ids)
    (inner : event.isInner = true) : Kept (engine.note event) held := by
  rw [kept.graphs] at alive
  have same : balance (engine.log ++ [event]) = balance engine.log := by
    rw [balance_concat]
    simp only [Event.isInner, Bool.and_eq_true, Bool.not_eq_true'] at inner
    simp [inner]
  refine ⟨kept.graphs, kept.distinct, kept.live, ?_, ?_, ?_⟩
  · rw [log_note, same]
    exact kept.balanced
  · have peak := isGreatest_concat kept.peak event
    rwa [same, max_eq_right (balance_le kept.peak), ← log_note] at peak
  · intro graph
    rw [log_note]
    by_cases about : event.graph = graph
    · subst about
      exact (kept.chronicles _).go_on alive inner
    · exact (kept.chronicles graph).other about Iff.rfl

theorem built (kept : Kept engine held) (fresh : engine.counts.built + 1 ∉ builtGraphs engine.log)
    (plan : Plan) : Kept
      ((engine.withGraph plan).note (.built (engine.counts.built + 1) plan.location plan.layout))
      (held ++ [engine.counts.built + 1]) := by
  let made : Event := .built (engine.counts.built + 1) plan.location plan.layout
  have more : balance (engine.log ++ [made]) = (engine.counts.live + 1 : Nat) := by
    rw [balance_concat, ← kept.balanced]
    rfl
  -- What is held was built, so a number that was never given out is held by nobody.
  have new : engine.counts.built + 1 ∉ held := fun old =>
    fresh ((kept.chronicles _).known old)
  refine ⟨?_, ?_, ?_, ?_, ?_, ?_⟩
  · rw [ids_note, ids_withGraph, kept.graphs]
  · rw [← List.concat_eq_append]
    exact kept.distinct.concat new
  · simp [withGraph, note, GraphCounts.afterBuild, kept.live]
  · rw [log_note]
    exact more.symm
  · have peak := isGreatest_concat kept.peak made
    rw [more, ← Nat.cast_max, max_comm] at peak
    rwa [log_note]
  · intro graph
    rw [log_note]
    by_cases about : engine.counts.built + 1 = graph
    · subst about
      exact (kept.chronicles _).begin fresh plan.location plan.layout
    · exact (kept.chronicles graph).other about (by simp [Ne.symm about])

theorem released (kept : Kept engine held) (alive : id ∈ engine.ids) :
    Kept ((engine.withoutGraph id).note (.released id)) (held.filter (· ≠ id)) := by
  rw [kept.graphs] at alive
  have fewer : (held.filter (· ≠ id)).length + 1 = held.length := by
    have erased : held.erase id = held.filter (· ≠ id) := by
      rw [kept.distinct.erase_eq_filter]
      exact List.filter_congr fun _ _ => Bool.eq_iff_iff.mpr (by simp)
    rw [← erased]
    exact List.length_erase_add_one alive
  -- One graph at least is alive, so the counter does not stop at zero.
  have less : balance (engine.log ++ [.released id]) = (engine.counts.live - 1 : Nat) := by
    rw [balance_concat, ← kept.balanced, kept.live]
    simp only [Event.isBuilt, Event.builtGraph?, Event.isReleased]
    simp
    omega
  refine ⟨?_, kept.distinct.filter _, ?_, ?_, ?_, ?_⟩
  · rw [ids_note, ids_withoutGraph, kept.graphs]
  · simp only [withoutGraph, note, GraphCounts.afterRelease]
    rw [kept.live]
    omega
  · rw [log_note]
    exact less.symm
  · have peak := isGreatest_concat kept.peak (.released id)
    have below := balance_le kept.peak
    rw [← kept.balanced] at below
    rw [less, max_eq_right (by omega)] at peak
    rwa [log_note]
  · intro graph
    rw [log_note]
    by_cases about : id = graph
    · subst about
      exact (kept.chronicles id).finish alive (by simp)
    · exact (kept.chronicles graph).other about (by simp [Ne.symm about])

theorem deed {exchange : Exchange} {after : MemoryEngine} (kept : Kept engine held)
    (numbered : engine.Numbered) (few : after.log.countP Event.isBuilt < UInt32.size)
    (deed : Deed engine exchange after) : Kept after (hold held exchange) := by
  cases deed with
  | built plan willing =>
      apply kept.built
      apply numbered.fresh
      rwa [log_note, List.countP_append] at few
  | refused plan refusing => exact { kept with }
  | pushed graph endpoint buffer alive present running =>
      exact kept.noted (List.mem_map_of_mem alive) rfl
  | ended graph endpoint alive present =>
      apply (kept.withEnded graph.id endpoint).noted _ rfl
      rw [ids_withEnded]
      exact List.mem_map_of_mem alive
  | waited id timeout alive => exact kept.noted alive rfl
  | halted id alive => exact kept.noted alive rfl
  | released id alive => exact kept.released alive
  | denied request fault plain => cases request <;> exact kept
  | missed exchange id about absent unheard =>
      rw [hold_absent held about (kept.graphs ▸ absent)]
      exact kept

end Kept

/-! ## Runs -/

theorem Deed.grows {exchange : Exchange} {after : MemoryEngine}
    (deed : Deed engine exchange after) : engine.log <+: after.log := by
  cases deed with
  | refused | denied | missed => exact List.prefix_rfl
  | _ =>
      rw [log_note]
      exact List.prefix_append _ _

theorem Deed.refusal {exchange : Exchange} {after : MemoryEngine}
    (deed : Deed engine exchange after) : after.refusesNextBuild =
      (engine.refusesNextBuild && !exchange.request.isBuild) := by
  cases deed with
  | built plan willing => simp [note, withGraph, willing]
  | refused plan refusing => simp [Request.isBuild]
  | denied request fault plain => simp [plain]
  | missed exchange id about absent unheard => simp [Request.isBuild_of_graph? about]
  | _ => exact (Bool.and_true _).symm

theorem act_ask (traced : TracedEngine MemoryEngine) (request : Request) :
    Deed traced.engine ⟨request, (Engine.serve traced.engine request).1⟩
        (act traced (.ask request)).engine ∧
      (act traced (.ask request)).transcript.toList = traced.transcript.toList ++
        [⟨request, (Engine.serve traced.engine request).1⟩] := by
  simp only [act, Engine.serve_traced]
  exact ⟨serve_deed _ _, Array.toList_push⟩

theorem act_grows (traced : TracedEngine MemoryEngine) (last : Act) :
    traced.engine.log <+: (act traced last).engine.log := by
  cases last with
  | ask request => exact (act_ask traced request).1.grows
  | refuseNextBuild => exact List.prefix_rfl
  | setCompletion completion => exact List.prefix_rfl

theorem act_numbered {traced : TracedEngine MemoryEngine} (numbered : traced.engine.Numbered)
    (last : Act) : (act traced last).engine.Numbered := by
  cases last with
  | ask request =>
      simp only [act, Engine.serve_traced]
      exact serve_numbered numbered request
  | refuseNextBuild => exact numbered
  | setCompletion completion => exact numbered

theorem afterActs_grows (acts later : List Act) :
    (afterActs acts).engine.log <+: (afterActs (acts ++ later)).engine.log := by
  induction later using List.reverseRecOn with
  | nil => rw [List.append_nil]
  | append_singleton later last ih =>
      rw [← List.append_assoc, afterActs_concat]
      exact ih.trans (act_grows _ last)

theorem afterActs_numbered (acts : List Act) : (afterActs acts).engine.Numbered := by
  induction acts using List.reverseRecOn with
  | nil => exact ⟨0, rfl, rfl⟩
  | append_singleton acts last ih =>
      rw [afterActs_concat]
      exact act_numbered ih last

/-- What is so of a new engine and after every deed is so after all acts, if what is arranged has no
say in it. -/
theorem afterActs_induction {motive : MemoryEngine → List Exchange → Prop} (start : motive {} [])
    (arranged : ∀ engine transcript refuses completion, motive engine transcript →
      motive { engine with refusesNextBuild := refuses, completion } transcript)
    (done : ∀ acts exchange after, Deed (afterActs acts).engine exchange after →
      motive (afterActs acts).engine (afterActs acts).transcript.toList →
      motive after ((afterActs acts).transcript.toList ++ [exchange])) (acts : List Act) :
    motive (afterActs acts).engine (afterActs acts).transcript.toList := by
  induction acts using List.reverseRecOn with
  | nil => exact start
  | append_singleton acts last ih =>
      rw [afterActs_concat]
      cases last with
      | ask request =>
          obtain ⟨deed, transcript⟩ := act_ask (afterActs acts) request
          rw [transcript]
          exact done acts _ _ deed ih
      | refuseNextBuild => exact arranged _ _ true _ ih
      | setCompletion completion => exact arranged _ _ _ completion ih

theorem afterActs_kept (acts : List Act)
    (few : (afterActs acts).engine.log.countP Event.isBuilt < UInt32.size) :
    Kept (afterActs acts).engine (heldAfter (afterActs acts).transcript.toList) := by
  refine afterActs_induction (motive := fun engine transcript =>
    engine.log.countP Event.isBuilt < UInt32.size → Kept engine (heldAfter transcript)) ?_ ?_ ?_
    acts few
  · exact fun _ => kept_empty
  · intro engine transcript refuses completion kept few
    exact { kept few with }
  · intro acts exchange after deed kept few
    -- The log only grows, so the builds were few all along.
    have fewer := deed.grows.sublist.countP_le.trans_lt few
    rw [heldAfter, List.foldl_concat]
    exact (kept fewer).deed (afterActs_numbered acts) few deed

def RefusalAwaits (acts : List Act) : Prop :=
  ∃ earlier since, acts = earlier ++ .refuseNextBuild :: since ∧
    ∀ later ∈ since, later.isBuild = false

theorem refusalAwaits_concat (acts : List Act) (last : Act) :
    RefusalAwaits (acts ++ [last]) ↔
      last = .refuseNextBuild ∨ (RefusalAwaits acts ∧ last.isBuild = false) := by
  constructor
  · rintro ⟨earlier, since, split, plain⟩
    cases since using List.reverseRecOn with
    | nil =>
        obtain ⟨-, same⟩ := List.append_inj' split rfl
        exact .inl (List.singleton_inj.mp same)
    | append_singleton since latest =>
        rw [← List.cons_append, ← List.append_assoc] at split
        obtain ⟨before, same⟩ := List.append_inj' split rfl
        obtain rfl := List.singleton_inj.mp same
        refine .inr ⟨⟨earlier, since, before, fun later member => ?_⟩, ?_⟩
        · exact plain later (List.mem_append_left _ member)
        · exact plain last (by simp)
  · rintro (rfl | ⟨⟨earlier, since, rfl, plain⟩, quiet⟩)
    · exact ⟨acts, [], rfl, by simp⟩
    · refine ⟨earlier, since ++ [last], by simp, fun later member => ?_⟩
      rcases List.mem_append.mp member with early | latest
      · exact plain later early
      · rwa [List.mem_singleton.mp latest]

theorem refusesNextBuild_iff (acts : List Act) :
    (afterActs acts).engine.refusesNextBuild = true ↔ RefusalAwaits acts := by
  induction acts using List.reverseRecOn with
  | nil => simp [afterActs, RefusalAwaits]
  | append_singleton acts last ih =>
      rw [afterActs_concat, refusalAwaits_concat, ← ih]
      cases last with
      | ask request =>
          rw [(act_ask _ request).1.refusal]
          simp [Act.isBuild]
      | refuseNextBuild => simp [act, MemoryEngine.refuseNextBuild]
      | setCompletion completion => simp [act, MemoryEngine.setCompletion, Act.isBuild]

theorem build_fails_iff (engine : MemoryEngine) (plan : Plan) :
    (∃ fault, (engine.build plan).1 = .error fault) ↔ engine.refusesNextBuild = true := by
  cases refuses : engine.refusesNextBuild with
  | true => simp [build_of_refusing refuses]
  | false => simp [build_of_willing refuses]

/-- The counters of an engine, its graphs and what it refuses are told by its log and by what was
done to it. -/
theorem engine_keeps_its_books (acts : List Act)
    (few : (afterActs acts).engine.log.countP Event.isBuilt < UInt32.size) :
    let engine := (afterActs acts).engine
    let held := heldAfter (afterActs acts).transcript.toList
    let count := engine.log.countP Event.isBuilt
    (engine.counts.built.toNat = count ∧
      builtGraphs engine.log = (List.range count).map fun earlier => UInt32.ofNat (earlier + 1)) ∧
    (engine.counts.live + engine.log.countP Event.isReleased = count ∧
      engine.counts.live = held.length ∧ held.Nodup ∧
      ∀ graph ∈ held, (engine.release graph).counts.live + 1 = engine.counts.live) ∧
    IsGreatest (balance '' {earlier | earlier <+: engine.log}) engine.counts.mostLive ∧
    (∀ graph, Chronicle engine.log held graph) ∧
    (∀ earlier, earlier <+: acts → (afterActs earlier).engine.log <+: engine.log) ∧
    ∀ plan, ((∃ fault, (engine.build plan).1 = .error fault) ↔ RefusalAwaits acts) ∧
      ∀ fault, (engine.build plan).1 = .error fault →
        (engine.build plan).2 = { engine with refusesNextBuild := false } := by
  intro engine held count
  have kept : Kept engine held := afterActs_kept acts few
  refine ⟨?_, ⟨?_, kept.live, kept.distinct, ?_⟩, kept.peak, kept.chronicles, ?_, ?_⟩
  · obtain ⟨number, built, graphs⟩ := afterActs_numbered acts
    have length : count = number := by
      have lengths := congrArg List.length graphs
      rw [List.length_map, List.length_range] at lengths
      exact (builtGraphs_length _).symm.trans lengths
    rw [length]
    refine ⟨?_, graphs⟩
    rw [built, UInt32.toNat_ofNat_of_lt' (length ▸ few)]
  · have balanced := kept.balanced
    simp only [balance] at balanced
    omega
  · intro graph holding
    have live : engine.isLive graph = true := (isLive_iff engine graph).mpr (kept.graphs ▸ holding)
    have some := List.length_pos_of_mem holding
    simp only [release, live, if_true, note, GraphCounts.afterRelease]
    rw [kept.live]
    omega
  · rintro earlier ⟨later, rfl⟩
    exact afterActs_grows earlier later
  · intro plan
    rw [build_fails_iff, refusesNextBuild_iff]
    refine ⟨Iff.rfl, fun fault failed => ?_⟩
    have refuses := (build_fails_iff engine plan).mp ⟨fault, failed⟩
    rw [build_of_refusing refuses]

/-- Two refusals in a row fail one build. Two graphs are alive for a while; the first has been fed
and is gone, and the next build is going to fail. -/
theorem engine_keeps_its_books_of_two_graphs :
    let video : Plan :=
      { layout := { video := some .h264 }, branches := [.ofVideo .h264], location := "1.mp4" }
    let sound : Plan :=
      { layout := { audio := some .alac }, branches := [.ofAudio {} .alac], location := "2.mp4" }
    let acts : List Act :=
      [.ask (.build video), .refuseNextBuild, .refuseNextBuild, .ask (.build sound),
        .ask (.build sound), .ask (.push 1 .video { data := #[7] }), .ask (.release 1),
        .refuseNextBuild]
    let engine := (afterActs acts).engine
    engine.log.countP Event.isBuilt < UInt32.size ∧ builtGraphs engine.log = [1, 2] ∧
      heldAfter (afterActs acts).transcript.toList = [2] ∧
      engine.counts.live + engine.log.countP Event.isReleased = engine.log.countP Event.isBuilt ∧
      IsGreatest (balance '' {earlier | earlier <+: engine.log}) 2 ∧
      Chronicle engine.log [2] 1 ∧ RefusalAwaits acts := by
  intro video sound acts engine
  have few : engine.log.countP Event.isBuilt < UInt32.size := by decide +kernel
  obtain ⟨-, ⟨balanced, -⟩, peak, chronicles, -, refusing⟩ := engine_keeps_its_books acts few
  have most : ((afterActs acts).engine.counts.mostLive : Int) = 2 := by decide +kernel
  have held : heldAfter (afterActs acts).transcript.toList = [2] := by decide +kernel
  rw [most] at peak
  refine ⟨few, by decide +kernel, held, balanced, peak, held ▸ chronicles 1, ?_⟩
  exact (refusing video).1.mp ((build_fails_iff _ _).mpr (by decide +kernel))

end MemoryEngine
end StreamRecorder
