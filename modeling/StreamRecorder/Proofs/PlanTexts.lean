import Mathlib
import StreamRecorder.Proofs.DryEngine

/-!
# Descriptions of graphs read back

The first word at a place tells what stands there: a branch, one more stage of it, its end, or the
multiplexer. Behind the multiplexer all is location, so it does not matter what a location looks
like.
-/

namespace StreamRecorder

structure Route where
  endpoint : Endpoint
  stages : List Stage
  deriving DecidableEq

def Route.text (route : Route) : String :=
  "appsrc name=" ++ route.endpoint.elementName ++ " format=time is-live=true"
    ++ String.join (route.stages.map fun stage => " ! " ++ stage.elementKind)
    ++ " ! mux. "

def Branch.route (branch : Branch) : Route :=
  ⟨branch.endpoint, branch.stages⟩

namespace Plan

/-! ## Reading -/

def endpointOfName? (word : String) : Option Endpoint :=
  [Endpoint.video, .audio].find? fun endpoint => "name=" ++ endpoint.elementName = word

def stageOfKind? (word : String) : Option Stage :=
  [Stage.queue, .h264Parse, .h265Parse, .aacParse].find? fun stage => stage.elementKind = word

def locationOf? (words : List String) : Option String :=
  ("location=".toList.isPrefixOf? (" ".intercalate words).toList).map String.ofList

mutual

def readBranches? : List String → Option (List Route × String)
  | "appsrc" :: name :: "format=time" :: "is-live=true" :: words => do
      let endpoint ← endpointOfName? name
      let (stages, routes, location) ← readStages? words
      return (⟨endpoint, stages⟩ :: routes, location)
  | "mp4mux" :: "name=mux" :: "!" :: "filesink" :: "name=filesink" :: words => do
      let location ← locationOf? words
      return ([], location)
  | _ => none

def readStages? : List String → Option (List Stage × List Route × String)
  | "!" :: "mux." :: words => do
      let (routes, location) ← readBranches? words
      return ([], routes, location)
  | "!" :: kind :: words => do
      let stage ← stageOfKind? kind
      let (stages, routes, location) ← readStages? words
      return (stage :: stages, routes, location)
  | _ => none

end

def wordsOf (text : String) : List String :=
  (text.toList.splitOn ' ').map String.ofList

/-! ## Words -/

def spaced (word : String) : List Char :=
  word.toList ++ [' ']

theorem splitOn_spaced {words : List String} (plain : ∀ word ∈ words, ' ' ∉ word.toList)
    (rest : List Char) :
    (words.flatMap spaced ++ rest).splitOn ' ' = words.map String.toList ++ rest.splitOn ' ' := by
  induction words with
  | nil => rfl
  | cons word words ih =>
      have here : ' ' ∉ word.toList := plain word (List.mem_cons_self ..)
      have whole : word.toList.splitOnP (fun c => c == ' ') = [word.toList] :=
        List.splitOnP_eq_singleton fun c member =>
          beq_false_of_ne (ne_of_mem_of_not_mem member here)
      have first : (word.toList ++ ' ' :: (words.flatMap spaced ++ rest)).splitOn ' ' =
          [word.toList] ++ (words.flatMap spaced ++ rest).splitOn ' ' := by
        rw [← whole]
        exact List.splitOnP_append_cons _ _ (beq_self_eq_true ' ')
      rw [List.flatMap_cons, spaced, List.append_assoc, List.append_assoc, List.singleton_append,
        first, ih fun word member => plain word (List.mem_cons_of_mem _ member)]
      rfl

end Plan

def Stage.words (stage : Stage) : List String :=
  ["!", stage.elementKind]

def Plan.sourceWords (endpoint : Endpoint) : List String :=
  ["appsrc", "name=" ++ endpoint.elementName, "format=time", "is-live=true"]

def Plan.sinkWords : List String :=
  ["!", "mux."]

def Branch.words (branch : Branch) : List String :=
  Plan.sourceWords branch.endpoint ++ branch.stages.flatMap Stage.words ++ Plan.sinkWords

def Plan.multiplexerWords : List String :=
  ["mp4mux", "name=mux", "!", "filesink", "name=filesink"]

def Plan.words (plan : Plan) : List String :=
  plan.branches.flatMap Branch.words ++ multiplexerWords

theorem Stage.plain {stage : Stage} : ∀ word ∈ stage.words, ' ' ∉ word.toList := by
  cases stage <;> decide

theorem Branch.plain {branch : Branch} : ∀ word ∈ branch.words, ' ' ∉ word.toList := by
  intro word member
  simp only [words, List.mem_append, List.mem_flatMap] at member
  rcases member with (opening | ⟨stage, -, within⟩) | closing
  · cases endpoint : branch.endpoint <;> rw [endpoint] at opening <;> revert word <;> decide
  · exact stage.plain word within
  · revert word
    decide

theorem Plan.plain {plan : Plan} : ∀ word ∈ plan.words, ' ' ∉ word.toList := by
  have tail : ∀ word ∈ multiplexerWords, ' ' ∉ word.toList := by decide
  intro word member
  rcases List.mem_append.mp member with within | closing
  · obtain ⟨branch, -, within⟩ := List.mem_flatMap.mp within
    exact branch.plain word within
  · exact tail word closing

/-- The blank in front of each stage stands behind the word before it. -/
theorem Stage.join_spaced (stages : List Stage) :
    stages.flatMap (fun stage => (" ! " ++ stage.elementKind).toList) ++ [' '] =
      ' ' :: (stages.flatMap Stage.words).flatMap Plan.spaced := by
  induction stages with
  | nil => rfl
  | cons stage stages ih =>
      rw [List.flatMap_cons, List.append_assoc, ih]
      simp [Stage.words, Plan.spaced]

theorem Branch.toList_text (branch : Branch) :
    branch.text.toList = branch.words.flatMap Plan.spaced := by
  let source := "appsrc name=" ++ branch.endpoint.elementName ++ " format=time is-live=true"
  let stages := branch.stages.flatMap fun stage => (" ! " ++ stage.elementKind).toList
  let stageWords := (branch.stages.flatMap Stage.words).flatMap Plan.spaced
  let sinkWords := Plan.sinkWords.flatMap Plan.spaced
  have opening : source.toList ++ [' '] =
      (Plan.sourceWords branch.endpoint).flatMap Plan.spaced := by
    simp only [source]
    cases branch.endpoint <;> decide
  have closing : " ! mux. ".toList = [' '] ++ sinkWords := by decide
  have shifted : stages ++ [' '] = [' '] ++ stageWords := Stage.join_spaced branch.stages
  have parts : branch.text = source
      ++ String.join (branch.stages.map fun stage => " ! " ++ stage.elementKind)
      ++ " ! mux. " := rfl
  calc branch.text.toList = source.toList ++ stages ++ " ! mux. ".toList := by
        rw [parts, String.toList_append, String.toList_append, String.toList_join,
          List.flatMap_map]
    _ = source.toList ++ (stages ++ [' ']) ++ sinkWords := by
        rw [closing, ← List.append_assoc, List.append_assoc source.toList]
    _ = (source.toList ++ [' ']) ++ stageWords ++ sinkWords := by
        rw [shifted, ← List.append_assoc source.toList]
    _ = branch.words.flatMap Plan.spaced := by
        rw [opening, words, List.flatMap_append, List.flatMap_append]

theorem Plan.toList_text (plan : Plan) :
    plan.text.toList = plan.words.flatMap spaced ++ ("location=" ++ plan.location).toList := by
  have branches : plan.branches.flatMap (fun branch => branch.text.toList) =
      (plan.branches.flatMap Branch.words).flatMap spaced := by
    rw [List.flatMap_assoc]
    exact List.flatMap_congr fun branch _ => branch.toList_text
  have tail : "mp4mux name=mux ! filesink name=filesink location=".toList =
      multiplexerWords.flatMap spaced ++ "location=".toList := by decide
  rw [text, String.toList_append, String.toList_append, String.toList_join, List.flatMap_map,
    branches, tail, words, List.flatMap_append, String.toList_append]
  simp only [List.append_assoc]

namespace Plan

theorem wordsOf_text (plan : Plan) :
    wordsOf plan.text = plan.words ++ wordsOf ("location=" ++ plan.location) := by
  rw [wordsOf, toList_text, splitOn_spaced plan.plain, List.map_append, List.map_map, wordsOf]
  simp [Function.comp_def]

/-! ## Reading what was written -/

theorem endpointOfName?_elementName (endpoint : Endpoint) :
    endpointOfName? ("name=" ++ endpoint.elementName) = some endpoint := by
  cases endpoint <;> decide

theorem stageOfKind?_elementKind (stage : Stage) :
    stageOfKind? stage.elementKind = some stage := by
  cases stage <;> decide

theorem locationOf?_wordsOf (location : String) :
    locationOf? (wordsOf ("location=" ++ location)) = some location := by
  have whole : (" ".intercalate (wordsOf ("location=" ++ location))).toList =
      "location=".toList ++ location.toList := by
    rw [String.toList_intercalate, wordsOf, List.map_map]
    simp [Function.comp_def]
  rw [locationOf?, whole, List.isPrefixOf?_eq_some_iff_append_eq.mpr rfl, Option.map_some,
    String.ofList_toList]

theorem readBranches?_source (endpoint : Endpoint) (words : List String) :
    readBranches? (sourceWords endpoint ++ words) =
      (readStages? words).map fun rest => (⟨endpoint, rest.1⟩ :: rest.2.1, rest.2.2) := by
  cases read : readStages? words <;>
    simp [sourceWords, readBranches?, endpointOfName?_elementName, read]

theorem readStages?_stage (stage : Stage) (words : List String) :
    readStages? (stage.words ++ words) =
      (readStages? words).map fun rest => (stage :: rest.1, rest.2) := by
  -- The rule for the end of a branch comes first, so it has to be ruled out.
  have other : stage.elementKind ≠ "mux." := by cases stage <;> decide
  cases read : readStages? words <;>
    simp [Stage.words, readStages?, stageOfKind?_elementKind, read]

theorem readStages?_sink (words : List String) :
    readStages? (sinkWords ++ words) = (readBranches? words).map fun rest => ([], rest) := by
  cases read : readBranches? words <;> simp [sinkWords, readStages?, read]

theorem readBranches?_multiplexer (words : List String) :
    readBranches? (multiplexerWords ++ words) =
      (locationOf? words).map fun location => ([], location) := by
  cases read : locationOf? words <;> simp [multiplexerWords, readBranches?, read]

theorem readStages?_words {words : List String} {rest : List Route × String}
    (after : readBranches? words = some rest) (stages : List Stage) :
    readStages? (stages.flatMap Stage.words ++ (sinkWords ++ words)) = some (stages, rest) := by
  induction stages with
  | nil => rw [List.flatMap_nil, List.nil_append, readStages?_sink, after, Option.map_some]
  | cons stage stages ih =>
      rw [List.flatMap_cons, List.append_assoc, readStages?_stage, ih, Option.map_some]

theorem readBranches?_words {words : List String} {location : String}
    (last : locationOf? words = some location) (branches : List Branch) :
    readBranches? (branches.flatMap Branch.words ++ (multiplexerWords ++ words)) =
      some (branches.map Branch.route, location) := by
  -- A branch is read as soon as what stands behind its end can be read.
  induction branches with
  | nil =>
      rw [List.flatMap_nil, List.nil_append, readBranches?_multiplexer, last]
      rfl
  | cons branch branches ih =>
      rw [List.flatMap_cons, Branch.words]
      simp only [List.append_assoc]
      rw [readBranches?_source, readStages?_words ih]
      rfl

theorem readBranches?_text (plan : Plan) :
    readBranches? (wordsOf plan.text) = some (plan.branches.map Branch.route, plan.location) := by
  rw [wordsOf_text, words, List.append_assoc]
  exact readBranches?_words (locationOf?_wordsOf plan.location) plan.branches

theorem text_eq (plan : Plan) :
    plan.text = String.join ((plan.branches.map Branch.route).map Route.text)
      ++ "mp4mux name=mux ! filesink name=filesink location=" ++ plan.location := by
  rw [List.map_map]
  rfl

theorem text_eq_iff (plan other : Plan) :
    plan.text = other.text ↔
      plan.branches.map Branch.route = other.branches.map Branch.route ∧
        plan.location = other.location := by
  constructor
  · intro same
    have read := readBranches?_text plan
    rw [same, readBranches?_text, Option.some.injEq, Prod.mk.injEq] at read
    exact ⟨read.1.symm, read.2.symm⟩
  · rintro ⟨routes, location⟩
    rw [plan.text_eq, other.text_eq, routes, location]

/-! ## Layouts -/

/-- The layout that branches were made for: each codec has a route of its own. -/
def layoutOf (routes : List Route) : Layout :=
  { video := [VideoCodec.h264, .h265].find? fun codec => (Branch.ofVideo codec).route ∈ routes
    audio := [AudioCodec.aacEld, .alac].find? fun codec =>
      (Branch.ofAudio {} codec).route ∈ routes }

def read? (text : String) : Option (Layout × String) :=
  (readBranches? (wordsOf text)).map fun rest => (layoutOf rest.1, rest.2)

theorem layoutOf_branchesOf (layout : Layout) (format : AudioFormat) :
    layoutOf ((branchesOf layout format).map Branch.route) = layout := by
  obtain ⟨video, audio⟩ := layout
  rcases video with - | video <;> rcases audio with - | audio
  · rfl
  · cases audio <;> rfl
  · cases video <;> rfl
  · cases video <;> cases audio <;> rfl

theorem routes_of_format (layout : Layout) (format otherFormat : AudioFormat) :
    (branchesOf layout format).map Branch.route =
      (branchesOf layout otherFormat).map Branch.route := by
  have stages (codec : AudioCodec) :
      (Branch.ofAudio format codec).route = (Branch.ofAudio otherFormat codec).route := by
    cases codec <;> rfl
  obtain ⟨video, audio⟩ := layout
  cases audio <;> simp [branchesOf, stages]

theorem routes_eq_iff (layout other : Layout) (format otherFormat : AudioFormat) :
    (branchesOf layout format).map Branch.route =
      (branchesOf other otherFormat).map Branch.route ↔ layout = other := by
  constructor
  · intro same
    have layouts := congrArg layoutOf same
    rwa [layoutOf_branchesOf, layoutOf_branchesOf] at layouts
  · rintro rfl
    exact routes_of_format layout format otherFormat

/-- The text of a graph's plan is one branch for each endpoint and the file behind the multiplexer.
It can be read from the left, whatever the file's name looks like, so it tells layout and file. -/
theorem text_identifies_graph {layout other : Layout} (nonempty : layout.isEmpty = false)
    (otherNonempty : other.isEmpty = false) (format otherFormat : AudioFormat)
    (location otherLocation : String) :
    ∃ plan otherPlan : Plan,
      ofLayout layout format location = .ok plan ∧
      ofLayout other otherFormat otherLocation = .ok otherPlan ∧
      (plan.text = otherPlan.text ↔ layout = other ∧ location = otherLocation) ∧
      read? plan.text = some (layout, location) ∧
      ∃ routes : List Route, routes.map Route.endpoint = layout.endpoints ∧
        plan.text =
          String.join (routes.map fun route =>
            "appsrc name=" ++ route.endpoint.elementName ++ " format=time is-live=true"
              ++ String.join (route.stages.map fun stage => " ! " ++ stage.elementKind)
              ++ " ! mux. ")
            ++ "mp4mux name=mux ! filesink name=filesink location=" ++ location := by
  let plan : Plan := { layout, branches := branchesOf layout format, location }
  let otherPlan : Plan :=
    { layout := other, branches := branchesOf other otherFormat, location := otherLocation }
  refine ⟨plan, otherPlan, ofLayout_of_nonempty nonempty format location,
    ofLayout_of_nonempty otherNonempty otherFormat otherLocation, ?_, ?_,
    plan.branches.map Branch.route, ?_, plan.text_eq⟩
  · rw [text_eq_iff, routes_eq_iff]
  · rw [read?, readBranches?_text, Option.map_some, layoutOf_branchesOf]
  · rw [List.map_map]
    exact branchesOf_endpoints layout format

theorem text_identifies_graph_of_imitation :
    let layout : Layout := { video := some .h264 }
    let other : Layout := { video := some .h264, audio := some .alac }
    let tail := "mp4mux name=mux ! filesink name=filesink location="
    let location := "a ! mux. appsrc name=audio_src format=time is-live=true ! queue ! mux. "
      ++ tail ++ "b"
    layout.isEmpty = false ∧ other.isEmpty = false ∧
      ∃ plan otherPlan : Plan,
        ofLayout layout {} location = .ok plan ∧ ofLayout other {} "b" = .ok otherPlan ∧
        plan.text ≠ otherPlan.text ∧ read? plan.text = some (layout, location) := by
  intro layout other tail location
  have nonempty : layout.isEmpty = false := rfl
  have otherNonempty : other.isEmpty = false := rfl
  obtain ⟨plan, otherPlan, planned, otherPlanned, same_iff, read, -⟩ :=
    text_identifies_graph nonempty otherNonempty {} {} location "b"
  have differ : layout ≠ other := by decide
  exact ⟨nonempty, otherNonempty, plan, otherPlan, planned, otherPlanned,
    fun same => differ (same_iff.mp same).1, read⟩

end Plan

end StreamRecorder
