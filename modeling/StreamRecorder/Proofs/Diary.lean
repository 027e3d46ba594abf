import Mathlib
import StreamRecorder.Timeline

namespace StreamRecorder.Timeline

inductive Call where
  | video (timestamp : UInt64)
  | audio (timestamp : UInt64) (expectsVideo : Bool)

namespace Call

def timestamp : Call → UInt64
  | video timestamp | audio timestamp _ => timestamp

def video? : Call → Option UInt64
  | video timestamp => some timestamp
  | audio _ _ => none

def audio? : Call → Option UInt64
  | video _ => none
  | audio timestamp _ => some timestamp

end Call

def answer (timeline : Timeline) : Call → AudioStamp × Timeline
  | .video timestamp =>
      (⟨(timeline.stampVideo timestamp).1, none⟩, (timeline.stampVideo timestamp).2)
  | .audio timestamp expectsVideo => timeline.stampAudio timestamp expectsVideo

inductive Act where
  | stamp (call : Call)
  | reset

structure Diary where
  timeline : Timeline := {}
  entries : List (Call × AudioStamp) := []

namespace Diary

def calls (diary : Diary) : List Call :=
  diary.entries.map Prod.fst

def act (diary : Diary) : Act → Diary
  | .stamp call =>
      { timeline := (diary.timeline.answer call).2
        entries := diary.entries ++ [(call, (diary.timeline.answer call).1)] }
  | .reset => { timeline := diary.timeline.reset }

def ofActs (acts : List Act) : Diary :=
  acts.foldl act {}

end Diary

/-! ## What is read off the calls -/

def firstTime (calls : List Call) : Option UInt64 :=
  calls.head?.map Call.timestamp

def firstVideoTime (calls : List Call) : Option UInt64 :=
  calls.findSome? Call.video?

def firstAudioTime (calls : List Call) : Option UInt64 :=
  calls.findSome? Call.audio?

def Decided (calls : List Call) : Prop :=
  ∃ earlier timestamp expectsVideo later,
    calls = earlier ++ .audio timestamp expectsVideo :: later ∧
      (expectsVideo = false ∨ ∃ video, .video video ∈ earlier)

structure Remembers (timeline : Timeline) (calls : List Call) : Prop where
  origin : timeline.origin = firstTime calls
  firstVideo : timeline.firstVideo = firstVideoTime calls
  firstAudio : timeline.firstAudio = firstAudioTime calls
  audioStarted : timeline.audioStarted = true ↔ Decided calls

structure Answered (earlier : List Call) (call : Call) (stamp : AudioStamp) : Prop where
  placed : ∀ start ∈ firstTime (earlier ++ [call]), stamp.presentation =
    if start ≤ call.timestamp then call.timestamp - start else 0
  padded : ∀ gap, stamp.silence = some gap ↔
    ∃ timestamp video, call = .audio timestamp true ∧ firstAudioTime earlier = none ∧
      firstVideoTime earlier = some video ∧ video < timestamp ∧ gap = timestamp - video
  flush : ∀ gap ∈ stamp.silence,
    gap = stamp.presentation ∧ firstVideoTime earlier = firstTime (earlier ++ [call])

structure Settles (before after : Timeline) : Prop where
  origin : ∀ timestamp ∈ before.origin, after.origin = some timestamp
  firstVideo : ∀ timestamp ∈ before.firstVideo, after.firstVideo = some timestamp
  firstAudio : ∀ timestamp ∈ before.firstAudio, after.firstAudio = some timestamp
  audioStarted : before.audioStarted = true → after.audioStarted = true

variable {timeline : Timeline} {calls : List Call}

theorem firstTime_concat (calls : List Call) (call : Call) :
    firstTime (calls ++ [call]) = some ((firstTime calls).getD call.timestamp) := by
  cases calls <;> rfl

theorem firstVideoTime_concat (calls : List Call) (call : Call) :
    firstVideoTime (calls ++ [call]) = (firstVideoTime calls).or call.video? := by
  simp [firstVideoTime, List.findSome?_append]

theorem firstAudioTime_concat (calls : List Call) (call : Call) :
    firstAudioTime (calls ++ [call]) = (firstAudioTime calls).or call.audio? := by
  simp [firstAudioTime, List.findSome?_append]

theorem firstVideoTime_isSome : (firstVideoTime calls).isSome ↔ ∃ video, .video video ∈ calls := by
  rw [firstVideoTime, List.findSome?_isSome_iff]
  constructor
  · rintro ⟨call, member, shown⟩
    cases call with
    | video timestamp => exact ⟨timestamp, member⟩
    | audio timestamp expectsVideo => cases shown
  · rintro ⟨video, member⟩
    exact ⟨.video video, member, rfl⟩

theorem firstVideoTime_of_unheard (unheard : firstAudioTime calls = none) :
    firstVideoTime calls = firstTime calls := by
  -- Before any audio the first call of all is the first video call.
  cases calls with
  | nil => rfl
  | cons call calls =>
      cases call with
      | video timestamp => rfl
      | audio timestamp expectsVideo => cases unheard

theorem decided_concat (calls : List Call) (call : Call) :
    Decided (calls ++ [call]) ↔ Decided calls ∨
      ∃ timestamp expectsVideo, call = .audio timestamp expectsVideo ∧
        (expectsVideo = false ∨ ∃ video, .video video ∈ calls) := by
  constructor
  · rintro ⟨earlier, timestamp, expectsVideo, later, split, decides⟩
    cases later using List.reverseRecOn with
    | nil =>
        obtain ⟨rfl, same⟩ := List.append_inj' split rfl
        exact .inr ⟨timestamp, expectsVideo, List.singleton_inj.mp same, decides⟩
    | append_singleton later last =>
        have longer : calls ++ [call] = (earlier ++ .audio timestamp expectsVideo :: later) ++ [last] := by
          simpa using split
        obtain ⟨rfl, -⟩ := List.append_inj' longer rfl
        exact .inl ⟨earlier, timestamp, expectsVideo, later, rfl, decides⟩
  · rintro (⟨earlier, timestamp, expectsVideo, later, rfl, decides⟩ |
      ⟨timestamp, expectsVideo, rfl, decides⟩)
    · exact ⟨earlier, timestamp, expectsVideo, later ++ [call], by simp, decides⟩
    · exact ⟨calls, timestamp, expectsVideo, [], rfl, decides⟩

/-! ## One call -/

theorem Remembers.start : Remembers {} [] := by
  refine ⟨rfl, rfl, rfl, ?_⟩
  constructor
  · intro started
    cases started
  · rintro ⟨earlier, timestamp, expectsVideo, later, split, -⟩
    cases earlier <;> cases split

theorem Remembers.decides (remembers : timeline.Remembers calls) (timestamp : UInt64)
    (expectsVideo : Bool) :
    (timeline.stampAudio timestamp expectsVideo).2.audioStarted = true ↔
      Decided (calls ++ [.audio timestamp expectsVideo]) := by
  have last : (∃ time expects, Call.audio timestamp expectsVideo = .audio time expects ∧
      (expects = false ∨ ∃ video, .video video ∈ calls)) ↔
        (expectsVideo = false ∨ ∃ video, .video video ∈ calls) := by
    constructor
    · rintro ⟨time, expects, same, decides⟩
      cases same
      exact decides
    · exact fun decides => ⟨timestamp, expectsVideo, rfl, decides⟩
  rw [decided_concat, last, ← firstVideoTime_isSome, ← remembers.firstVideo, ← remembers.audioStarted]
  simp only [stampAudio, anchored, decidesSilence]
  cases timeline.audioStarted <;> cases expectsVideo <;> simp

theorem Remembers.answer (remembers : timeline.Remembers calls) (call : Call) :
    (timeline.answer call).2.Remembers (calls ++ [call]) := by
  have origin : some (timeline.origin.getD call.timestamp) = firstTime (calls ++ [call]) := by
    rw [firstTime_concat, remembers.origin]
  cases call with
  | video timestamp =>
      refine ⟨origin, ?_, ?_, ?_⟩
      · rw [firstVideoTime_concat, ← remembers.firstVideo]
        cases seen : timeline.firstVideo <;> simp [Timeline.answer, stampVideo, anchored, seen, Call.video?]
      · rw [firstAudioTime_concat, ← remembers.firstAudio]
        exact Option.or_none.symm
      · rw [decided_concat]
        exact remembers.audioStarted.trans (by simp)
  | audio timestamp expectsVideo =>
      refine ⟨origin, ?_, ?_, remembers.decides timestamp expectsVideo⟩
      · rw [firstVideoTime_concat, ← remembers.firstVideo]
        exact Option.or_none.symm
      · rw [firstAudioTime_concat, ← remembers.firstAudio]
        cases heard : timeline.firstAudio <;> simp [Timeline.answer, stampAudio, anchored, heard, Call.audio?]

theorem Remembers.placed (remembers : timeline.Remembers calls) (call : Call) :
    ∀ start ∈ firstTime (calls ++ [call]), (timeline.answer call).1.presentation =
      if start ≤ call.timestamp then call.timestamp - start else 0 := by
  intro start first
  have relative : (timeline.answer call).1.presentation = timeline.relative call.timestamp := by
    cases call <;> rfl
  rw [firstTime_concat, ← remembers.origin, Option.mem_some_iff] at first
  subst first
  rw [relative, Timeline.relative]
  by_cases early : call.timestamp < timeline.origin.getD call.timestamp
  · rw [if_pos early, if_neg (UInt64.not_le.mpr early)]
  · rw [if_neg early, if_pos (UInt64.not_lt.mp early)]

theorem Remembers.undecided (remembers : timeline.Remembers calls)
    (unheard : firstAudioTime calls = none) : timeline.audioStarted = false := by
  rw [← Bool.not_eq_true, remembers.audioStarted]
  rintro ⟨earlier, timestamp, expectsVideo, later, rfl, -⟩
  simp [firstAudioTime, Call.audio?] at unheard

theorem Remembers.padded (remembers : timeline.Remembers calls) (call : Call) (gap : UInt64) :
    (timeline.answer call).1.silence = some gap ↔
      ∃ timestamp video, call = .audio timestamp true ∧ firstAudioTime calls = none ∧
        firstVideoTime calls = some video ∧ video < timestamp ∧ gap = timestamp - video := by
  rw [← remembers.firstVideo, ← remembers.firstAudio]
  cases call with
  | video timestamp => simp [Timeline.answer]
  | audio timestamp expectsVideo =>
      have silence : (timeline.answer (.audio timestamp expectsVideo)).1.silence =
          if timeline.decidesSilence expectsVideo && expectsVideo then timeline.gapBefore timestamp
          else none := rfl
      rw [silence]
      cases heard : timeline.firstAudio with
      | some audio =>
          have unfilled : timeline.gapBefore timestamp = none := by
            rw [gapBefore, heard]
            cases timeline.firstVideo <;> rfl
          simp [unfilled]
      | none =>
          -- Without audio so far the decision is open, and only the flag and the video say if it is made.
          have undecided := remembers.undecided (remembers.firstAudio.symm.trans heard)
          cases seen : timeline.firstVideo with
          | none => cases expectsVideo <;> simp [decidesSilence, undecided, seen]
          | some video =>
              cases expectsVideo with
              | false => simp
              | true => simp [decidesSilence, undecided, gapBefore, seen, heard, eq_comm]

theorem Remembers.answered (remembers : timeline.Remembers calls) (call : Call) :
    Answered calls call (timeline.answer call).1 := by
  refine ⟨remembers.placed call, remembers.padded call, ?_⟩
  intro gap asked
  obtain ⟨timestamp, video, rfl, unheard, seen, late, rfl⟩ := (remembers.padded call gap).mp asked
  have start : firstTime (calls ++ [.audio timestamp true]) = some video := by
    rw [firstTime_concat, ← firstVideoTime_of_unheard unheard, seen]
    rfl
  refine ⟨?_, seen.trans start.symm⟩
  rw [remembers.placed _ video start]
  exact (if_pos (UInt64.le_of_lt late)).symm

/-! ## All calls -/

theorem Settles.refl (timeline : Timeline) : Settles timeline timeline :=
  ⟨fun _ set => set, fun _ set => set, fun _ set => set, fun set => set⟩

theorem Settles.trans {before between after : Timeline} (first : Settles before between)
    (second : Settles between after) : Settles before after where
  origin timestamp set := second.origin timestamp (first.origin timestamp set)
  firstVideo timestamp set := second.firstVideo timestamp (first.firstVideo timestamp set)
  firstAudio timestamp set := second.firstAudio timestamp (first.firstAudio timestamp set)
  audioStarted set := second.audioStarted (first.audioStarted set)

theorem answer_settles (timeline : Timeline) (call : Call) :
    Settles timeline (timeline.answer call).2 := by
  have kept {field : Option UInt64} (fresh timestamp : UInt64) (set : timestamp ∈ field) :
      some (field.getD fresh) = some timestamp := by
    rw [Option.mem_def.mp set, Option.getD_some]
  cases call with
  | video fresh => exact ⟨kept fresh, kept fresh, fun _ set => set, fun set => set⟩
  | audio fresh expectsVideo =>
      refine ⟨kept fresh, fun _ set => set, kept fresh, ?_⟩
      intro started
      simp [Timeline.answer, stampAudio, anchored, started]

namespace Diary

structure Faithful (diary : Diary) : Prop where
  remembers : diary.timeline.Remembers diary.calls
  answered : ∀ earlier call stamp later, diary.entries = earlier ++ (call, stamp) :: later →
    Answered (earlier.map Prod.fst) call stamp
  silences : diary.entries.countP (·.2.silence.isSome) ≤
    if (firstAudioTime diary.calls).isSome then 1 else 0

variable {diary : Diary}

theorem Faithful.start : Faithful {} :=
  ⟨Remembers.start, by simp, by simp⟩

theorem Faithful.stamp (faithful : diary.Faithful) (call : Call) : (diary.act (.stamp call)).Faithful := by
  have entered : (diary.act (.stamp call)).calls = diary.calls ++ [call] := by
    simp [calls, act]
  have answered := faithful.remembers.answered call
  refine ⟨?_, ?_, ?_⟩
  · rw [entered]
    exact faithful.remembers.answer call
  · intro earlier other stamp later split
    cases later using List.reverseRecOn with
    | nil =>
        obtain ⟨rfl, same⟩ := List.append_inj' split rfl
        cases List.singleton_inj.mp same
        exact answered
    | append_singleton later last =>
        have longer : diary.entries ++ [(call, (diary.timeline.answer call).1)] =
            (earlier ++ (other, stamp) :: later) ++ [last] := by
          rw [List.append_assoc]
          exact split
        exact faithful.answered earlier other stamp later (List.append_inj' longer rfl).1
  · have bound := faithful.silences
    rw [entered, firstAudioTime_concat]
    simp only [act, List.countP_append, List.countP_singleton]
    cases asked : (diary.timeline.answer call).1.silence with
    | none =>
        cases heard : firstAudioTime diary.calls with
        | none =>
            have none : diary.entries.countP (·.2.silence.isSome) = 0 := by simpa [heard] using bound
            simp [none]
        | some audio => simpa [heard] using bound
    | some gap =>
        obtain ⟨timestamp, video, rfl, unheard, -⟩ := (answered.padded gap).mp asked
        rw [unheard] at bound ⊢
        simpa [Call.audio?] using bound

theorem ofActs_concat (acts : List Act) (last : Act) :
    ofActs (acts ++ [last]) = (ofActs acts).act last := by
  simp [ofActs]

theorem ofActs_faithful (acts : List Act) : (ofActs acts).Faithful := by
  induction acts using List.reverseRecOn with
  | nil => exact Faithful.start
  | append_singleton acts last ih =>
      rw [ofActs_concat]
      cases last with
      | stamp call => exact ih.stamp call
      | reset => exact Faithful.start

theorem ofActs_settles (acts : List Act) (more : List Call) :
    Settles (ofActs acts).timeline (ofActs (acts ++ more.map .stamp)).timeline := by
  induction more using List.reverseRecOn with
  | nil => simpa using Settles.refl _
  | append_singleton more call ih =>
      rw [List.map_append, ← List.append_assoc, List.map_singleton, ofActs_concat]
      exact ih.trans (answer_settles _ call)

/-- Since it was made or last reset, a timeline is what its calls make it, and so are its answers. -/
theorem diary_explains_timeline (acts : List Act) :
    let diary := ofActs acts
    diary.timeline.Remembers diary.calls ∧
      (∀ earlier call stamp later, diary.entries = earlier ++ (call, stamp) :: later →
        Answered (earlier.map Prod.fst) call stamp) ∧
      diary.entries.countP (·.2.silence.isSome) ≤ 1 ∧
      ∀ more : List Call,
        Settles diary.timeline (ofActs (acts ++ more.map .stamp)).timeline := by
  intro diary
  have faithful : diary.Faithful := ofActs_faithful acts
  refine ⟨faithful.remembers, faithful.answered, ?_, ofActs_settles acts⟩
  exact faithful.silences.trans (by split <;> simp)

end Diary

end StreamRecorder.Timeline
