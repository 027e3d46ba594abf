import StreamRecorder.Config.File
import StreamRecorder.Proofs.ConfigFields
import StreamRecorder.Proofs.Written

namespace StreamRecorder

open Json

namespace Config

inductive Reworked : Member → Member → Prop
  | same (member : Member) : Reworked member member
  | audioFormat {key : List Piece} {members changed : List Member}
      (named : Piece.string? key = some Field.audioFormat.key)
      (padded : Padded AudioFormat.Field.key members changed) :
      Reworked (key, .object members) (key, .object changed)

/-- The members of a configuration and of its audio format in another order, each among others that
name no field there. -/
def Rearranged (members changed : List Member) : Prop :=
  ∃ reworked, List.Forall₂ Reworked members reworked ∧ Padded Field.key reworked changed

theorem Reworked.step {member changed : Member} (reworked : Reworked member changed) (draft : Draft) :
    shape.step draft changed = shape.step draft member := by
  cases reworked with
  | same => rfl
  | @audioFormat key members changed named padded =>
      have format : AudioFormat.shape.record? (.object changed) =
          AudioFormat.shape.record? (.object members) := by
        rw [Shape.record?, Shape.record?, AudioFormat.Draft.follows_slots.gather_padded padded]
      have field (value : Value) :
          shape.field draft Field.audioFormat.key value = Draft.slots.fill .audioFormat draft value :=
        Draft.follows_slots.field_key .audioFormat draft value
      have meaning : Draft.slots.meaning .audioFormat (.object changed) =
          Draft.slots.meaning .audioFormat (.object members) := format
      simp only [Shape.step, named, Option.bind_some, field, Slots.fill, meaning]

theorem gather_of_reworked {members reworked : List Member}
    (forall₂ : List.Forall₂ Reworked members reworked) (draft : Draft) :
    shape.gather draft reworked = shape.gather draft members := by
  induction forall₂ generalizing draft with
  | nil => rfl
  | cons member _ ih => simp only [Shape.gather_cons, member.step, ih]

theorem record?_of_rearranged {members changed : List Member} (rearranged : Rearranged members changed) :
    shape.record? (.object changed) = shape.record? (.object members) := by
  obtain ⟨reworked, forall₂, padded⟩ := rearranged
  rw [Shape.record?, Shape.record?, Draft.follows_slots.gather_padded padded, gather_of_reworked forall₂]

theorem toOption_ofJson {text : String} {value : Value} (spells : value.Spells text) :
    (ofJson text).toOption = shape.record? value := by
  obtain ⟨body, blanks, written, laid, blank⟩ := spells
  have fenced : Fenced blanks := fun c first => .inl (blank c (List.mem_of_mem_head? first))
  have nothing : skipBlanks blanks = [] := by
    rw [← List.append_nil blanks, skipBlanks_of_blanks blank]
    rfl
  have read := Shape.reads_reader Draft.follows_slots.steadyFields value body blanks laid fenced
  rw [← written] at read
  unfold ofJson
  rcases taken_cases read with ⟨none, fault, refused⟩ | ⟨reading, read, some, left⟩
  · rw [refused, none]
    rfl
  · rw [read, some]
    simp [bind, Except.bind, pure, Except.pure, Except.toOption, left, nothing]

theorem ofEntry_file (name text : String) : ofEntry name (.file text.toUTF8) = ofText text := by
  have decoded : String.fromUTF8? text.toUTF8 = some text := dif_pos text.isValidUTF8
  simp only [ofEntry, FileEntry.text, decoded]
  rfl

theorem load_of_toOption_ofJson {text : String} {config : Config}
    (read : (ofJson text).toOption = some config) (name : String) :
    load name (.file text.toUTF8) =
      match config.validate with
      | .ok () => (.ok config, [.configLoaded name])
      | .error fault => (.error (.config fault), []) := by
  rw [load, ofEntry_file, ofText]
  cases found : ofJson text with
  | error fault => simp [found, Except.toOption] at read
  | ok same =>
      obtain rfl : same = config := by simpa [found, Except.toOption] using read
      simp only [Except.mapError, bind, Except.bind]
      cases same.validate <;> rfl

theorem toOption_ofJson_of_load {name text : String} {config : Config}
    (loaded : (load name (.file text.toUTF8)).1 = .ok config) :
    (ofJson text).toOption = some config ∧ config.validate = .ok () := by
  cases found : ofJson text with
  | error fault =>
      rw [load, ofEntry_file, ofText, found] at loaded
      cases loaded
  | ok same =>
      have read : (ofJson text).toOption = some same := by rw [found]; rfl
      rw [load_of_toOption_ofJson read] at loaded
      split at loaded
      · rename_i valid
        cases loaded
        exact ⟨rfl, valid⟩
      · cases loaded

/-- If an object text is loaded, so is every text of its members rearranged, as the same configuration.
If its members bind some of the fields, it is loaded with the defaults of all others. -/
theorem load_of_members {members : List Member} {text : String}
    (spells : (Value.object members).Spells text) (name : String) :
    (∀ config, (load name (.file text.toUTF8)).1 = .ok config →
      ∀ changed rewritten other, Rearranged members changed → (Value.object changed).Spells rewritten →
        load other (.file rewritten.toUTF8) = (.ok config, [.configLoaded other])) ∧
    ∀ given fields, fields.Nodup → List.Forall₂ (Binds given) fields members →
      (given.only fields).validate = .ok () →
        load name (.file text.toUTF8) = (.ok (given.only fields), [.configLoaded name]) := by
  constructor
  -- Both texts are read as the same record, since reading depends on the members alone.
  · intro config loaded changed rewritten other rearranged spellsChanged
    obtain ⟨read, valid⟩ := toOption_ofJson_of_load loaded
    have same : (ofJson rewritten).toOption = some config := by
      rw [toOption_ofJson spellsChanged, record?_of_rearranged rearranged, ← toOption_ofJson spells, read]
    rw [load_of_toOption_ofJson same, valid]
  · intro given fields distinct binds valid
    have read : (ofJson text).toOption = some (given.only fields) := by
      rw [toOption_ofJson spells, record?_of_binds distinct binds]
    rw [load_of_toOption_ofJson read, valid]

theorem load_of_members_of_audio_format :
    let config : Config := { audioFormat := { sampleRate := 8000, channels := 1, bitsPerSample := 24 } }
    let text := "\x7b\"audioFormat\":\x7b\"channels\":1,\"sampleRate\":8000,\"bitsPerSample\":24\x7d\x7d"
    let rewritten := " \x7b \"note\" : [ [ null , -1.5e+3 ] ] , \"audioFormat\" :" ++
      " \x7b \"x\" : \x7b \x7d , \"bitsPerSample\" : 24 , \"sampleRate\" : 8000 , \"channels\" : 1 \x7d \x7d\n"
    load "one.json" (.file text.toUTF8) = (.ok config, [.configLoaded "one.json"]) ∧
      load "two.json" (.file rewritten.toUTF8) = (.ok config, [.configLoaded "two.json"]) := by
  intro config text rewritten
  let format : List Member :=
    [(Piece.ofText "channels", .number (.ofNat 1)), (Piece.ofText "sampleRate", .number (.ofNat 8000)),
     (Piece.ofText "bitsPerSample", .number (.ofNat 24))]
  let other : Member := (Piece.ofText "x", .object [])
  let power : Power :=
    { mark := 'e', sign := ['+'], digits := ['3'], marked := by decide, signed := by decide,
      nonempty := by simp, decimal := by simp }
  let numeral : Numeral :=
    { negative := true, whole := ['1'], fraction := ['5'], power := some power, nonempty := by simp,
      decimal := by simp, unpadded := by simp }
  let note : Member := (Piece.ofText "note", .array [.array [.word .null, .number numeral]])
  let key := Piece.ofText "audioFormat"
  have blank : Blanks [' '] := by simp [Blanks, isBlank]
  have spells : (Value.object [(key, .object format)]).Spells text :=
    ⟨_, [], by simp only [text]; rfl, laid_flatten _, by simp [Blanks]⟩
  have spread : (Value.object [note, (key, .object (format ++ [other]).reverse)]).Spells rewritten :=
    ⟨_, ['\n'], by simp only [rewritten, String.toList_append]; rfl, laid_spread blank _,
      by simp [Blanks, isBlank]⟩
  have padded : Padded AudioFormat.Field.key format (format ++ [other]).reverse := by
    refine ⟨[other], ?_, List.reverse_perm _⟩
    intro member here
    obtain rfl := List.mem_singleton.mp here
    exact ⟨"x", Piece.string?_ofText _, by intro field; cases field <;> decide⟩
  have rearranged : Rearranged [(key, .object format)]
      [note, (key, .object (format ++ [other]).reverse)] := by
    refine ⟨[(key, .object (format ++ [other]).reverse)],
      .cons (.audioFormat (Piece.string?_ofText _) padded) .nil, [note], ?_,
      List.reverse_perm [_, note]⟩
    intro member here
    obtain rfl := List.mem_singleton.mp here
    exact ⟨"note", Piece.string?_ofText _, by intro field; cases field <;> decide⟩
  have amounts : List.Forall₂ config.audioFormat.Binds [.channels, .sampleRate, .bitsPerSample] format := by
    refine .cons ?_ (.cons ?_ (.cons ?_ .nil)) <;>
      exact ⟨Piece.string?_ofText _, _, rfl, Numeral.ofNat_denotes _⟩
  have binds : List.Forall₂ config.Binds [.audioFormat] [(key, .object format)] :=
    .cons ⟨Piece.string?_ofText _, .audioFormat (by decide) amounts⟩ .nil
  obtain ⟨changes, bound⟩ := load_of_members spells "one.json"
  have same : config.only [.audioFormat] = config := by simp [only, config]
  have loaded := bound config [.audioFormat] (by decide) binds (by simp only [same, config]; rfl)
  exact ⟨loaded, changes config (congrArg Prod.fst loaded) _ rewritten "two.json" rearranged spread⟩

end Config

namespace AudioFormat

def members (format : AudioFormat) : List Member :=
  Field.all.map fun field => (Piece.ofText field.key, .number (.ofNat (format.amount field)))

theorem writes_json (format : AudioFormat) : Writes format.json (.object format.members) := by
  apply writes_object
  refine .cons ?_ (.cons ?_ (.cons ?_ .nil)) <;> exact writesMember_member _ (writes_number _)

theorem binds_members (format : AudioFormat) : List.Forall₂ format.Binds Field.all format.members := by
  rw [members, List.forall₂_map_right_iff, List.forall₂_same]
  exact fun field _ => ⟨Piece.string?_ofText _, _, rfl, Numeral.ofNat_denotes _⟩

end AudioFormat

namespace Config

def written (config : Config) : Field → Value
  | .outputTemplate => .string (Piece.ofText config.outputTemplate)
  | .audioEnabled => .word (.boolean config.audioEnabled)
  | .videoEnabled => .word (.boolean config.videoEnabled)
  | .flushTimeout => .number (.ofNat config.flushTimeout.toNat)
  | .audioFormat => .object (config.audioFormat.members)

def members (config : Config) : List Member :=
  Field.all.map fun field => (Piece.ofText field.key, config.written field)

theorem writes_json (config : Config) : Writes config.json (.object config.members) := by
  have format := config.audioFormat.writes_json
  apply writes_object
  refine .cons (writesMember_member _ (writes_quote _)) (.cons (writesMember_member _ (writes_boolean _))
    (.cons (writesMember_member _ (writes_boolean _)) (.cons (writesMember_member _ (writes_number _))
      (.cons (writesMember_member _ format) .nil))))

theorem binds_members (config : Config) : List.Forall₂ config.Binds Field.all config.members := by
  rw [members, List.forall₂_map_right_iff, List.forall₂_same]
  intro field _
  refine ⟨Piece.string?_ofText _, ?_⟩
  cases field with
  | outputTemplate => exact .outputTemplate (Piece.string?_ofText _)
  | audioEnabled => exact .audioEnabled
  | videoEnabled => exact .videoEnabled
  | flushTimeout => exact .flushTimeout (Numeral.ofNat_denotes _)
  | audioFormat => exact .audioFormat (.refl _) config.audioFormat.binds_members

theorem toOption_ofJson_json (config : Config) : (ofJson config.json).toOption = some config := by
  rw [toOption_ofJson config.writes_json.spells, record?_of_binds (by decide) config.binds_members,
    only_all]

/-- A configuration is loaded from its own text, or refused for what its validation says. -/
theorem load_json :
    (∀ (config : Config) (name : String), load name (.file config.json.toUTF8) =
      match config.validate with
      | .ok () => (.ok config, [.configLoaded name])
      | .error fault => (.error (.config fault), [])) ∧
    Function.Injective json := by
  constructor
  · intro config name
    exact load_of_toOption_ofJson config.toOption_ofJson_json name
  · intro config other same
    have read := config.toOption_ofJson_json
    rw [same, other.toOption_ofJson_json] at read
    exact (Option.some.inj read).symm

end Config

end StreamRecorder
