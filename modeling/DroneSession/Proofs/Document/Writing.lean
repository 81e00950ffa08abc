import DroneSession.Document.Mission
import DroneSession.Document.Settings
import DroneSession.Proofs.Document.Numeral
import DroneSession.Proofs.Yaml.Answering
import DroneSession.Proofs.Yaml.Assembling
import Mathlib.Data.List.Nodup

namespace DroneSession

/-!
# Written missions and settings

All documents of missions and settings are legible, whatever texts and numbers they hold: their
names are plain, and each value is written in a form that stands for it.
-/

namespace Document

open Yaml (Node styleOf IsKey stands_styleOf)
open Yaml.Node (Legible Keyed)
open Yaml.Decoder (present)

/-! ## Names -/

/-- The keys of missions and settings. -/
def names : List String :=
  [ "type", "value", "target", "can_be_obtained",
    "label", "duration_ms", "action", "intents", "early_exit", "objectives",
    "autopilot", "tick_interval_ms", "playback", "rate", "video", "pixel_layout",
    "resync_on_keyframe", "telemetry", "ui_rate", "logging", "filter" ]

/-- Every key of missions and settings can be written plainly. -/
theorem styleOf_of_mem_names : ∀ name ∈ names, styleOf name = .plain := by
  decide +kernel

/-- Every key of missions and settings is short enough to be a key of a mapping. -/
theorem isKey_of_mem_names
    {name : String}
    (known : name ∈ names) :
    IsKey name := by
  have short :
      ∀ name ∈ names, Yaml.encodedLength name.toList ≤ Yaml.Lexer.longestKey := by
    decide +kernel
  have stands := stands_styleOf name
  rw [styleOf_of_mem_names name known] at stands
  cases stands with
  | plain isPlain => exact ⟨isPlain, short name known⟩

/-- A key is written as it is. -/
theorem ofText_of_mem_names
    {name : String}
    (known : name ∈ names) :
    Node.ofText name = .ofPlain name := by
  rw [Node.ofText, styleOf_of_mem_names name known]
  rfl

/-- A record with known names has them as its keys. -/
theorem writeRecord_eq
    {entries : List (String × Node)}
    (known : ∀ entry ∈ entries, entry.1 ∈ names) :
    writeRecord entries = .record entries := by
  have sameKeys :
      (entries.map fun entry => (Node.ofText entry.1, entry.2)) =
        entries.map fun entry => (Node.ofPlain entry.1, entry.2) := by
    refine List.map_congr_left fun entry member => ?_
    rw [ofText_of_mem_names (known entry member)]
  exact congrArg (Node.mapping none) sameKeys

/-! ## Values -/

/-- Any text is written in a style in which it stands for itself. -/
theorem legible_ofText (text : String) : Legible (.ofText text) :=
  .scalar (stands_styleOf text)

/-- A single is written as plain text. -/
theorem legible_writeSingle (value : Float32) : Legible (writeSingle value) :=
  .scalar (.plain (isPlain_write singleLayout _ _ rfl rfl))

/-- A double is written as plain text. -/
theorem legible_writeDouble (value : Float) : Legible (writeDouble value) :=
  .scalar (.plain (isPlain_write doubleLayout _ _ rfl rfl))

/-- A whole number is written as plain text. -/
theorem legible_writeWhole (value : Nat) : Legible (writeWhole value) :=
  .scalar (.plain (isPlain_toString value))

/-- A truth value is written as plain text. -/
theorem legible_writeTruth (value : Bool) : Legible (writeTruth value) := by
  refine .scalar (.plain (.of_writable ?_ ?_)) <;> cases value <;> decide

theorem isTagName_max : Yaml.IsTagName "max" where
  nonempty := by decide
  word := Yaml.forall_mem_of_all (by decide)
  significant := by decide +kernel
  octets := by decide +kernel
  resolves := by decide +kernel

/-- A rate is written as a name or as a number behind its tag. -/
theorem legible_writeRate (rate : UpdateRate) : Legible (writeRate rate) := by
  cases rate with
  | native => exact legible_ofText "native"
  | max hertz => exact .tagged isTagName_max (isPlain_toString hertz.toNat)

namespace Choices

variable {α : Type} {choices : Choices α}

/-- A name stands for a value, and a value has this name. -/
structure Names
    [BEq α]
    (choices : Choices α)
    (value : α)
    (name : String) :
    Prop where
  named : choices.name? value = some name
  found : (choices.find? fun entry => entry.1 == name).map Prod.snd = some value

/-- A value with a name is written as this name. -/
theorem Names.write_eq
    [BEq α]
    {value : α}
    {name : String}
    (names : choices.Names value name) :
    choices.write value = .ofText name := by
  rw [write, names.named]

/-- A table that repeats no name and names every value of its type. -/
structure Complete (choices : Choices α) : Prop where
  distinct : (choices.map Prod.fst).Nodup
  every : ∀ value, value ∈ choices.map Prod.snd

/-- In a table that repeats no name every entry is found by its own. -/
theorem find?_of_mem
    (distinct : (choices.map Prod.fst).Nodup)
    {entry : String × α}
    (member : entry ∈ choices) :
    (choices.find? fun other => other.1 == entry.1) = some entry := by
  have known : (choices.find? fun other => other.1 == entry.1).isSome :=
    List.find?_isSome.mpr ⟨entry, member, beq_self_eq_true entry.1⟩
  obtain ⟨other, found⟩ := Option.isSome_iff_exists.mp known
  have sameName : other.1 = entry.1 := by simpa using List.find?_some found
  rw [found, List.inj_on_of_nodup_map distinct (List.mem_of_find?_eq_some found) member sameName]

/-- In a complete table the first name of a value stands for it and for nothing else. -/
theorem Complete.exists_names
    [BEq α]
    [LawfulBEq α]
    (complete : choices.Complete)
    (value : α) :
    ∃ name, choices.Names value name := by
  obtain ⟨listed, member, same⟩ := List.mem_map.mp (complete.every value)
  have known : (choices.find? fun entry => entry.2 == value).isSome :=
    List.find?_isSome.mpr ⟨listed, member, beq_iff_eq.mpr same⟩
  obtain ⟨⟨name, named⟩, first⟩ := Option.isSome_iff_exists.mp known
  obtain rfl : named = value := by simpa using List.find?_some first
  have found := find?_of_mem complete.distinct (List.mem_of_find?_eq_some first)
  refine ⟨name, ?_, ?_⟩
  · rw [name?, first]
    rfl
  · rw [found]
    rfl

end Choices

/-- Every action has a name of its own. -/
theorem complete_actions : actions.Complete where
  distinct := by decide
  every action := by cases action <;> decide

/-- Every pixel layout has a name of its own. -/
theorem complete_pixelLayouts : pixelLayouts.Complete where
  distinct := by decide
  every layout := by cases layout <;> decide

/-- Every type of intent has a name of its own. -/
theorem complete_intentTypes : intentTypes.Complete where
  distinct := by decide
  every type := by cases type <;> decide

/-- The name of a value is a text, and texts are legible. -/
theorem legible_write
    {α : Type}
    [BEq α]
    [LawfulBEq α]
    {choices : Choices α}
    (complete : choices.Complete)
    (value : α) :
    Legible (choices.write value) := by
  obtain ⟨name, names⟩ := complete.exists_names value
  rw [names.write_eq]
  exact legible_ofText name

/-! ## Records -/

/-- Entries with known names and legible values. -/
def AreLegible (entries : List (String × Node)) : Prop :=
  ∀ entry ∈ entries, entry.1 ∈ names ∧ Legible entry.2

section

variable {entries : List (String × Node)} (areLegible : AreLegible entries)

include areLegible

/-- Entries with known names are written under them. -/
theorem AreLegible.writeRecord_eq : writeRecord entries = .record entries :=
  Document.writeRecord_eq fun entry member => (areLegible entry member).1

/-- Entries with known names can be the entries of a mapping. -/
theorem AreLegible.keyed
    (nonempty : entries ≠ []) :
    Keyed entries :=
  ⟨nonempty, fun entry member => isKey_of_mem_names (areLegible entry member).1⟩

/-- Entries with known names and legible values make a legible mapping. -/
theorem AreLegible.legible
    (nonempty : entries ≠ []) :
    Legible (.record entries) :=
  .record (areLegible.keyed nonempty) fun entry member => (areLegible entry member).2

end

theorem areLegible_nil : AreLegible (present []) := by
  intro entry member
  cases member

/-- A field that may be left out, in front of others. -/
theorem areLegible_cons
    {name : String}
    {found : Option Node}
    {fields : List (String × Option Node)}
    (known : name ∈ names)
    (legible : ∀ node ∈ found, Legible node)
    (later : AreLegible (present fields)) :
    AreLegible (present ((name, found) :: fields)) := by
  intro entry member
  obtain ⟨field, inside, given⟩ := List.mem_filterMap.mp member
  rcases List.mem_cons.mp inside with rfl | inLater
  · obtain ⟨node, there, rfl⟩ := Option.map_eq_some_iff.mp given
    exact ⟨known, legible node there⟩
  · exact later entry (List.mem_filterMap.mpr ⟨field, inLater, given⟩)

/-- A field that is always there, in front of others. -/
theorem areLegible_cons_some
    {name : String}
    {node : Node}
    {fields : List (String × Option Node)}
    (known : name ∈ names)
    (legible : Legible node)
    (later : AreLegible (present fields)) :
    AreLegible (present ((name, some node) :: fields)) := by
  refine areLegible_cons known ?_ later
  rintro _ ⟨⟩
  exact legible

/-! ## Missions -/

/-- The entries of an intent: its type, and its parameters under their names. -/
def typedEntries
    (type : IntentType)
    (parameters : List Node) :
    List (String × Node) :=
  ("type", intentTypes.write type) :: type.parameters.zip parameters

/-- The entries of an intent, its type in front. -/
def intentEntries (intent : Intent) : List (String × Node) :=
  let (type, parameter, canBeObtained) := IntentType.split intent
  typedEntries type (writeSingle parameter :: canBeObtained.toList.map writeTruth)

/-- The parameters of intents have known names. -/
theorem mem_names_of_mem_parameters
    {type : IntentType}
    {name : String}
    (member : name ∈ type.parameters) :
    name ∈ names := by
  have known : ∀ type : IntentType, ∀ name ∈ type.parameters, name ∈ names := by
    intro type
    cases type <;> decide
  exact known type name member

/-- The entries of an intent have known names. -/
theorem mem_names_of_mem_typedEntries
    {type : IntentType}
    {parameters : List Node} :
    ∀ entry ∈ typedEntries type parameters, entry.1 ∈ names := by
  intro entry member
  rcases List.mem_cons.mp member with rfl | parameter
  · exact show "type" ∈ names by decide
  · exact mem_names_of_mem_parameters (List.of_mem_zip parameter).1

/-- The entries of an intent are legible, whatever its number is. -/
theorem areLegible_intentEntries (intent : Intent) : AreLegible (intentEntries intent) := by
  intro entry member
  refine ⟨mem_names_of_mem_typedEntries entry member, ?_⟩
  rcases List.mem_cons.mp member with rfl | parameter
  · exact legible_write complete_intentTypes _
  · rcases List.mem_cons.mp (List.of_mem_zip parameter).2 with single | truth
    · rw [single]
      exact legible_writeSingle _
    · obtain ⟨value, _, written⟩ := List.mem_map.mp truth
      rw [← written]
      exact legible_writeTruth value

/-- An intent is written as the mapping of its entries. -/
theorem writeIntent_eq (intent : Intent) :
    writeIntent intent = .record (intentEntries intent) :=
  (areLegible_intentEntries intent).writeRecord_eq

/-- The fields of a step, some of which may be left out. -/
def stepFields (step : MissionStep) : List (String × Option Node) :=
  [ ("label", step.label.map .ofText),
    ("duration_ms", some (writeWhole step.milliseconds.toNat)),
    ("action", step.action.map actions.write),
    ("intents",
      if step.intents.isEmpty then none else some (writeList (step.intents.map writeIntent))),
    ("early_exit", some (writeTruth step.earlyExit)) ]

/-- A list of mappings is legible if the mappings are. -/
theorem legible_writeList
    {α : Type}
    {values : List α}
    {write : α → Node}
    {entries : α → List (String × Node)}
    (written : ∀ value ∈ values, write value = .record (entries value))
    (areLegible : ∀ value ∈ values, AreLegible (entries value))
    (nonempty : ∀ value ∈ values, entries value ≠ []) :
    Legible (writeList (values.map write)) := by
  have records : values.map write = (values.map entries).map Node.record := by
    rw [List.map_map]
    exact List.map_congr_left written
  rw [records]
  refine .sequence ?_ ?_
  · intro item member
    obtain ⟨value, inside, rfl⟩ := List.mem_map.mp member
    exact (areLegible value inside).keyed (nonempty value inside)
  · intro item member entry inItem
    obtain ⟨value, inside, rfl⟩ := List.mem_map.mp member
    exact (areLegible value inside entry inItem).2

/-- The fields of a step are legible, whichever of them are left out. -/
theorem areLegible_stepFields (step : MissionStep) : AreLegible (present (stepFields step)) := by
  refine areLegible_cons (by decide) ?label <|
    areLegible_cons_some (by decide) (legible_writeWhole _) <|
    areLegible_cons (by decide) ?action <| areLegible_cons (by decide) ?intents <|
    areLegible_cons_some (by decide) (legible_writeTruth _) areLegible_nil
  case label =>
    intro node found
    obtain ⟨label, _, rfl⟩ := Option.map_eq_some_iff.mp found
    exact legible_ofText label
  case action =>
    intro node found
    obtain ⟨action, _, rfl⟩ := Option.map_eq_some_iff.mp found
    exact legible_write complete_actions action
  case intents =>
    intro node found
    split at found
    · cases found
    · cases found
      exact legible_writeList (fun intent _ => writeIntent_eq intent)
        (fun intent _ => areLegible_intentEntries intent) (fun _ _ => List.cons_ne_nil _ _)

/-- A step is written as the mapping of the fields that are there. -/
theorem writeStep_eq (step : MissionStep) :
    writeStep step = .record (present (stepFields step)) := by
  rw [← (areLegible_stepFields step).writeRecord_eq]
  rcases step with ⟨label, milliseconds, action, intents, earlyExit⟩
  cases label <;> cases action <;> cases intents <;> rfl

theorem present_stepFields_ne_nil (step : MissionStep) : present (stepFields step) ≠ [] := by
  rcases step with ⟨label, milliseconds, action, intents, earlyExit⟩
  cases label <;> exact List.cons_ne_nil _ _

/-- The one field of a mission, which holds its steps. -/
def missionFields (mission : Mission) : List (String × Option Node) :=
  [("objectives", some (writeList (mission.steps.map writeStep)))]

/-- The steps of a mission are a legible list. -/
theorem areLegible_missionFields (mission : Mission) :
    AreLegible (present (missionFields mission)) := by
  refine areLegible_cons_some (by decide) ?_ areLegible_nil
  exact legible_writeList (fun step _ => writeStep_eq step)
    (fun step _ => areLegible_stepFields step) (fun step _ => present_stepFields_ne_nil step)

/-- A mission is written as the mapping of its one field. -/
theorem writeMission_eq (mission : Mission) :
    writeMission mission = .record (present (missionFields mission)) :=
  (areLegible_missionFields mission).writeRecord_eq

/-! ## Settings -/

/-- The sections of settings, each with its own fields. -/
def sections (settings : Settings) : List (String × List (String × Option Node)) :=
  [ ("autopilot", [("tick_interval_ms", some (writeWhole settings.tickMilliseconds.toNat))]),
    ("playback", [("rate", some (writeDouble settings.playbackRate))]),
    ("video",
      [ ("pixel_layout", some (pixelLayouts.write settings.pixelLayout)),
        ("resync_on_keyframe", some (writeTruth settings.resyncOnKeyframe)) ]),
    ("telemetry", [("ui_rate", some (writeRate settings.displayRate))]),
    ("logging", [("filter", some (.ofText settings.logFilter))]) ]

/-- Every section of the settings has a known name and legible fields, of which there are some. -/
theorem areLegible_section (settings : Settings) :
    ∀ entry ∈ sections settings,
      entry.1 ∈ names ∧ AreLegible (present entry.2) ∧ present entry.2 ≠ [] := by
  have nonempty : ∀ (name : String) (node : Node) (fields : List (String × Option Node)),
      present ((name, some node) :: fields) ≠ [] :=
    fun _ _ _ => List.cons_ne_nil _ _
  have video :
      AreLegible
        (present
          [ ("pixel_layout", some (pixelLayouts.write settings.pixelLayout)),
            ("resync_on_keyframe", some (writeTruth settings.resyncOnKeyframe)) ]) :=
    areLegible_cons_some (by decide) (legible_write complete_pixelLayouts _) <|
      areLegible_cons_some (by decide) (legible_writeTruth _) areLegible_nil
  have alone :
      ∀ {name : String} {node : Node},
        name ∈ names → Legible node → AreLegible (present [(name, some node)]) :=
    fun known legible => areLegible_cons_some known legible areLegible_nil
  simp only [sections, List.forall_mem_cons]
  exact
    ⟨⟨by decide, alone (by decide) (legible_writeWhole _), nonempty _ _ _⟩,
      ⟨by decide, alone (by decide) (legible_writeDouble _), nonempty _ _ _⟩,
      ⟨by decide, video, nonempty _ _ _⟩,
      ⟨by decide, alone (by decide) (legible_writeRate _), nonempty _ _ _⟩,
      ⟨by decide, alone (by decide) (legible_ofText _), nonempty _ _ _⟩,
      List.forall_mem_nil _⟩

/-- The entries of the settings, one for each section. -/
def settingsEntries (settings : Settings) : List (String × Node) :=
  (sections settings).map fun entry => (entry.1, .record (present entry.2))

/-- The sections of the settings are legible. -/
theorem areLegible_settingsEntries (settings : Settings) :
    AreLegible (settingsEntries settings) := by
  intro entry member
  obtain ⟨origin, inside, rfl⟩ := List.mem_map.mp member
  obtain ⟨known, areLegible, nonempty⟩ := areLegible_section settings origin inside
  exact ⟨known, areLegible.legible nonempty⟩

/-- Settings are written as the mapping of their sections. -/
theorem writeSettings_eq (settings : Settings) :
    writeSettings settings = .record (settingsEntries settings) := by
  have inner :
      ((sections settings).map fun entry => (entry.1, writeRecord (present entry.2))) =
        settingsEntries settings := by
    refine List.map_congr_left fun entry member => ?_
    rw [(areLegible_section settings entry member).2.1.writeRecord_eq]
  rw [← (areLegible_settingsEntries settings).writeRecord_eq, ← inner]
  rfl

end Document

end DroneSession
