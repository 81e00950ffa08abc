import Mathlib.Data.List.Nodup
import DroneSession.Proofs.Autopilot.Loading
import DroneSession.Proofs.Document.Writing

namespace DroneSession

/-!
# Documents read back as what was written

A mission or settings read back from their document, whatever was left out of it.  What is assumed
of the numbers in a document is that each of them reads back from its own text.
-/

namespace Document

open Yaml (Node Decoder Value styleOf)
open Yaml.Decoder (Answers present answers_text answers_field answers_fieldOr
  answers_fieldOr_none answers_fieldOr_some)

/-! ## Numbers -/

/-- A single is what its text stands for where any value may stand. -/
def ReadsBack (value : Float32) : Prop :=
  (Value.ofPlain? (.of (singleLayout.write .single value.toBits.toNat))).bind Value.single? =
    some value

/-- A double is what its text stands for where a number has to stand. -/
def ReadsBackDouble (value : Float) : Prop :=
  Yaml.real? (doubleLayout.write .double value.toBits.toNat) = some value

instance (value : Float32) : Decidable (ReadsBack value) :=
  inferInstanceAs (Decidable (_ = _))

instance (value : Float) : Decidable (ReadsBackDouble value) :=
  inferInstanceAs (Decidable (_ = _))

section

open Float.Model.UnpackedFloat (packedNaN unpackExponent unpackMantissa)

/-- Octets that are valid have one way to say that there is no number. -/
theorem eq_packedNaN_of_isNaN
    {format : Float.Model.Format}
    {bits : BitVec format.numBits}
    (valid : format.Valid bits)
    (notNumber : (Float.Model.UnpackedFloat.unpack format bits).isNaN = true) :
    bits = packedNaN format := by
  delta Float.Model.UnpackedFloat.unpack at notNumber
  dsimp only at notNumber
  by_cases exponent : unpackExponent bits = (-1#_)
  · rw [if_pos exponent] at notNumber
    by_cases mantissa : unpackMantissa bits = 0#_
    · rw [if_pos mantissa] at notNumber
      cases notNumber
    · exact valid.eq_packedNaN exponent mantissa
  · rw [if_neg exponent] at notNumber
    by_cases small : unpackExponent bits = 0#_
    · rw [if_pos small] at notNumber
      by_cases mantissa : unpackMantissa bits = 0#_
      · rw [dif_pos mantissa] at notNumber
        cases notNumber
      · rw [dif_neg mantissa] at notNumber
        cases notNumber
    · rw [if_neg small] at notNumber
      cases notNumber

end

/-- There is one value that is no number. -/
theorem eq_of_isNaN
    {value : Float32}
    (notNumber : value.isNaN = true) :
    value = Float32.ofBits 0x7fc00000 := by
  obtain ⟨⟨bits, valid⟩⟩ := value
  have packed : bits.toBitVec = Float.Model.UnpackedFloat.packedNaN .binary32 :=
    eq_packedNaN_of_isNaN valid notNumber
  obtain rfl : bits = 0x7fc00000 := by
    rw [← UInt32.toBitVec_inj, packed]
    rfl
  rfl

/-- What is no number reads back whatever its octets were. -/
theorem readsBack_of_isNaN
    {value : Float32}
    (notNumber : value.isNaN = true) :
    ReadsBack value := by
  rw [eq_of_isNaN notNumber, ReadsBack]
  decide +kernel

/-! ## Values of any type -/

section

variable {depth : Nat}

/-- A plain scalar answers the value that its text is read as. -/
theorem answers_decode
    {written : String}
    {value : Value}
    (read : Value.ofPlain? (.of written) = some value) :
    Answers (Value.decode (.ofPlain written)) depth value := by
  have scalar : Answers (Value.ofScalar none .plain written) depth value := by
    refine Answers.bind (.pure ()) ?_
    change Answers (Decoder.require (Value.ofPlain? (.of written))) depth value
    rw [read]
    exact .require value
  constructor
  intro scope count deep
  change Value.ofNode scope.depth (.ofPlain written) scope count = _
  have followed : Answers (Decoder.follow (.ofPlain written)) depth (.ofPlain written) :=
    .pure _
  cases available : scope.depth with
  | zero => exact (followed.bind scalar).run deep
  | succ available => exact (followed.bind scalar).run deep

/-- The key of a document answers itself as a text. -/
theorem answers_decode_name
    {name : String}
    (known : name ∈ names) :
    Answers (Value.decode (.ofPlain name)) depth (.text name) := by
  refine answers_decode ?_
  rw [Yaml.of_eq_text_of_styleOf (styleOf_of_mem_names name known)]
  rfl

/-- A truth value answers itself where any value may stand. -/
theorem answers_decode_writeTruth (value : Bool) :
    Answers (Value.decode (writeTruth value)) depth (.truth value) := by
  refine answers_decode ?_
  cases value <;> rfl

/-- A truth value answers itself where a truth value has to stand. -/
theorem answers_writeTruth (value : Bool) :
    Answers (Decoder.truth (writeTruth value)) depth value := by
  refine Decoder.answers_truth ?_
  cases value <;> rfl

/-- A number that reads back answers a value from which it can be had. -/
theorem exists_answers_writeSingle
    {value : Float32}
    (readsBack : ReadsBack value) :
    ∃ read : Value,
      Answers (Value.decode (writeSingle value)) depth read ∧ read.single? = some value := by
  obtain ⟨read, decoded, single⟩ := Option.bind_eq_some_iff.mp readsBack
  exact ⟨read, answers_decode decoded, single⟩

/-! ## Intents -/

/-- The name of a type of intent answers the type. -/
theorem answers_readIntentType (type : IntentType) :
    Answers (readIntentType (intentTypes.write type)) depth type := by
  obtain ⟨name, names⟩ := complete_intentTypes.exists_names type
  rw [names.write_eq, Node.ofText]
  refine answers_text.bind ?_
  rw [names.found]
  exact .require type

/-- The number that an intent holds or steers to. -/
def parameter (intent : Intent) : Float32 :=
  (IntentType.split intent).2.1

/-- The values of the parameters of an intent, the first of which is its number. -/
def parameterValues
    (intent : Intent)
    (first : Value) :
    List Value :=
  first :: (IntentType.split intent).2.2.toList.map .truth

/-- An intent is what its type makes of its parameters. -/
theorem ofParameters?_split
    {intent : Intent}
    {first : Value}
    (single : first.single? = some (parameter intent)) :
    (IntentType.split intent).1.ofParameters? ((parameterValues intent first).map some) =
      some intent := by
  cases intent <;> simp [parameterValues, IntentType.ofParameters?, single] <;> rfl

/-- The parameters of an intent are found under the names that its type has for them. -/
theorem parametersOfEntries?_zip
    (intent : Intent)
    (first : Value) :
    parametersOfEntries? (IntentType.split intent).1.parameters
        (((IntentType.split intent).1.parameters.map Value.text).zip
          (parameterValues intent first)) =
      some ((parameterValues intent first).map some) := by
  cases intent <;>
    simp [parametersOfEntries?, parameterValues, IntentType.split, IntentType.parameters,
      parameterName?]

/-- Parameters are decoded one by one, each under its name. -/
theorem answers_zip
    {nodes : List Node}
    {values : List Value}
    (answers :
      List.Forall₂ (fun node value => Answers (Value.decode node) depth value) nodes values)
    (names : List String) :
    Answers
      (((names.zip nodes).map fun entry => (Value.text entry.1, entry.2)).mapM
        fun entry => (do return (entry.1, ← Value.decode entry.2) : Decoder (Value × Value)))
      depth
      ((names.map Value.text).zip values) := by
  refine .forall₂ ?_
  induction answers generalizing names with
  | nil => simp
  | cons first others inductionHypothesis =>
      cases names with
      | nil => exact .nil
      | cons name names => exact .cons (first.bind (.pure _)) (inductionHypothesis names)

/-- Entries whose keys were read. -/
def readKeys (entries : List (String × Node)) : List (Value × Node) :=
  entries.map fun entry => (Value.text entry.1, entry.2)

section

variable (type : IntentType) (nodes : List Node)

/-- All keys of an intent are read, each in front of its node. -/
theorem answers_readKeys :
    Answers
      (((typedEntries type nodes).map fun entry => (Node.ofPlain entry.1, entry.2)).mapM
        fun entry => (do return (← Value.decode entry.1, entry.2) : Decoder (Value × Node)))
      depth (readKeys (typedEntries type nodes)) :=
  .mapM fun entry member =>
    (answers_decode_name (mem_names_of_mem_typedEntries entry member)).bind (.pure _)

/-- No parameter of an intent is called like its type. -/
theorem not_isTypeKey_of_mem_zip :
    ∀ entry ∈ readKeys (type.parameters.zip nodes), isTypeKey entry.1 = false := by
  intro entry member
  obtain ⟨origin, inside, rfl⟩ := List.mem_map.mp member
  have differs : ∀ type : IntentType, ∀ name ∈ type.parameters, (name == "type") = false := by
    intro type
    cases type <;> decide
  exact differs type origin.1 (List.of_mem_zip inside).1

/-- The type of an intent stands under one key. -/
theorem filter_isTypeKey_typedEntries :
    ((readKeys (typedEntries type nodes)).filter fun entry => isTypeKey entry.1) =
      [(.text "type", intentTypes.write type)] := by
  rw [typedEntries, readKeys, List.map_cons, List.filter_cons_of_pos rfl,
    List.filter_eq_nil_iff.mpr]
  intro entry member
  rw [not_isTypeKey_of_mem_zip type nodes entry member]
  exact Bool.false_ne_true

/-- Without its type an intent has nothing but its parameters. -/
theorem filter_not_isTypeKey_typedEntries :
    ((readKeys (typedEntries type nodes)).filter fun entry => !isTypeKey entry.1) =
      readKeys (type.parameters.zip nodes) := by
  rw [typedEntries, readKeys, List.map_cons, List.filter_cons_of_neg (by simp [isTypeKey]),
    List.filter_eq_self.mpr]
  · rfl
  · intro entry member
    rw [not_isTypeKey_of_mem_zip type nodes entry member]
    rfl

end

/-- The entries of an intent answer what its type makes of the values of its parameters. -/
theorem answers_readIntentEntries
    {type : IntentType}
    {nodes : List Node}
    {values : List Value}
    (answers :
      List.Forall₂ (fun node value => Answers (Value.decode node) depth value) nodes values)
    {given : List (Option Value)}
    (parameters :
      parametersOfEntries? type.parameters ((type.parameters.map Value.text).zip values) =
        some given)
    {intent : Intent}
    (built : type.ofParameters? given = some intent) :
    Answers
      (readIntentEntries
        ((typedEntries type nodes).map fun entry => (.ofPlain entry.1, entry.2)))
      depth intent := by
  refine (answers_readKeys type nodes).bind ?_
  dsimp only
  rw [filter_isTypeKey_typedEntries, filter_not_isTypeKey_typedEntries]
  refine (answers_readIntentType type).bind ((answers_zip answers type.parameters).bind ?_)
  rw [parameters]
  refine (Answers.require given).bind ?_
  rw [built]
  exact .require intent

/-- An intent whose number reads back answers itself. -/
theorem answers_readIntent
    {intent : Intent}
    (readsBack : ReadsBack (parameter intent)) :
    Answers (readIntent (writeIntent intent)) (depth + 1) intent := by
  obtain ⟨first, decoded, single⟩ :
      ∃ read : Value,
        Answers (Value.decode (writeSingle (parameter intent))) depth read ∧
          read.single? = some (parameter intent) :=
    exists_answers_writeSingle readsBack
  have answers :
      List.Forall₂ (fun node value => Answers (Value.decode node) depth value)
        (writeSingle (parameter intent) :: (IntentType.split intent).2.2.toList.map writeTruth)
        (parameterValues intent first) := by
    refine .cons decoded ?_
    rw [List.forall₂_map_left_iff, List.forall₂_map_right_iff, List.forall₂_same]
    exact fun value _ => answers_decode_writeTruth value
  rw [writeIntent_eq]
  refine (Decoder.answers_follow (by simp [Node.record])).bind ?_
  refine Answers.bind (.pure ()) (.enter ?_)
  exact answers_readIntentEntries answers (parametersOfEntries?_zip intent first)
    (ofParameters?_split single)

/-! ## Missions -/

/-- A value of a complete table answers itself. -/
theorem answers_choices
    {α : Type}
    [BEq α]
    [LawfulBEq α]
    {choices : Choices α}
    (complete : choices.Complete)
    (value : α) :
    Answers (choices.read (choices.write value)) depth value := by
  obtain ⟨name, names⟩ := complete.exists_names value
  rw [names.write_eq]
  exact Decoder.answers_choice names.found

/-- A text that may be left out is there, whatever it is. -/
theorem answers_optional_ofText
    {α : Type}
    {decode : Node → Decoder α}
    {written : String}
    {value : α}
    (answers : Answers (decode (.ofText written)) depth value) :
    Answers (Decoder.optional decode (.ofText written)) depth (some value) := by
  refine Decoder.answers_optional ?_ answers
  rintro ⟨plain, nothing⟩
  rw [Yaml.isSomething_of_styleOf plain] at nothing
  cases nothing

/-- The numbers of a step read back. -/
def StepReadsBack (step : MissionStep) : Prop :=
  ∀ intent ∈ step.intents, ReadsBack (parameter intent)

/-- No two fields of a step share a name. -/
theorem distinct_stepFields (step : MissionStep) : ((stepFields step).map Prod.fst).Nodup := by
  change ["label", "duration_ms", "action", "intents", "early_exit"].Nodup
  decide

/--
A step answers itself if the numbers of its intents read back, whichever fields were left out.
-/
theorem answers_readStep
    {step : MissionStep}
    (readsBack : StepReadsBack step) :
    Answers (readStep (writeStep step)) (depth + 3) step := by
  have distinct := distinct_stepFields step
  have label :
      Answers
        (Decoder.fieldOr "label" none (Decoder.optional Decoder.text) (present (stepFields step)))
        (depth + 2) step.label := by
    have member : ("label", step.label.map Node.ofText) ∈ stepFields step := by
      simp [stepFields]
    exact answers_fieldOr_none distinct member fun _ _ => answers_optional_ofText answers_text
  have duration :
      Answers (Decoder.field "duration_ms" Decoder.unsigned64 (present (stepFields step)))
        (depth + 2) step.milliseconds := by
    have member :
        ("duration_ms", some (writeWhole step.milliseconds.toNat)) ∈ stepFields step := by
      simp [stepFields]
    exact answers_field distinct member
      (Decoder.answers_unsigned64 (unsigned64?_toString step.milliseconds))
  have action :
      Answers
        (Decoder.fieldOr "action" none (Decoder.optional actions.read) (present (stepFields step)))
        (depth + 2) step.action := by
    have member : ("action", step.action.map actions.write) ∈ stepFields step := by
      simp [stepFields]
    refine answers_fieldOr_none distinct member fun action _ => ?_
    obtain ⟨name, names⟩ := complete_actions.exists_names action
    have answers : Answers (actions.read (actions.write action)) (depth + 2) action :=
      answers_choices complete_actions action
    rw [names.write_eq] at answers ⊢
    exact answers_optional_ofText answers
  have intents :
      Answers
        (Decoder.fieldOr "intents" [] (Decoder.list readIntent) (present (stepFields step)))
        (depth + 2) step.intents := by
    have member :
        ("intents",
          if step.intents.isEmpty then none
          else some (writeList (step.intents.map writeIntent))) ∈ stepFields step := by
      simp [stepFields]
    refine answers_fieldOr distinct member ?_ ?_
    · intro absent
      split at absent
      case isTrue empty => exact (List.isEmpty_iff.mp empty).symm
      case isFalse => cases absent
    · intro node there
      split at there
      case isTrue => cases there
      case isFalse =>
        cases there
        exact Decoder.answers_list fun intent inStep => answers_readIntent (readsBack intent inStep)
  have earlyExit :
      Answers (Decoder.fieldOr "early_exit" false Decoder.truth (present (stepFields step)))
        (depth + 2) step.earlyExit := by
    have member : ("early_exit", some (writeTruth step.earlyExit)) ∈ stepFields step := by
      simp [stepFields]
    exact answers_fieldOr_some distinct member (answers_writeTruth step.earlyExit)
  rw [writeStep_eq]
  refine Decoder.answers_record ?_
  exact label.bind (duration.bind (action.bind (intents.bind (earlyExit.bind (.pure _)))))

/-- The numbers of a mission read back. -/
def MissionReadsBack (mission : Mission) : Prop :=
  ∀ step ∈ mission.steps, StepReadsBack step

/-- A mission answers itself if its numbers read back. -/
theorem answers_readMission
    {mission : Mission}
    (readsBack : MissionReadsBack mission) :
    Answers (readMission (writeMission mission)) (depth + 5) mission := by
  have distinct : ((missionFields mission).map Prod.fst).Nodup := by
    change ["objectives"].Nodup
    decide
  have member :
      ("objectives", some (writeList (mission.steps.map writeStep))) ∈ missionFields mission :=
    List.mem_singleton_self _
  rw [writeMission_eq]
  refine Decoder.answers_record (Answers.bind ?_ (.pure _))
  exact answers_field distinct member
    (Decoder.answers_list fun step inMission => answers_readStep (readsBack step inMission))

/-! ## Settings -/

/-- A rate answers itself, limited or not. -/
theorem answers_readRate (rate : UpdateRate) : Answers (readRate (writeRate rate)) depth rate := by
  cases rate with
  | native => exact Decoder.answers_choiceOrNumber rfl
  | max hertz =>
      have read : Yaml.unsigned64? (toString hertz.toNat) = some hertz.toUInt64 := by
        rw [← UInt32.toNat_toUInt64]
        exact unsigned64?_toString hertz.toUInt64
      exact Decoder.answers_choiceOrNumber_tagged
        ((Decoder.answers_unsigned32 read).bind (.pure _))

/-- A section of settings is found and read. -/
theorem answers_readSection
    {written settings value : Settings}
    {name : String}
    {fields : List (String × Option Node)}
    (member : (name, fields) ∈ sections written)
    {read : Decoder.Entries → Decoder Settings}
    (answers : Answers (read (present fields)) depth value) :
    Answers (readSection name settings read (settingsEntries written)) (depth + 1) value := by
  have distinct :
      (((settingsEntries written).map fun entry => (entry.1, some entry.2)).map
        Prod.fst).Nodup := by
    change ["autopilot", "playback", "video", "telemetry", "logging"].Nodup
    decide
  have there :
      (name, some (Node.record (present fields))) ∈
        (settingsEntries written).map fun entry => (entry.1, some entry.2) := by
    refine List.mem_map.mpr ⟨(name, .record (present fields)), ?_, rfl⟩
    exact List.mem_map.mpr ⟨(name, fields), member, rfl⟩
  rw [readSection, ← Decoder.present_map_some (settingsEntries written)]
  exact answers_fieldOr_some distinct there (Decoder.answers_record answers)

/-- Settings answer themselves if the rate of playback reads back. -/
theorem answers_readSettings
    {settings : Settings}
    (readsBack : ReadsBackDouble settings.playbackRate) :
    Answers (readSettings (writeSettings settings)) (depth + 2) settings := by
  have autopilot :
      ("autopilot", [("tick_interval_ms", some (writeWhole settings.tickMilliseconds.toNat))]) ∈
        sections settings := by
    simp [sections]
  have playback :
      ("playback", [("rate", some (writeDouble settings.playbackRate))]) ∈ sections settings := by
    simp [sections]
  have video :
      ("video",
          [ ("pixel_layout", some (pixelLayouts.write settings.pixelLayout)),
            ("resync_on_keyframe", some (writeTruth settings.resyncOnKeyframe)) ]) ∈
        sections settings := by
    simp [sections]
  have telemetry :
      ("telemetry", [("ui_rate", some (writeRate settings.displayRate))]) ∈ sections settings := by
    simp [sections]
  have logging :
      ("logging", [("filter", some (Node.ofText settings.logFilter))]) ∈ sections settings := by
    simp [sections]
  have alone :
      ∀ {name : String} {node : Node}, ([(name, some node)].map Prod.fst).Nodup :=
    List.nodup_singleton _
  have pictures :
      ∀ {layout resync : Node},
        ([("pixel_layout", some layout), ("resync_on_keyframe", some resync)].map
          Prod.fst).Nodup := by
    intro layout resync
    change ["pixel_layout", "resync_on_keyframe"].Nodup
    decide
  have first :
      ∀ {field : String × Option Node} {fields : List (String × Option Node)},
        field ∈ field :: fields :=
    List.mem_cons_self
  rw [writeSettings_eq]
  refine Decoder.answers_record ?_
  dsimp only
  refine Answers.bind
    (answers_readSection autopilot
      (Answers.bind
        (answers_fieldOr_some alone first (Decoder.answers_unsigned64 (unsigned64?_toString _)))
        (.pure _))) ?_
  refine Answers.bind
    (answers_readSection playback
      (Answers.bind (answers_fieldOr_some alone first (Decoder.answers_double readsBack))
        (.pure _))) ?_
  refine Answers.bind
    (answers_readSection video
      (Answers.bind
        (answers_fieldOr_some pictures first (answers_choices complete_pixelLayouts _))
        (Answers.bind
          (answers_fieldOr_some pictures (List.mem_cons_of_mem _ first) (answers_writeTruth _))
          (.pure _)))) ?_
  refine Answers.bind
    (answers_readSection telemetry
      (Answers.bind (answers_fieldOr_some alone first (answers_readRate _)) (.pure _))) ?_
  exact answers_readSection logging
    (Answers.bind (answers_fieldOr_some alone first answers_text) (.pure _))

end

/-! ## Round trips -/

/-- A mission is read from its document as itself. -/
theorem read?_missionDocument
    {mission : Mission}
    (readsBack : MissionReadsBack mission) :
    Yaml.read? readMission mission.toDocument = some mission := by
  have areLegible := areLegible_missionFields mission
  have nonempty : present (missionFields mission) ≠ [] :=
    List.cons_ne_nil _ _
  have answers : Answers (readMission (writeMission mission)) 5 mission :=
    answers_readMission readsBack
  rw [Mission.toDocument, Yaml.read?]
  rw [writeMission_eq] at answers ⊢
  rw [Yaml.Node.read?_render (areLegible.keyed nonempty)
    fun entry member => (areLegible entry member).2]
  exact Decoder.run?_of_answers answers (by decide)

/-- Settings are read from their document as themselves. -/
theorem read?_settingsDocument
    {settings : Settings}
    (readsBack : ReadsBackDouble settings.playbackRate) :
    Yaml.read? readSettings settings.toDocument = some settings := by
  have areLegible := areLegible_settingsEntries settings
  have nonempty : settingsEntries settings ≠ [] :=
    List.cons_ne_nil _ _
  have answers : Answers (readSettings (writeSettings settings)) 2 settings :=
    answers_readSettings readsBack
  rw [Settings.toDocument, Yaml.read?]
  rw [writeSettings_eq] at answers ⊢
  rw [Yaml.Node.read?_render (areLegible.keyed nonempty)
    fun entry member => (areLegible entry member).2]
  exact Decoder.run?_of_answers answers (by decide)

/--
A mission is loaded from its document exactly if it can be flown, and with the same failure if not.
-/
theorem ofDocument_toDocument
    {mission : Mission}
    (readsBack : MissionReadsBack mission) :
    Mission.ofDocument mission.toDocument = mission.objectives.map fun _ => mission := by
  rw [Mission.ofDocument, read?_missionDocument readsBack]

/-- Of a mission that can be flown every step can. -/
theorem converts_of_objectives
    {mission : Mission}
    {objectives : List Objective}
    (converted : mission.objectives = .ok objectives) :
    ∀ step ∈ mission.steps, ∃ objective, step.toObjective = .ok objective := by
  have paired :
      List.Forall₂
        (fun step objective =>
          (∃ objective, step.toObjective = .ok objective) ∧ step.toObjective = .ok objective)
        mission.steps objectives :=
    (Mission.objectives_eq_ok_iff.mp converted).imp fun _ objective becomes =>
      ⟨⟨objective, becomes⟩, becomes⟩
  exact ((List.forall₂_and_left _ _).mp paired).1

/-- What a mission or settings are written as reads back as what they were. -/
theorem documents_read_back
    {mission : Mission}
    (numbersReadBack :
      ∀ step ∈ mission.steps, ∀ intent ∈ step.intents,
        (parameter intent).isNaN = false → ReadsBack (parameter intent))
    {settings : Settings}
    (rateReadsBack : ReadsBackDouble settings.playbackRate) :
    ((∀ step ∈ mission.steps, ∀ intent ∈ step.intents, (parameter intent).isNaN = false) →
        (∀ step ∈ mission.steps, ∃ objective, step.toObjective = .ok objective) →
        Mission.ofDocument mission.toDocument = .ok mission) ∧
      ((∃ step ∈ mission.steps, ∀ objective, step.toObjective ≠ .ok objective) →
        ∃ fault,
          mission.FirstRefused fault ∧ Mission.ofDocument mission.toDocument = .error fault) ∧
      (settings.validate = .ok () → Settings.ofDocument settings.toDocument = .ok settings) := by
  have readsBack : MissionReadsBack mission := by
    intro step inMission intent inStep
    cases number : (parameter intent).isNaN with
    | false => exact numbersReadBack step inMission intent inStep number
    | true => exact readsBack_of_isNaN number
  rw [ofDocument_toDocument readsBack]
  refine ⟨?_, ?_, ?_⟩
  · intro _ converts
    cases converted : mission.objectives with
    | ok objectives => rfl
    | error fault =>
        obtain ⟨earlier, step, later, steps, _, refused⟩ :=
          Mission.objectives_eq_error_iff.mp converted
        obtain ⟨objective, becomes⟩ := converts step (by simp [steps])
        rw [MissionStep.toObjective_eq_error_iff.mpr refused] at becomes
        cases becomes
  · rintro ⟨step, member, fails⟩
    cases converted : mission.objectives with
    | ok objectives =>
        obtain ⟨objective, becomes⟩ := converts_of_objectives converted step member
        exact absurd becomes (fails objective)
    | error fault => exact ⟨fault, Mission.objectives_eq_error_iff.mp converted, rfl⟩
  · intro valid
    rw [Settings.ofDocument, read?_settingsDocument rateReadsBack]
    simp [valid, Except.map]

/-- A mission with every kind of step, whose numbers take few digits. -/
def sampleMission : Mission where
  steps :=
    [ ⟨some "up: now", 1000, some .takeoff, [], true⟩,
      ⟨none, 2000, none, [.heading 0.5 false, .altitude 1.0, .velocityX (-0.25)], false⟩,
      ⟨some "", 0, none, [], false⟩ ]

/-- A mission whose second step drives one axis twice. -/
def sampleConflict : Mission where
  steps :=
    [ ⟨none, 1, some .land, [], false⟩,
      ⟨none, 1, none, [.yawRate 0.5, .heading 0.5 true], true⟩ ]

theorem documents_read_back_samples :
    Mission.ofDocument sampleMission.toDocument = .ok sampleMission ∧
      Mission.ofDocument sampleConflict.toDocument = .error (.axisConflict .yaw) ∧
      Settings.ofDocument Settings.standard.toDocument = .ok Settings.standard := by
  have numbers :
      ∀ step ∈ sampleMission.steps, ∀ intent ∈ step.intents, (parameter intent).isNaN = false := by
    decide +kernel
  have readsBack :
      ∀ step ∈ sampleMission.steps, ∀ intent ∈ step.intents,
        (parameter intent).isNaN = false → ReadsBack (parameter intent) := by
    decide +kernel
  have conflictReadsBack :
      ∀ step ∈ sampleConflict.steps, ∀ intent ∈ step.intents,
        (parameter intent).isNaN = false → ReadsBack (parameter intent) := by
    decide +kernel
  have rate : ReadsBackDouble Settings.standard.playbackRate := by
    decide +kernel
  have valid : Settings.standard.validate = .ok () := by
    rfl
  have converts : ∀ step ∈ sampleMission.steps, ∃ objective, step.toObjective = .ok objective := by
    simp only [sampleMission, List.forall_mem_cons]
    exact ⟨⟨_, rfl⟩, ⟨_, rfl⟩, ⟨_, rfl⟩, List.forall_mem_nil _⟩
  have conflict : sampleConflict.objectives = .error (.axisConflict .yaw) :=
    rfl
  have fails : ∃ step ∈ sampleConflict.steps, ∀ objective, step.toObjective ≠ .ok objective := by
    refine ⟨_, List.mem_cons_of_mem _ List.mem_cons_self, ?_⟩
    rintro objective ⟨⟩
  obtain ⟨reads, _, readsSettings⟩ := documents_read_back readsBack rate
  obtain ⟨_, refuses, _⟩ := documents_read_back conflictReadsBack rate
  obtain ⟨fault, first, failed⟩ := refuses fails
  obtain rfl : SessionError.axisConflict .yaw = fault := by
    have same := conflict.symm.trans (Mission.objectives_eq_error_iff.mpr first)
    cases same
    rfl
  exact ⟨reads numbers converts, failed, readsSettings valid⟩

end Document

end DroneSession
