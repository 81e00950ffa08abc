import DroneSession.Proofs.Video.Handling

namespace DroneSession

/-!
# Resynchronisation on keyframes

With resynchronisation a unit that depends on others is withheld unless the decoder is in step: it
was handed a keyframe and has rejected neither that keyframe nor anything since.  Every other unit
is handed over in the order in which it arrived, and without resynchronisation all units are.
-/

/-- What became of a unit that arrived. -/
structure UnitFate where
  unit : VideoUnit
  /-- What the decoder made of it; none if it was withheld. -/
  outcome : Option DecodeOutcome
  deriving DecidableEq

namespace UnitFate

/-- The call of the decoder with the unit, if there was one. -/
def call? (fate : UnitFate) : Option DecodeCall :=
  fate.outcome.map fun outcome => ⟨fate.unit.payload, outcome⟩

/-- Whether the unit was handed over and is a picture that depends on no other. -/
def isHandedKeyframe (fate : UnitFate) : Bool :=
  fate.outcome.isSome && fate.unit.isKeyframe? == some true

/-- Whether the decoder has rejected the unit. -/
def isRejected (fate : UnitFate) : Bool :=
  fate.outcome.any DecodeOutcome.isRejection

end UnitFate

/-- A keyframe was handed over, and neither it nor anything since was rejected. -/
def InStep (fates : List UnitFate) : Prop :=
  ∃ before keyframe since,
    fates = before ++ keyframe :: since ∧
    keyframe.isHandedKeyframe = true ∧
    ∀ fate ∈ keyframe :: since, fate.isRejected = false

/-- A decoder is in step if its last unit was not rejected and was a keyframe or came in step. -/
theorem inStep_concat_iff
    {fates : List UnitFate}
    {fate : UnitFate} :
    InStep (fates ++ [fate]) ↔
      fate.isRejected = false ∧ (fate.isHandedKeyframe = true ∨ InStep fates) := by
  constructor
  · rintro ⟨before, keyframe, since, parts, isKeyframe, sound⟩
    rcases List.eq_nil_or_concat since with rfl | ⟨earlier, last, rfl⟩
    · obtain ⟨-, same⟩ := List.append_inj' parts rfl
      obtain rfl : fate = keyframe := List.singleton_inj.mp same
      exact ⟨sound _ List.mem_cons_self, .inl isKeyframe⟩
    · rw [List.concat_eq_append, ← List.cons_append, ← List.append_assoc] at parts
      obtain ⟨rfl, same⟩ := List.append_inj' parts rfl
      obtain rfl : fate = last := List.singleton_inj.mp same
      refine ⟨sound _ (by simp), .inr ⟨before, keyframe, earlier, rfl, isKeyframe, ?_⟩⟩
      intro other member
      refine sound other ?_
      rw [List.concat_eq_append, ← List.cons_append]
      exact List.mem_append_left _ member
  · rintro ⟨accepted, isKeyframe | ⟨before, keyframe, since, rfl, isKeyframe, sound⟩⟩
    · refine ⟨fates, fate, [], rfl, isKeyframe, ?_⟩
      intro other member
      rwa [List.mem_singleton.mp member]
    · refine ⟨before, keyframe, since ++ [fate], by simp, isKeyframe, ?_⟩
      intro other member
      rw [← List.cons_append] at member
      rcases List.mem_append.mp member with earlier | last
      · exact sound other earlier
      · rwa [List.mem_singleton.mp last]

namespace VideoWorker

variable {δ : Type} {decoder : VideoDecoder δ} {resync : Bool} {state : δ}

/-- Which units are withheld, of some that arrived in this order. -/
def WithheldExactly
    (resync : Bool)
    (fates : List UnitFate) :
    Prop :=
  ∀ before fate after, fates = before ++ fate :: after →
    (fate.outcome = none ↔
      resync = true ∧ fate.unit.isKeyframe? = some false ∧ ¬ InStep before)

theorem withheldExactly_concat
    {fates : List UnitFate}
    (withheld : WithheldExactly resync fates)
    {fate : UnitFate}
    (last : fate.outcome = none ↔
      resync = true ∧ fate.unit.isKeyframe? = some false ∧ ¬ InStep fates) :
    WithheldExactly resync (fates ++ [fate]) := by
  intro before other after parts
  rcases List.eq_nil_or_concat after with rfl | ⟨between, final, rfl⟩
  · obtain ⟨rfl, same⟩ := List.append_inj' parts rfl
    rwa [← List.singleton_inj.mp same]
  · rw [List.concat_eq_append, ← List.cons_append, ← List.append_assoc] at parts
    obtain ⟨rfl, -⟩ := List.append_inj' parts rfl
    exact withheld before other between rfl

/-- The fates of the units that have arrived at a worker. -/
structure Decides
    (resync : Bool)
    (units : List VideoUnit)
    (fates : List UnitFate)
    (stage : VideoStage (δ × List DecodeCall)) :
    Prop where
  arrivals : fates.map UnitFate.unit = units
  calls : stage.calls = fates.filterMap UnitFate.call?
  withheld : WithheldExactly resync fates
  awaiting : stage.awaitingKeyframe = true ↔ resync = true ∧ ¬ InStep fates

/-- A unit is withheld exactly if it depends on others and the decoder is not in step. -/
theorem Decides.withholds_iff
    {units : List VideoUnit}
    {fates : List UnitFate}
    {stage : VideoStage (δ × List DecodeCall)}
    (decides : Decides resync units fates stage)
    (unit : VideoUnit) :
    withholds stage unit = true ↔
      resync = true ∧ unit.isKeyframe? = some false ∧ ¬ InStep fates := by
  rw [withholds, Bool.and_eq_true, beq_iff_eq, decides.awaiting]
  tauto

/-- A unit that is withheld leaves the decoder as far out of step as it was. -/
theorem Decides.withhold
    {units : List VideoUnit}
    {fates : List UnitFate}
    {stage : VideoStage (δ × List DecodeCall)}
    (decides : Decides resync units fates stage)
    {unit : VideoUnit}
    (waits : withholds stage unit = true) :
    Decides resync (units ++ [unit]) (fates ++ [⟨unit, none⟩]) stage where
  arrivals := by
    rw [List.map_append, decides.arrivals]
    rfl
  calls := by
    rw [List.filterMap_append, decides.calls]
    exact (List.append_nil _).symm
  withheld := by
    refine withheldExactly_concat decides.withheld ?_
    simpa using (decides.withholds_iff unit).mp waits
  awaiting := by
    rw [decides.awaiting, inStep_concat_iff]
    simp [UnitFate.isRejected, UnitFate.isHandedKeyframe]

/-- A unit that is handed over may bring the decoder into step or out of it. -/
theorem Decides.decode
    {units : List VideoUnit}
    {fates : List UnitFate}
    {stage : VideoStage (δ × List DecodeCall)}
    (decides : Decides resync units fates stage)
    {unit : VideoUnit}
    (passes : withholds stage unit = false) :
    Decides resync (units ++ [unit])
      (fates ++ [⟨unit, some (decoder.decode stage.decoder.1 unit.payload).2⟩])
      (decodeUnit decoder.logged resync
        { stage with
          awaitingKeyframe := stage.awaitingKeyframe && unit.isKeyframe? != some true }
        unit).1 := by
  obtain ⟨handed, awaits⟩ := @decodeUnit_keeps _ decoder.logged resync
    { stage with awaitingKeyframe := stage.awaitingKeyframe && unit.isKeyframe? != some true } unit
  rw [VideoDecoder.decode_logged] at handed awaits
  constructor
  · rw [List.map_append, decides.arrivals]
    rfl
  · rw [VideoStage.calls, handed, List.filterMap_append, ← decides.calls]
    rfl
  · refine withheldExactly_concat decides.withheld ?_
    rw [← decides.withholds_iff unit, passes]
    simp
  · -- A keyframe clears the flag before it is decoded, and its rejection sets it again.
    rw [awaits, inStep_concat_iff]
    generalize (decoder.decode stage.decoder.1 unit.payload).2 = outcome
    have before := decides.awaiting
    cases rejected : outcome.isRejection with
    | true => simp [UnitFate.isRejected, rejected]
    | false =>
        simp only [Bool.false_eq_true, if_false, Bool.and_eq_true, bne_iff_ne, before,
          UnitFate.isRejected, UnitFate.isHandedKeyframe, Option.any_some, rejected,
          Option.isSome_some, Bool.true_and, beq_iff_eq, true_and, not_or]
        tauto

/-- One packet more adds the fate of its unit, if it holds one. -/
theorem Decides.handle
    {units : List VideoUnit}
    {fates : List UnitFate}
    {stage : VideoStage (δ × List DecodeCall)}
    (decides : Decides resync units fates stage)
    (packet : Packet) :
    ∃ next : List UnitFate,
      Decides resync (units ++ (unitIn? packet).toList) (fates ++ next)
        (VideoWorker.handle decoder.logged resync stage packet).1 := by
  have handled := @handleCase _ decoder.logged resync stage packet
  generalize VideoWorker.handle decoder.logged resync stage packet = result at handled ⊢
  cases handled with
  | dropped absent error absorbed =>
      refine ⟨[], ?_⟩
      rw [absent, Option.toList_none, List.append_nil, List.append_nil]
      exact decides
  | withheld unit present waits =>
      rw [present]
      exact ⟨_, decides.withhold waits⟩
  | decoded unit present passes =>
      rw [present]
      exact ⟨_, decides.decode passes⟩

end VideoWorker

end DroneSession
