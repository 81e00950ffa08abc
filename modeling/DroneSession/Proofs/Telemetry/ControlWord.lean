import DroneSession.Telemetry.ControlState

namespace DroneSession

/-!
# The control word

A word and its two halves determine each other: what is decoded from a word packs to this word
again.  The other way around, halves that are packed come back exactly if they are canonical, that
is if no listed value is written as an unknown one.
-/

/-- How the values of a type are written as half words, of which some are listed. -/
structure HalfWordCode
    {Value : Type}
    (raw : Value → UInt16)
    (ofRaw unknown : UInt16 → Value)
    (known : List Value) :
    Prop where
  raw_ofRaw : ∀ half, raw (ofRaw half) = half
  raw_unknown : ∀ half, raw (unknown half) = half
  ofRaw_raw : ∀ value ∈ known, ofRaw (raw value) = value
  covers : ∀ value, value ∈ known ∨ ∃ half, value = unknown half
  apart : ∀ half, unknown half ∉ known

namespace HalfWordCode

variable {Value : Type} {raw : Value → UInt16} {ofRaw unknown : UInt16 → Value}
  {known : List Value}

/-- A half word is unknown exactly if it is not listed. -/
theorem ofRaw_eq_unknown_iff
    (code : HalfWordCode raw ofRaw unknown known)
    {half : UInt16} :
    ofRaw half = unknown half ↔ half ∉ known.map raw := by
  constructor
  · intro read listed
    obtain ⟨value, isKnown, rfl⟩ := List.mem_map.mp listed
    rw [code.ofRaw_raw value isKnown] at read
    rw [read] at isKnown
    exact code.apart _ isKnown
  · intro unlisted
    have same := code.raw_ofRaw half
    rcases code.covers (ofRaw half) with isKnown | ⟨other, read⟩
    · exact absurd (List.mem_map.mpr ⟨ofRaw half, isKnown, same⟩) unlisted
    · rw [read, code.raw_unknown] at same
      rw [read, same]

/-- A value comes back from its half word unless it is a listed one written as unknown. -/
theorem ofRaw_raw_iff
    (code : HalfWordCode raw ofRaw unknown known)
    {value : Value} :
    ofRaw (raw value) = value ↔ ∀ half, value = unknown half → half ∉ known.map raw := by
  constructor
  · rintro same half rfl
    rw [code.raw_unknown] at same
    exact code.ofRaw_eq_unknown_iff.mp same
  · intro canonical
    rcases code.covers value with isKnown | ⟨half, rfl⟩
    · exact code.ofRaw_raw value isKnown
    · rw [code.raw_unknown]
      exact code.ofRaw_eq_unknown_iff.mpr (canonical half rfl)

end HalfWordCode

namespace ControlPhase

/-- No listed value is written as an unknown one. -/
def Canonical (phase : ControlPhase) : Prop :=
  ∀ half, phase = .unknown half → half ∉ known.map ControlPhase.raw

theorem halfWordCode :
    HalfWordCode ControlPhase.raw ofRaw unknown known where
  raw_ofRaw := by
    intro half
    unfold ofRaw
    split
    -- A listed value stands for the half word that it was matched with, an unknown one for itself.
    all_goals first | rfl | (rename_i same; exact UInt16.toNat_inj.mp same.symm)
  raw_unknown := fun _ => rfl
  ofRaw_raw := by
    intro phase isKnown
    cases phase with
    | unknown half => simp [known] at isKnown
    | _ => rfl
  covers := by
    intro phase
    cases phase with
    | unknown half => exact .inr ⟨half, rfl⟩
    | _ => exact .inl (by simp [known])
  apart := by simp [known]

end ControlPhase

namespace FlyingState

/-- No listed value is written as an unknown one. -/
def Canonical (state : FlyingState) : Prop :=
  ∀ half, state = .unknown half → half ∉ known.map FlyingState.raw

theorem halfWordCode :
    HalfWordCode FlyingState.raw ofRaw unknown known where
  raw_ofRaw := by
    intro half
    unfold ofRaw
    split
    -- A listed value stands for the half word that it was matched with, an unknown one for itself.
    all_goals first | rfl | (rename_i same; exact UInt16.toNat_inj.mp same.symm)
  raw_unknown := fun _ => rfl
  ofRaw_raw := by
    intro state isKnown
    cases state with
    | unknown half => simp [known] at isKnown
    | _ => rfl
  covers := by
    intro state
    cases state with
    | unknown half => exact .inr ⟨half, rfl⟩
    | _ => exact .inl (by simp [known])
  apart := by simp [known]

end FlyingState

namespace ControlState

/-- Both halves are the ones that a word is decoded into. -/
structure Canonical (state : ControlState) : Prop where
  phase : state.phase.Canonical
  flying : state.flying.Canonical

/-- The phase is the upper half of a control word, and the flying state is the lower half. -/
theorem toNat_word (state : ControlState) :
    state.word.toNat = state.phase.raw.toNat * UInt16.size + state.flying.raw.toNat := by
  have phaseLess := state.phase.raw.toNat_lt
  have flyingLess : state.flying.raw.toNat < UInt16.size := state.flying.raw.toNat_lt
  have fits : state.phase.raw.toNat <<< 16 < 2 ^ 32 := by
    rw [Nat.shiftLeft_eq]
    omega
  have shifted : (state.phase.raw.toUInt32 <<< 16).toNat = state.phase.raw.toNat <<< 16 := by
    rw [UInt32.toNat_shiftLeft, UInt16.toNat_toUInt32]
    exact Nat.mod_eq_of_lt fits
  rw [word, UInt32.toNat_or, shifted, UInt16.toNat_toUInt32,
    ← Nat.shiftLeft_add_eq_or_of_lt flyingLess, Nat.shiftLeft_eq]

/-- The upper half of a word and its lower half. -/
theorem toNat_halves (word : UInt32) :
    (word >>> 16).toUInt16.toNat = word.toNat / UInt16.size ∧
      word.toUInt16.toNat = word.toNat % UInt16.size := by
  have wordLess := word.toNat_lt
  refine ⟨?_, UInt32.toNat_toUInt16 word⟩
  rw [UInt32.toNat_toUInt16, UInt32.toNat_shiftRight, Nat.shiftRight_eq_div_pow]
  exact Nat.mod_eq_of_lt (Nat.div_lt_of_lt_mul wordLess)

/-- Packing what a word was decoded into gives back the word. -/
theorem word_ofWord (word : UInt32) :
    (ofWord word).word = word := by
  obtain ⟨upper, lower⟩ := toNat_halves word
  rw [← UInt32.toNat_inj, toNat_word, ofWord, ControlPhase.halfWordCode.raw_ofRaw,
    FlyingState.halfWordCode.raw_ofRaw, upper, lower]
  exact Nat.div_add_mod' word.toNat UInt16.size

/-- A word that was packed decodes into its halves exactly if they are canonical. -/
theorem ofWord_word_iff
    {state : ControlState} :
    ofWord state.word = state ↔ state.Canonical := by
  obtain ⟨upper, lower⟩ := toNat_halves state.word
  have flyingLess : state.flying.raw.toNat < UInt16.size := state.flying.raw.toNat_lt
  have phaseHalf : (state.word >>> 16).toUInt16 = state.phase.raw := by
    rw [← UInt16.toNat_inj, upper, toNat_word, Nat.mul_comm, Nat.mul_add_div (by decide),
      Nat.div_eq_of_lt flyingLess, Nat.add_zero]
  have flyingHalf : state.word.toUInt16 = state.flying.raw := by
    rw [← UInt16.toNat_inj, lower, toNat_word, Nat.mul_add_mod_of_lt flyingLess]
  rw [ofWord, phaseHalf, flyingHalf, ControlState.mk.injEq,
    ControlPhase.halfWordCode.ofRaw_raw_iff, FlyingState.halfWordCode.ofRaw_raw_iff]
  exact ⟨fun both => ⟨both.1, both.2⟩, fun canonical => ⟨canonical.phase, canonical.flying⟩⟩

/-- What a word is decoded into is canonical. -/
theorem canonical_ofWord (word : UInt32) :
    (ofWord word).Canonical := by
  rw [← ofWord_word_iff, word_ofWord]

end ControlState

end DroneSession
