import Mathlib.Order.Compare
import DroneSession.Flight.Command

namespace DroneSession

/-!
# Bounds of flight commands

Of the numbers that an axis is given only their order and their kind matter.  Any two numbers are
ordered, and what lies between two finite numbers is finite; so a limited value is finite and lies
between the limits, whatever value was limited.
-/

/-! ## The order of single precision numbers -/

namespace Single

open Float.Model

/-- Magnitudes are compared by their exponents and then by their mantissas. -/
theorem magnitude_swap
    (exponent otherExponent : Int)
    (mantissa otherMantissa : Nat) :
    (compare otherExponent exponent).then (compare otherMantissa mantissa) =
      ((compare exponent otherExponent).then (compare mantissa otherMantissa)).swap := by
  rw [Ordering.swap_then, ← Std.OrientedCmp.eq_swap, ← Std.OrientedCmp.eq_swap]

/-- Comparing the other way round turns the answer round. -/
theorem compare_swap (left right : UnpackedFloat) :
    right.compare left = (left.compare right).map Ordering.swap := by
  rcases left with (_ | _) | _ | _ | ⟨_ | _, mantissa, exponent, positive⟩ <;>
    rcases right with (_ | _) | _ | _ | ⟨_ | _, otherMantissa, otherExponent, otherPositive⟩ <;>
    first
      | rfl
      | exact congrArg some (magnitude_swap exponent otherExponent mantissa otherMantissa)
      | exact
          congrArg (fun order => some order.swap)
            (magnitude_swap exponent otherExponent mantissa otherMantissa)

/-- Any two numbers can be compared. -/
theorem exists_compare_eq
    {left right : UnpackedFloat}
    (leftNumber : left.isNaN = false)
    (rightNumber : right.isNaN = false) :
    ∃ order, left.compare right = some order := by
  cases left with
  | notANumber =>
      cases leftNumber
  | infinity sign | zero sign | finite sign =>
      cases right with
      | notANumber =>
          cases rightNumber
      | infinity otherSign | zero otherSign | finite otherSign =>
          cases sign <;> cases otherSign <;> exact ⟨_, rfl⟩

variable {left right : Float32}

/-- One number is at most another exactly if it is in the model of numbers. -/
theorem le_iff :
    left ≤ right ↔ left.toModel.unpack.le right.toModel.unpack = true := by
  change left.le right = true ↔ _
  rw [Float32.le, decide_eq_true_iff]
  rfl

/-- One number is less than another exactly if it is in the model of numbers. -/
theorem lt_iff :
    left < right ↔ left.toModel.unpack.lt right.toModel.unpack = true := by
  change left.lt right = true ↔ _
  rw [Float32.lt, decide_eq_true_iff]
  rfl

/-- Of two numbers the one that is not less is at least as great. -/
theorem le_of_not_lt
    (leftNumber : left.isNaN = false)
    (rightNumber : right.isNaN = false)
    (notLess : ¬ left < right) :
    right ≤ left := by
  obtain ⟨order, compared⟩ := exists_compare_eq leftNumber rightNumber
  rw [lt_iff, UnpackedFloat.lt, compared] at notLess
  rw [le_iff, UnpackedFloat.le, compare_swap left.toModel.unpack, compared]
  cases order with
  | lt => exact absurd rfl notLess
  | eq | gt => rfl

/-- What is not a number is neither below nor above anything. -/
theorem not_lt_of_isNaN
    (notNumber : left.isNaN = true ∨ right.isNaN = true) :
    ¬ left < right := by
  rw [lt_iff]
  unfold Float32.isNaN Float32.Model.isNaN at notNumber
  generalize left.toModel.unpack = lower at notNumber ⊢
  generalize right.toModel.unpack = upper at notNumber ⊢
  cases lower with
  | notANumber =>
      exact Bool.false_ne_true
  | infinity | zero | finite =>
      cases upper with
      | notANumber => exact Bool.false_ne_true
      | infinity | zero | finite => rcases notNumber with same | same <;> cases same

/-- What lies between two finite numbers is finite. -/
theorem isFinite_of_between
    {value : Float32}
    (leftFinite : left.isFinite = true)
    (rightFinite : right.isFinite = true)
    (atLeast : left ≤ value)
    (atMost : value ≤ right) :
    value.isFinite = true := by
  rw [le_iff] at atLeast atMost
  unfold Float32.isFinite Float32.Model.isFinite at leftFinite rightFinite ⊢
  generalize left.toModel.unpack = lower at leftFinite atLeast
  generalize right.toModel.unpack = upper at rightFinite atMost
  generalize value.toModel.unpack = between at atLeast atMost ⊢
  cases between with
  | zero | finite =>
      rfl
  | notANumber =>
      cases upper <;> cases atMost
  | infinity sign =>
      cases sign with
      | positive =>
          cases upper with
          | infinity | notANumber => cases rightFinite
          | zero | finite => cases atMost
      | negative =>
          cases lower with
          | infinity | notANumber => cases leftFinite
          | zero | finite => cases atLeast

/-- What is no number is not finite. -/
theorem isFinite_eq_false_of_isNaN
    {value : Float32}
    (notNumber : value.isNaN = true) :
    value.isFinite = false := by
  unfold Float32.isNaN Float32.Model.isNaN at notNumber
  unfold Float32.isFinite Float32.Model.isFinite
  generalize value.toModel.unpack = unpacked at notNumber ⊢
  cases unpacked with
  | notANumber => rfl
  | infinity | zero | finite => cases notNumber

end Single

/-! ## Limited values -/

/-- A value that an axis may hold. -/
structure IsAxisValue (value : Float32) : Prop where
  finite : value.isFinite = true
  atLeast : -1.0 ≤ value
  atMost : value ≤ 1.0

/-- A value from minus one to one is a value of an axis. -/
theorem isAxisValue_of_between
    {value : Float32}
    (atLeast : -1.0 ≤ value)
    (atMost : value ≤ 1.0) :
    IsAxisValue value where
  finite :=
    Single.isFinite_of_between (by decide +kernel) (by decide +kernel) atLeast atMost
  atLeast := atLeast
  atMost := atMost

theorem isAxisValue_zero : IsAxisValue 0.0 :=
  isAxisValue_of_between (by decide +kernel) (by decide +kernel)

/-- Limiting a number brings it between the limits, from infinity too. -/
theorem isAxisValue_clampUnit
    {value : Float32}
    (number : value.isNaN = false) :
    IsAxisValue (clampUnit value) := by
  unfold clampUnit
  by_cases below : value < -1.0
  · have notAbove : ¬ (1.0 : Float32) < -1.0 := by
      decide +kernel
    simp only [below, if_true, notAbove, if_false]
    exact isAxisValue_of_between (by decide +kernel) (by decide +kernel)
  · simp only [below, if_false]
    by_cases above : 1.0 < value
    · simp only [above, if_true]
      exact isAxisValue_of_between (by decide +kernel) (by decide +kernel)
    · simp only [above, if_false]
      exact isAxisValue_of_between
        (Single.le_of_not_lt number (by decide +kernel) below)
        (Single.le_of_not_lt (by decide +kernel) number above)

/-- Limiting passes on what is not a number. -/
theorem clampUnit_of_isNaN
    {value : Float32}
    (notNumber : value.isNaN = true) :
    clampUnit value = value := by
  simp [clampUnit, Single.not_lt_of_isNaN (.inl notNumber), Single.not_lt_of_isNaN (.inr notNumber)]

/-- What is no number is limited to zero. -/
theorem bounded_of_isNaN
    {value : Float32}
    (notNumber : value.isNaN = true) :
    bounded value = 0.0 := by
  simp [bounded, Single.isFinite_eq_false_of_isNaN notNumber]

/-- Every value is brought between the limits if what is not finite becomes zero. -/
theorem isAxisValue_bounded (value : Float32) : IsAxisValue (bounded value) := by
  unfold bounded
  cases finite : value.isFinite with
  | false =>
      exact isAxisValue_zero
  | true =>
      apply isAxisValue_clampUnit
      rw [← Bool.not_eq_true]
      intro notNumber
      rw [Single.isFinite_eq_false_of_isNaN notNumber] at finite
      cases finite

namespace FlightCommand

/-- Every axis may hold what the command gives it. -/
def IsSafe (command : FlightCommand) : Prop :=
  ∀ axis, IsAxisValue (command.axis axis)

theorem axis_hover (axis : Axis) : hover.axis axis = 0.0 := by
  cases axis <;> rfl

/-- Changing one axis bounds the number for it and leaves the other axes alone. -/
theorem axis_withAxis
    (command : FlightCommand)
    (axis other : Axis)
    (value : Float32) :
    (command.withAxis axis value).axis other =
      if other = axis then bounded value else command.axis other := by
  cases axis <;> cases other <;> rfl

theorem isSafe_hover : hover.IsSafe := by
  intro axis
  rw [axis_hover]
  exact isAxisValue_zero

/-- A safe command stays safe when an axis is given any number. -/
theorem IsSafe.withAxis
    {command : FlightCommand}
    (safe : command.IsSafe)
    (axis : Axis)
    (value : Float32) :
    (command.withAxis axis value).IsSafe := by
  intro other
  rw [axis_withAxis]
  split
  · exact isAxisValue_bounded value
  · exact safe other

end FlightCommand

end DroneSession
