import DroneSession.Document.Record
import DroneSession.Proofs.Flight.Bounds
import DroneSession.Proofs.Yaml.Decoding

namespace DroneSession

/-!
# Where flight commands come from

A command is made by one of its constructors or read from a document, and then changed on one axis
after another.  Constructors and changes bound the number that they are given; a document is taken
as it is written.  So a command is safe unless some axis still holds a number that a document gave
it, and that number is out of bounds.
-/

/-- A way to come by a flight command. -/
inductive CommandOrigin where
  | hover
  | standard
  | of (pitch roll yaw gaz : Float32)
  | document (text : String)
  | withAxis (origin : CommandOrigin) (axis : Axis) (value : Float32)

/-- The key under which documents hold the number of an axis. -/
def Axis.key : Axis → String
  | .pitch => "pitch"
  | .roll => "roll"
  | .yaw => "yaw"
  | .gaz => "gaz"

namespace Document

open Yaml.Decoder (Contains Counts bind_eq_some_iff pure_eq_some_iff record field single)

/-- The number that a document holds for an axis, whatever it holds for the others. -/
def writtenNumber?
    (text : String)
    (axis : Axis) :
    Option Float32 :=
  Yaml.read? (record (field axis.key single)) text

/-- Of the four numbers of a command each can be read by itself. -/
theorem readCommand_contains
    (axis : Axis)
    (node : Yaml.Node) :
    (readCommand node).Contains (record (field axis.key single) node)
      fun command => command.axis axis := by
  refine Contains.record ?_ node
  intro entries scope start command later read
  obtain ⟨pitch, first, pitchRead, read⟩ := bind_eq_some_iff.mp read
  obtain ⟨roll, second, rollRead, read⟩ := bind_eq_some_iff.mp read
  obtain ⟨yaw, third, yawRead, read⟩ := bind_eq_some_iff.mp read
  obtain ⟨gaz, last, gazRead, read⟩ := bind_eq_some_iff.mp read
  obtain ⟨rfl, -⟩ := pure_eq_some_iff.mp read
  have counts : ∀ name, Counts (field name single entries) :=
    fun name => .field .single name entries
  have toFirst : start ≤ first := (counts _).grows pitchRead
  have toSecond : start ≤ second := Nat.le_trans toFirst ((counts _).grows rollRead)
  have toThird : start ≤ third := Nat.le_trans toSecond ((counts _).grows yawRead)
  have alone :
      ∀ {name number count after},
        field name single entries scope count = some (number, after) →
        start ≤ count →
        ∃ last, field name single entries scope start = some (number, last) := by
    intro name number count after read bound
    obtain ⟨last, -, again⟩ := (counts name).answers read start bound
    exact ⟨last, again⟩
  cases axis with
  | pitch => exact ⟨first, pitchRead⟩
  | roll => exact alone rollRead toFirst
  | yaw => exact alone yawRead toSecond
  | gaz => exact alone gazRead toThird

/-- A command that is read holds the numbers of its document. -/
theorem writtenNumber?_of_read
    {text : String}
    {command : FlightCommand}
    (read : Yaml.read? readCommand text = some command)
    (axis : Axis) :
    writtenNumber? text axis = some (command.axis axis) :=
  Contains.read?_eq_some (readCommand_contains axis) read

end Document

/-- A command made of any four numbers is safe. -/
theorem FlightCommand.isSafe_of
    (pitch roll yaw gaz : Float32) :
    (FlightCommand.of pitch roll yaw gaz).IsSafe := by
  intro axis
  cases axis <;> exact isAxisValue_bounded _

namespace CommandOrigin

/-- The command that comes about, which a document may fail to give. -/
def command? : CommandOrigin → Option FlightCommand
  | .hover => some .hover
  | .standard => some default
  | .of pitch roll yaw gaz => some (.of pitch roll yaw gaz)
  | .document text => Yaml.read? Document.readCommand text
  | .withAxis origin axis value =>
      origin.command?.map fun command => command.withAxis axis value

/-- The document whose number an axis still holds. -/
def source?
    (axis : Axis) :
    CommandOrigin → Option String
  | .document text => some text
  | .withAxis origin changed _ => if axis = changed then none else origin.source? axis
  | _ => none

variable {origin : CommandOrigin} {command : FlightCommand} {axis : Axis}

/--
An axis holds a bounded number, or the number that the document holds from which the axis was read
and since which it was not changed.
-/
theorem isAxisValue_or_written
    (made : origin.command? = some command)
    (axis : Axis) :
    match origin.source? axis with
    | none => IsAxisValue (command.axis axis)
    | some text => Document.writtenNumber? text axis = some (command.axis axis) := by
  induction origin generalizing command with
  | hover | standard =>
      cases made
      exact FlightCommand.isSafe_hover axis
  | of pitch roll yaw gaz =>
      cases made
      exact FlightCommand.isSafe_of pitch roll yaw gaz axis
  | document text =>
      exact Document.writtenNumber?_of_read made axis
  | withAxis origin changed value inductionHypothesis =>
      obtain ⟨earlier, earlierMade, rfl⟩ := Option.map_eq_some_iff.mp made
      rw [FlightCommand.axis_withAxis, source?]
      by_cases same : axis = changed
      · rw [if_pos same, if_pos same]
        exact isAxisValue_bounded value
      · rw [if_neg same, if_neg same]
        exact inductionHypothesis earlierMade

/-- What holds of the command that comes about in some way. -/
structure BoundedUnlessWritten (origin : CommandOrigin) : Prop where
  /-- An axis that no document has a part in is bounded. -/
  bounded :
    ∀ {command axis},
      origin.command? = some command →
      origin.source? axis = none →
      IsAxisValue (command.axis axis)
  /-- Any other axis holds the number of its document, as it is written. -/
  written :
    ∀ {command axis text},
      origin.command? = some command →
      origin.source? axis = some text →
      Document.writtenNumber? text axis = some (command.axis axis)
  /-- So the command is safe exactly if the documents keep the bounds where they still count. -/
  safe :
    ∀ {command},
      origin.command? = some command →
      (command.IsSafe ↔
        ∀ {axis text number},
          origin.source? axis = some text →
          Document.writtenNumber? text axis = some number →
          IsAxisValue number)

/-- Commands are bounded on every axis but those that still hold what a document gave them. -/
theorem boundedUnlessWritten (origin : CommandOrigin) : BoundedUnlessWritten origin where
  bounded := by
    intro command axis made unread
    have held := isAxisValue_or_written made axis
    rw [unread] at held
    exact held
  written := by
    intro command axis text made read
    have held := isAxisValue_or_written made axis
    rw [read] at held
    exact held
  safe := by
    intro command made
    constructor
    · intro safe axis text number read found
      have held := isAxisValue_or_written made axis
      rw [read] at held
      obtain rfl := Option.some.inj (held.symm.trans found)
      exact safe axis
    · intro documents axis
      have held := isAxisValue_or_written made axis
      cases source : origin.source? axis with
      | none =>
          rw [source] at held
          exact held
      | some text =>
          rw [source] at held
          exact documents source held

/-- A document may give one axis a number beyond the bounds and another one no number at all. -/
theorem reads_unbounded_command :
    ∃ command,
      (document "pitch: 5.0\nroll: 0.0\nyaw: 0.0\ngaz: .nan\n").command? = some command ∧
      1.0 < command.axis .pitch ∧
      (command.axis .gaz).isFinite = false ∧
      ¬ command.IsSafe := by
  have read :
      (document "pitch: 5.0\nroll: 0.0\nyaw: 0.0\ngaz: .nan\n").command?.any
        (fun command =>
          decide (1.0 < command.axis .pitch) && !(command.axis .gaz).isFinite) = true := by
    decide +kernel
  obtain ⟨command, made, beyond⟩ := (Option.any_eq_true _ _).mp read
  obtain ⟨above, infinite⟩ := Bool.and_eq_true_iff.mp beyond
  have noNumber : (command.axis .gaz).isFinite = false := by
    simpa using infinite
  refine ⟨command, made, of_decide_eq_true above, noNumber, ?_⟩
  intro safe
  rw [(safe .gaz).finite] at noNumber
  cases noNumber

end CommandOrigin

end DroneSession
