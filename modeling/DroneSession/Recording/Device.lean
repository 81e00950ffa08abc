import DroneSession.Recording.Output

namespace DroneSession

/-!
# Devices behind a sink

A device takes bytes as a sink does, but it may interrupt a write, and then it is offered the same
bytes again.  Its patience bounds how often in a row it interrupts, so every write ends.
-/

/-- How a device answers a write. -/
inductive WriteAnswer where
  | interrupted
  | took (count : Nat)
  | failed (fault : StreamFault)
  deriving Repr, DecidableEq

/-- A device as a function of a state of its own. -/
structure Device (ω : Type) where
  write : ω → Bytes → ω × WriteAnswer
  flush : ω → ω × Except StreamFault Unit
  /-- How often the next writes are interrupted at most. -/
  patience : ω → Nat
  patience_lt : ∀ {state next : ω} {bytes : Bytes},
    write state bytes = (next, .interrupted) → patience next < patience state

namespace Device

variable {ω : Type}

/-- A device that does not interrupt a write. -/
def steady (sink : Sink ω) : Device ω where
  write := fun state bytes =>
    match sink.write state bytes with
    | (next, .ok count) => (next, .took count)
    | (next, .error fault) => (next, .failed fault)
  flush := sink.flush
  patience := fun _ => 0
  patience_lt := by
    intro state next bytes interrupted
    split at interrupted <;> cases interrupted

/-- Write bytes, again after every interruption. -/
def retry
    (device : Device ω)
    (state : ω)
    (bytes : Bytes) :
    ω × Except StreamFault Nat :=
  match _answered : device.write state bytes with
  | (next, .interrupted) => device.retry next bytes
  | (next, .took count) => (next, .ok count)
  | (next, .failed fault) => (next, .error fault)
termination_by device.patience state
decreasing_by exact device.patience_lt _answered

/-- What a device is to those who write to it. -/
def sink (device : Device ω) : Sink ω where
  write := device.retry
  flush := device.flush

end Device

end DroneSession
