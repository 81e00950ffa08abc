import DroneSession.Bytes
import DroneSession.Error

namespace DroneSession

/-!
# Buffered output

Small writes are collected and reach the sink together.  A sink may accept only a part of what it is
offered; the rest is offered again.  Bytes reach the sink in the order in which they were written,
and those that a failing sink did not take stay in the buffer.
-/

/-- A byte sink as a function of a state of its own. -/
structure Sink (ω : Type) where
  /-- Offer bytes; the answer is how many of them were taken. -/
  write : ω → Bytes → ω × Except StreamFault Nat
  flush : ω → ω × Except StreamFault Unit

namespace Sink

/-- A sink that fails on every write, on every flush, on both or on neither. -/
def failing
    (onWrite onFlush : Option StreamFault) :
    Sink Unit where
  write := fun _ bytes =>
    match onWrite with
    | none => ((), .ok bytes.length)
    | some fault => ((), .error fault)
  flush := fun _ =>
    match onFlush with
    | none => ((), .ok ())
    | some fault => ((), .error fault)

/-- A sink that takes everything. -/
def memory : Sink Unit :=
  failing none none

end Sink

/-- A sink, the bytes that it has taken and the bytes that wait for it. -/
structure Output (ω : Type) where
  state : ω
  received : Bytes
  pending : Bytes

/-- What became of bytes that were offered to a sink. -/
structure Offered (ω : Type) where
  state : ω
  taken : Bytes
  left : Bytes
  fault : Option StreamFault

namespace Output

variable {ω : Type}

/-- The number of bytes that the buffer holds at most. -/
def capacity : Nat :=
  8192

/-- An output that nothing was written to. -/
def start (state : ω) : Output ω where
  state := state
  received := []
  pending := []

/-- Offer bytes until all are taken or the sink fails; taking nothing is a failure with a text. -/
def offer
    (sink : Sink ω)
    (nothingTaken : String)
    (state : ω)
    (bytes : Bytes) :
    Offered ω :=
  match bytes with
  | [] => ⟨state, [], [], none⟩
  | byte :: rest =>
      match sink.write state (byte :: rest) with
      | (state, .error fault) => ⟨state, [], byte :: rest, some fault⟩
      | (state, .ok 0) => ⟨state, [], byte :: rest, some ⟨.writeZero, nothingTaken⟩⟩
      | (state, .ok (count + 1)) =>
          if rest.length ≤ count then
            ⟨state, byte :: rest, [], none⟩
          else
            let offered := offer sink nothingTaken state (rest.drop count)
            { offered with taken := byte :: (rest.take count ++ offered.taken) }
termination_by bytes.length
decreasing_by
  simp only [List.length_drop, List.length_cons]
  omega

/-- Offer the waiting bytes to the sink. -/
def drain
    (sink : Sink ω)
    (output : Output ω) :
    Output ω × Except StreamFault Unit :=
  let offered := offer sink "failed to write the buffered data" output.state output.pending
  let output :=
    { state := offered.state
      received := output.received ++ offered.taken
      pending := offered.left }
  match offered.fault with
  | none => (output, .ok ())
  | some fault => (output, .error fault)

/-- Write bytes that are too many for the buffer, which is empty. -/
def writeThrough
    (sink : Sink ω)
    (output : Output ω)
    (bytes : Bytes) :
    Output ω × Except StreamFault Unit :=
  let offered := offer sink "failed to write whole buffer" output.state bytes
  let output :=
    { output with
      state := offered.state
      received := output.received ++ offered.taken }
  match offered.fault with
  | none => (output, .ok ())
  | some fault => (output, .error fault)

/-- Write bytes that fit the buffer, or else bytes that the buffer cannot hold at all. -/
def place
    (sink : Sink ω)
    (output : Output ω)
    (bytes : Bytes) :
    Output ω × Except StreamFault Unit :=
  if bytes.length < capacity then
    ({ output with pending := output.pending ++ bytes }, .ok ())
  else
    output.writeThrough sink bytes

/-- Write bytes, draining the buffer first if they do not fit behind what is waiting. -/
def write
    (sink : Sink ω)
    (output : Output ω)
    (bytes : Bytes) :
    Output ω × Except StreamFault Unit :=
  if output.pending.length + bytes.length ≤ capacity then
    output.place sink bytes
  else
    match output.drain sink with
    | (output, .ok ()) => output.place sink bytes
    | (output, .error fault) => (output, .error fault)

/-- Write several pieces up to the first failure. -/
def writeAll
    (sink : Sink ω)
    (output : Output ω) :
    List Bytes → Output ω × Except StreamFault Unit
  | [] => (output, .ok ())
  | bytes :: others =>
      match output.write sink bytes with
      | (output, .ok ()) => output.writeAll sink others
      | (output, .error fault) => (output, .error fault)

/-- Bring everything that waits to the sink, and then flush the sink. -/
def flush
    (sink : Sink ω)
    (output : Output ω) :
    Output ω × Except StreamFault Unit :=
  match output.drain sink with
  | (output, .error fault) => (output, .error fault)
  | (output, .ok ()) =>
      let (state, result) := sink.flush output.state
      ({ output with state := state }, result)

end Output

end DroneSession
