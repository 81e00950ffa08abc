import DroneSession.Recording.Output

namespace DroneSession

/-!
# What reaches a sink

The bytes that a sink has received and those that wait for it, in this order, are the bytes that
were written.  A write adds its bytes to them, or the first of its bytes if it fails, and a flush
that succeeds leaves none waiting.
-/

/-- A sink that never fails; each write takes at least one byte. -/
structure Sink.Reliable
    {ω : Type}
    (sink : Sink ω) :
    Prop where
  takes : ∀ state bytes, bytes ≠ [] → ∃ count, (sink.write state bytes).2 = .ok (count + 1)
  flushes : ∀ state, (sink.flush state).2 = .ok ()

theorem Sink.memory_reliable : Sink.memory.Reliable where
  takes := by
    intro state bytes nonempty
    obtain ⟨byte, rest, rfl⟩ := List.exists_cons_of_ne_nil nonempty
    exact ⟨rest.length, rfl⟩
  flushes := fun _ => rfl

namespace Output

variable {ω : Type} {sink : Sink ω}

/-- Everything that was written to an output and not lost. -/
def written (output : Output ω) : Bytes :=
  output.received ++ output.pending

/-! ## Offering bytes -/

/-- A sink takes bytes from the front, all of them unless it fails. -/
theorem offer_parts
    (nothingTaken : String)
    (state : ω)
    (bytes : Bytes) :
    (offer sink nothingTaken state bytes).taken ++ (offer sink nothingTaken state bytes).left =
        bytes ∧
      ((offer sink nothingTaken state bytes).fault = none →
        (offer sink nothingTaken state bytes).left = []) := by
  fun_induction offer sink nothingTaken state bytes with
  | case1 state => simp
  | case2 => simp
  | case3 => simp
  | case4 => simp
  | case5 state byte rest next count answer more offered inductionHypothesis =>
      obtain ⟨parts, complete⟩ := inductionHypothesis
      refine ⟨?_, complete⟩
      simp only [List.cons_append, List.append_assoc]
      rw [parts, List.take_append_drop]

/-- A sink that never fails takes everything. -/
theorem offer_reliable
    (reliable : sink.Reliable)
    (nothingTaken : String)
    (state : ω)
    (bytes : Bytes) :
    ∃ after, offer sink nothingTaken state bytes = ⟨after, bytes, [], none⟩ := by
  have faultless : (offer sink nothingTaken state bytes).fault = none := by
    fun_induction offer sink nothingTaken state bytes with
    | case1 => rfl
    | case2 state byte rest next fault answer =>
        obtain ⟨count, taken⟩ := reliable.takes state (byte :: rest) (List.cons_ne_nil byte rest)
        rw [answer] at taken
        cases taken
    | case3 state byte rest next answer =>
        obtain ⟨count, taken⟩ := reliable.takes state (byte :: rest) (List.cons_ne_nil byte rest)
        rw [answer] at taken
        cases taken
    | case4 => rfl
    | case5 state byte rest next count answer more offered inductionHypothesis =>
        exact inductionHypothesis
  obtain ⟨parts, complete⟩ := @offer_parts ω sink nothingTaken state bytes
  rcases offered : offer sink nothingTaken state bytes with ⟨after, taken, left, fault⟩
  rw [offered] at faultless parts complete
  simp only at faultless parts complete
  rw [complete faultless, List.append_nil] at parts
  rw [parts, complete faultless, faultless]
  exact ⟨after, rfl⟩

/-! ## Draining and writing -/

/-- What writing some bytes has done: a part of them was added, and all of them if it succeeded. -/
def Adds
    (output : Output ω)
    (bytes : Bytes)
    (outcome : Output ω × Except StreamFault Unit) :
    Prop :=
  ∃ added, added <+: bytes ∧ outcome.1.written = output.written ++ added ∧
    (outcome.2 = .ok () → added = bytes)

/-- Draining moves bytes to the sink, all of them if it succeeds, and loses none. -/
theorem drain_parts
    (output : Output ω) :
    (output.drain sink).1.written = output.written ∧
      ((output.drain sink).2 = .ok () → (output.drain sink).1.pending = []) := by
  obtain ⟨parts, complete⟩ := @offer_parts ω sink
    "failed to write the buffered data" output.state output.pending
  unfold drain
  rcases offered : offer sink "failed to write the buffered data" output.state output.pending
    with ⟨after, taken, left, fault⟩
  rw [offered] at parts complete
  simp only at parts complete
  have kept : output.received ++ taken ++ left = output.written := by
    rw [List.append_assoc, parts, written]
  cases fault with
  | none => exact ⟨kept, fun _ => complete rfl⟩
  | some fault => exact ⟨kept, fun succeeded => by cases succeeded⟩

/-- Writing past an empty buffer hands bytes to the sink behind what it has received. -/
theorem writeThrough_adds
    {output : Output ω}
    (empty : output.pending = [])
    (bytes : Bytes) :
    output.Adds bytes (output.writeThrough sink bytes) := by
  obtain ⟨parts, complete⟩ := @offer_parts ω sink
    "failed to write whole buffer" output.state bytes
  unfold writeThrough
  rcases offered : offer sink "failed to write whole buffer" output.state bytes
    with ⟨after, taken, left, fault⟩
  rw [offered] at parts complete
  simp only at parts complete
  have kept : output.received ++ taken ++ output.pending = output.written ++ taken := by
    rw [written, empty, List.append_nil, List.append_nil]
  refine ⟨taken, ⟨left, parts⟩, ?_, ?_⟩
  · cases fault with
    | none => exact kept
    | some fault => exact kept
  · cases fault with
    | none =>
        intro _
        rw [← parts, complete rfl, List.append_nil]
    | some fault =>
        intro succeeded
        cases succeeded

/-- Bytes that fit are added to those that wait, and others go straight to the sink. -/
theorem place_adds
    {output : Output ω}
    {bytes : Bytes}
    (fits : output.pending.length + bytes.length ≤ capacity ∨ output.pending = []) :
    output.Adds bytes (output.place sink bytes) := by
  unfold place
  by_cases small : bytes.length < capacity
  · rw [if_pos small]
    refine ⟨bytes, List.prefix_rfl, ?_, fun _ => rfl⟩
    simp only [written, List.append_assoc]
  · rw [if_neg small]
    -- Bytes that fill the whole buffer fit behind what is waiting only if nothing is.
    have empty : output.pending = [] := by
      rcases fits with fits | empty
      · exact List.length_eq_zero_iff.mp (by omega)
      · exact empty
    exact writeThrough_adds empty bytes

/-- A write adds its bytes behind everything written before, or a part of them if it fails. -/
theorem write_adds
    (output : Output ω)
    (bytes : Bytes) :
    output.Adds bytes (output.write sink bytes) := by
  unfold write
  by_cases fits : output.pending.length + bytes.length ≤ capacity
  · rw [if_pos fits]
    exact place_adds (.inl fits)
  · rw [if_neg fits]
    obtain ⟨kept, complete⟩ := @drain_parts ω sink output
    rcases drained : output.drain sink with ⟨behind, result⟩
    rw [drained] at kept complete
    cases result with
    | ok done =>
        have added := @place_adds ω sink behind bytes (.inr (complete rfl))
        rwa [Adds, kept] at added
    | error fault =>
        refine ⟨[], List.nil_prefix, ?_, ?_⟩
        · rw [List.append_nil]
          exact kept
        · intro succeeded
          cases succeeded

/-- Several pieces are added in their order, up to a part of the piece that fails. -/
theorem writeAll_adds
    (output : Output ω)
    (pieces : List Bytes) :
    output.Adds pieces.flatten (output.writeAll sink pieces) := by
  induction pieces generalizing output with
  | nil => exact ⟨[], List.nil_prefix, (List.append_nil _).symm, fun _ => rfl⟩
  | cons bytes pieces inductionHypothesis =>
      obtain ⟨added, front, behindWritten, complete⟩ := @write_adds ω sink output bytes
      rw [writeAll]
      rcases wrote : output.write sink bytes with ⟨behind, result⟩
      rw [wrote] at behindWritten complete
      cases result with
      | ok done =>
          obtain rfl := complete rfl
          obtain ⟨more, frontMore, lastWritten, completeMore⟩ := inductionHypothesis behind
          refine ⟨added ++ more, ?_, ?_, ?_⟩
          · rw [List.flatten_cons]
            exact List.prefix_append_right_inj added |>.mpr frontMore
          · exact lastWritten.trans (by rw [behindWritten, List.append_assoc])
          · intro succeeded
            rw [completeMore succeeded, List.flatten_cons]
      | error fault =>
          refine ⟨added, ?_, behindWritten, ?_⟩
          · rw [List.flatten_cons]
            exact front.trans (List.prefix_append _ _)
          · intro succeeded
            cases succeeded

/-- A flush changes nothing of what was written, and brings all of it to the sink if it succeeds. -/
theorem flush_parts
    (output : Output ω) :
    (output.flush sink).1.written = output.written ∧
      ((output.flush sink).2 = .ok () → (output.flush sink).1.received = output.written) := by
  obtain ⟨kept, complete⟩ := @drain_parts ω sink output
  unfold flush
  rcases drained : output.drain sink with ⟨behind, result⟩
  rw [drained] at kept complete
  cases result with
  | ok done =>
      refine ⟨kept, fun _ => ?_⟩
      have empty : behind.pending = [] := complete rfl
      simp only at kept
      rw [written, empty, List.append_nil] at kept
      exact kept
  | error fault =>
      refine ⟨kept, ?_⟩
      intro succeeded
      cases succeeded

/-! ## Sinks that never fail -/

/-- A sink that never fails takes all that waits. -/
theorem drain_reliable
    (reliable : sink.Reliable)
    (output : Output ω) :
    (output.drain sink).2 = .ok () := by
  obtain ⟨after, offered⟩ :=
    offer_reliable reliable "failed to write the buffered data" output.state output.pending
  simp only [drain, offered]

/-- A sink that never fails has room for every write. -/
theorem place_reliable
    (reliable : sink.Reliable)
    (output : Output ω)
    (bytes : Bytes) :
    (output.place sink bytes).2 = .ok () := by
  obtain ⟨after, offered⟩ :=
    offer_reliable reliable "failed to write whole buffer" output.state bytes
  unfold place
  by_cases small : bytes.length < capacity
  · rw [if_pos small]
  · rw [if_neg small]
    simp only [writeThrough, offered]

theorem write_reliable
    (reliable : sink.Reliable)
    (output : Output ω)
    (bytes : Bytes) :
    (output.write sink bytes).2 = .ok () := by
  unfold write
  by_cases fits : output.pending.length + bytes.length ≤ capacity
  · rw [if_pos fits]
    exact place_reliable reliable output bytes
  · rw [if_neg fits]
    have drains := drain_reliable reliable output
    rcases drained : output.drain sink with ⟨behind, result⟩
    rw [drained] at drains
    obtain rfl : result = .ok () := drains
    exact place_reliable reliable behind bytes

/-- With a sink that never fails, writing succeeds and adds everything. -/
theorem writeAll_reliable
    (reliable : sink.Reliable)
    (output : Output ω)
    (pieces : List Bytes) :
    ∃ next, output.writeAll sink pieces = (next, .ok ()) ∧
      next.written = output.written ++ pieces.flatten := by
  have succeeds : (output.writeAll sink pieces).2 = .ok () := by
    induction pieces generalizing output with
    | nil => rfl
    | cons bytes pieces inductionHypothesis =>
        have wrote := write_reliable reliable output bytes
        rw [writeAll]
        rcases written : output.write sink bytes with ⟨behind, result⟩
        rw [written] at wrote
        obtain rfl : result = .ok () := wrote
        exact inductionHypothesis behind
  obtain ⟨added, -, written, complete⟩ := @writeAll_adds ω sink output pieces
  rw [complete succeeds] at written
  exact ⟨_, Prod.ext rfl succeeds, written⟩

/-- With a sink that never fails, a flush brings everything to it. -/
theorem flush_reliable
    (reliable : sink.Reliable)
    (output : Output ω) :
    ∃ next, output.flush sink = (next, .ok ()) ∧ next.received = output.written := by
  have succeeds : (output.flush sink).2 = .ok () := by
    have drains := drain_reliable reliable output
    unfold flush
    rcases drained : output.drain sink with ⟨behind, result⟩
    rw [drained] at drains
    obtain rfl : result = .ok () := drains
    exact reliable.flushes behind.state
  obtain ⟨-, received⟩ := @flush_parts ω sink output
  exact ⟨_, Prod.ext rfl succeeds, received succeeds⟩

end Output

end DroneSession
