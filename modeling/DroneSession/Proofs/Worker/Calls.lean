import DroneSession.Proofs.Worker.Traffic

namespace DroneSession

/-!
# The calls of producers

Calls that returned are told apart by their producer and turn.  Those that returned true stand in
the order of the queue, which for each producer is the order of its turns.
-/

namespace Traffic

variable {σ : Type}

/-- Everything that a step can do to the calls of producers. -/
inductive CallCase (traffic : Traffic σ) : Traffic σ → Prop where
  | still
      (next : Traffic σ)
      (producers : next.producers = traffic.producers)
      (sent : next.sent = traffic.sent)
      (refused : next.refused = traffic.refused) :
      CallCase traffic next
  /-- A producer finds the flag set. -/
  | begins
      (producer : Nat)
      (packet : Packet)
      (free : (traffic.producers producer).pending = none) :
      CallCase traffic
        (traffic.setProducer producer
          { calls := (traffic.producers producer).calls + 1
            pending := some ⟨producer, (traffic.producers producer).calls, packet⟩ })
  /-- A producer finds the flag cleared. -/
  | refuses
      (producer : Nat)
      (packet : Packet)
      (free : (traffic.producers producer).pending = none) :
      CallCase traffic
        (traffic.settle ⟨producer, (traffic.producers producer).calls, packet⟩ false)
  | sends
      (producer : Nat)
      (offer : Offer)
      (pending : (traffic.producers producer).pending = some offer)
      (worker : Worker σ)
      (accepted : Bool) :
      CallCase traffic ({ traffic with worker := worker }.settle offer accepted)

theorem callCase
    (traffic : Traffic σ)
    (step : TrafficStep) :
    CallCase traffic (traffic.perform step) := by
  cases step with
  | start =>
      rw [perform]
      split <;> exact .still _ rfl rfl rfl
  | read producer packet =>
      rw [perform, read]
      split
      · exact .still _ rfl rfl rfl
      · rename_i free
        dsimp only
        split
        · exact .begins producer packet free
        · exact .refuses producer packet free
  | send producer =>
      rw [perform, send]
      split
      · exact .still _ rfl rfl rfl
      · rename_i offer pending
        exact .sends producer offer pending _ _
  | beginStop =>
      rw [perform, beginStop]
      split <;> exact .still _ rfl rfl rfl
  | finishStop =>
      rw [perform, finishStop]
      split <;> exact .still _ rfl rfl rfl
  | consume => exact .still _ rfl rfl rfl
  | close => exact .still _ rfl rfl rfl
  | join => exact .still _ rfl rfl rfl

/-- Calls have their turns in the order in which they are made, and none returns twice. -/
structure Numbered (traffic : Traffic σ) : Prop where
  pending : ∀ producer offer, (traffic.producers producer).pending = some offer →
    offer.producer = producer ∧ (traffic.producers producer).calls = offer.turn + 1
  returned : ∀ offer ∈ traffic.sent ++ traffic.refused,
    offer.turn < (traffic.producers offer.producer).returned
  ordered : traffic.sent.Pairwise fun earlier later =>
    earlier.producer = later.producer → earlier.turn < later.turn
  apart : ∀ accepted ∈ traffic.sent, ∀ rejected ∈ traffic.refused,
    accepted.call ≠ rejected.call

theorem numbered_fresh
    (name : String)
    (handler : Handler σ)
    (initial : σ) :
    (fresh name handler initial).Numbered where
  pending := by
    intro producer offer pending
    cases pending
  returned := by
    intro offer member
    cases member
  ordered := .nil
  apart := by
    intro accepted member
    cases member

/-- A call that has not returned differs from all that have. -/
theorem Numbered.call_ne
    {traffic : Traffic σ}
    (numbered : traffic.Numbered)
    {offer other : Offer}
    (turn : (traffic.producers offer.producer).returned = offer.turn)
    (member : other ∈ traffic.sent ++ traffic.refused) :
    other.call ≠ offer.call := by
  intro same
  have sameProducer : other.producer = offer.producer := congrArg Prod.fst same
  have sameTurn : other.turn = offer.turn := congrArg Prod.snd same
  have earlier := numbered.returned other member
  rw [sameProducer, turn, sameTurn] at earlier
  exact Nat.lt_irrefl _ earlier

/-- What has returned after a call returns is this call or had returned before. -/
theorem mem_settle
    {traffic : Traffic σ}
    {offer other : Offer}
    {accepted : Bool}
    (member : other ∈ (traffic.settle offer accepted).sent ++
      (traffic.settle offer accepted).refused) :
    other = offer ∨ other ∈ traffic.sent ++ traffic.refused := by
  cases accepted <;> grind [settle, setProducer]

/-- A call that returns takes the next turn of its producer, whether it was accepted or not. -/
theorem Numbered.settle
    {traffic : Traffic σ}
    (numbered : traffic.Numbered)
    {offer : Offer}
    (turn : (traffic.producers offer.producer).returned = offer.turn)
    (accepted : Bool) :
    (traffic.settle offer accepted).Numbered := by
  have producers : (traffic.settle offer accepted).producers = fun other =>
      if other = offer.producer then
        { calls := offer.turn + 1, pending := none }
      else
        traffic.producers other := by
    cases accepted <;> rfl
  constructor
  · intro producer other pending
    rw [producers] at pending ⊢
    by_cases caller : producer = offer.producer
    · simp [caller] at pending
    · simp only [caller, if_false] at pending ⊢
      exact numbered.pending producer other pending
  · intro other member
    rw [producers]
    by_cases caller : other.producer = offer.producer
    · -- The call that returns has the highest turn of its producer so far.
      simp only [caller, if_true, Producer.returned]
      rcases mem_settle member with rfl | earlier
      · exact Nat.lt_succ_self _
      · have before := numbered.returned other earlier
        rw [caller, turn] at before
        exact Nat.lt_succ_of_lt before
    · simp only [caller, if_false]
      rcases mem_settle member with rfl | earlier
      · exact absurd rfl caller
      · exact numbered.returned other earlier
  · cases accepted with
    | false => exact numbered.ordered
    | true =>
        refine List.pairwise_append.mpr ⟨numbered.ordered, List.pairwise_singleton _ _, ?_⟩
        intro other member last isOffer caller
        rw [List.mem_singleton.mp isOffer] at caller ⊢
        have before := numbered.returned other (List.mem_append_left _ member)
        rwa [caller, turn] at before
  · cases accepted with
    | false =>
        intro other member rejected isRejected
        rcases List.mem_append.mp isRejected with earlier | isOffer
        · exact numbered.apart other member rejected earlier
        · rw [List.mem_singleton.mp isOffer]
          exact numbered.call_ne turn (List.mem_append_left _ member)
    | true =>
        intro other member rejected isRejected
        rcases List.mem_append.mp member with earlier | isOffer
        · exact numbered.apart other earlier rejected isRejected
        · rw [List.mem_singleton.mp isOffer]
          exact (numbered.call_ne turn (List.mem_append_right _ isRejected)).symm

/-- No step lets a call return twice or out of turn. -/
theorem Numbered.perform
    {traffic : Traffic σ}
    (numbered : traffic.Numbered)
    (step : TrafficStep) :
    (traffic.perform step).Numbered := by
  have calls := traffic.callCase step
  generalize traffic.perform step = next at calls ⊢
  cases calls with
  | still next producers sent refused =>
      obtain ⟨pending, returned, ordered, apart⟩ := numbered
      constructor
      · rwa [producers]
      · rwa [producers, sent, refused]
      · rwa [sent]
      · rwa [sent, refused]
  | begins producer packet free =>
      obtain ⟨pending, returned, ordered, apart⟩ := numbered
      refine ⟨?_, ?_, ordered, apart⟩
      · intro other offer isPending
        by_cases caller : other = producer
        · simp only [setProducer, caller, if_true, Option.some.injEq] at isPending ⊢
          rw [← isPending]
          exact ⟨rfl, rfl⟩
        · simp only [setProducer, caller, if_false] at isPending ⊢
          exact pending other offer isPending
      · intro offer member
        have before := returned offer member
        by_cases caller : offer.producer = producer
        · simp only [setProducer, caller, if_true, Producer.returned]
          rwa [caller, Producer.returned, free] at before
        · simpa only [setProducer, caller, if_false] using before
  | refuses producer packet free =>
      refine numbered.settle ?_ false
      simp only [Producer.returned, free]
  | sends producer offer pending worker accepted =>
      have unchanged : { traffic with worker := worker }.Numbered :=
        ⟨numbered.pending, numbered.returned, numbered.ordered, numbered.apart⟩
      refine unchanged.settle ?_ accepted
      obtain ⟨caller, -⟩ := numbered.pending producer offer pending
      simp only [Producer.returned, caller, pending]

/-- Whatever the order of steps, the calls keep their turns. -/
theorem numbered_run
    (name : String)
    (handler : Handler σ)
    (initial : σ)
    (steps : List TrafficStep) :
    ((fresh name handler initial).run steps).Numbered :=
  run_induction (fun _ step numbered => numbered.perform step)
    (numbered_fresh name handler initial) steps

/-- No two calls that returned true are the same call. -/
theorem Numbered.nodup
    {traffic : Traffic σ}
    (numbered : traffic.Numbered) :
    (traffic.sent.map Offer.call).Nodup := by
  refine List.pairwise_map.mpr (numbered.ordered.imp ?_)
  intro earlier later turns same
  have sooner := turns (congrArg Prod.fst same)
  rw [show earlier.turn = later.turn from congrArg Prod.snd same] at sooner
  exact Nat.lt_irrefl _ sooner

end Traffic

end DroneSession
