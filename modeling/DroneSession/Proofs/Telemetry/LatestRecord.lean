import DroneSession.Proofs.Pipeline.Decoding
import DroneSession.Proofs.Worker.Quiet

namespace DroneSession

/-!
# The latest navigation record

At every point of a run the slot of the navigation worker holds the record of the last packet that
held one.  All other packets, whatever bytes they carry, pass through the worker without a trace:
they change neither the slot nor anything that happens later, and nothing that arrives makes the
worker report something or leave its loop.
-/

namespace NavigationWorker

/-- A packet holds a record exactly if it is one of telemetry and its payload decodes. -/
theorem recordIn?_eq_some_iff
    {packet : Packet}
    {record : NavigationRecord} :
    recordIn? packet = some record ↔
      packet.kind = .navigation ∧ Wire.decode packet.payload = .ok record := by
  unfold recordIn?
  cases packet.kind with
  | video =>
      simp
  | navigation =>
      cases Wire.decode packet.payload <;> simp [Except.toOption]

/-- A packet without a record belongs to the other stream or is malformed. -/
theorem recordIn?_eq_none_iff
    {packet : Packet} :
    recordIn? packet = none ↔
      packet.kind = .video ∨ ∃ fault, Wire.decode packet.payload = .error fault := by
  unfold recordIn?
  cases packet.kind with
  | video =>
      simp
  | navigation =>
      cases Wire.decode packet.payload <;> simp [Except.toOption]

/-- Every way in which a packet can fail to hold a record is absorbed. -/
theorem handler_quiet : handler.Quiet where
  handle := by
    intro slot packet
    change (handle slot packet).2 = .done ∨
      ∃ error, (handle slot packet).2 = .failed error ∧ error.isAbsorbed = true
    unfold handle
    cases packet.kind with
    | video =>
        exact .inr ⟨_, rfl, rfl⟩
    | navigation =>
        cases Wire.decode packet.payload with
        | ok record =>
            exact .inl rfl
        | error fault =>
            exact .inr ⟨_, rfl, rfl⟩
  finish := fun _ => rfl

/-- A packet without a record leaves the slot as it is. -/
theorem handle_of_absent
    {packet : Packet}
    (absent : recordIn? packet = none)
    (slot : Slot NavigationRecord) :
    (handler.handle slot packet).1 = slot := by
  change (handle slot packet).1 = slot
  unfold handle
  rcases recordIn?_eq_none_iff.mp absent with video | ⟨fault, malformed⟩
  · rw [video]
  · cases packet.kind with
    | video =>
        rfl
    | navigation =>
        rw [malformed]

/-- The traffic of a navigation worker after some steps of everybody. -/
def traffic (steps : List TrafficStep) : Traffic (Slot NavigationRecord) :=
  (Traffic.fresh name handler .empty).run steps

theorem traffic_append
    (before after : List TrafficStep) :
    traffic (before ++ after) = (traffic before).run after :=
  Traffic.run_append _ before after

/-- The records that were published are those of the packets that were handled, in their order. -/
theorem published_traffic
    (steps : List TrafficStep) :
    (traffic steps).worker.state.published = (traffic steps).handled.filterMap recordIn? := by
  have published := published_serve .empty (traffic steps).handled
  rw [handler_quiet.serve_eq_handleAll] at published
  rw [traffic, Traffic.state_run handler_rests]
  exact published

/-- The slot holds the record of the last packet that held one. -/
theorem latest?_traffic
    (steps : List TrafficStep) :
    (traffic steps).worker.state.latest? =
      (traffic steps).handled.reverse.findSome? recordIn? := by
  rw [Slot.latest?_eq_getLast?, published_traffic, List.getLast?_filterMap]

/-- What holds of a navigation worker after some steps of everybody. -/
structure HoldsLatestRecord (steps : List TrafficStep) : Prop where
  /-- The slot holds the record of the last packet that was handled and holds one. -/
  latest :
    ∀ record,
      (traffic steps).worker.state.latest? = some record ↔
        ∃ earlier packet later,
          (traffic steps).handled = earlier ++ packet :: later ∧
          packet.kind = .navigation ∧
          Wire.decode packet.payload = .ok record ∧
          ∀ other ∈ later, recordIn? other = none
  absent :
    (traffic steps).worker.state.latest? = none ↔
      ∀ packet ∈ (traffic steps).handled, recordIn? packet = none
  published :
    (traffic steps).worker.state.published = (traffic steps).handled.filterMap recordIn?
  /-- Packets are handled in the order in which they arrived. -/
  arrival :
    (traffic steps).handled <+: (traffic steps).sent.map Offer.packet
  /-- What has arrived at a worker in its loop is either handled or queued. -/
  queued :
    (traffic steps).worker.hasLeft = false →
    (traffic steps).handled ++ queuedPackets (traffic steps).worker.queue =
      (traffic steps).sent.map Offer.packet
  /-- A worker that was stopped has handled all that had arrived before. -/
  drained :
    ∀ {before after},
      steps = before ++ after →
      (traffic before).stopCalls = 0 →
      (traffic steps).worker.hasLeft = true →
      (traffic before).sent.map Offer.packet <+: (traffic steps).handled
  /-- A packet without a record changes nothing but its own place in the queue. -/
  traceless :
    ∀ {packet others},
      (traffic steps).worker.stage = .running →
      (traffic steps).worker.queue = .packet packet :: others →
      (packet.kind = .video ∨ ∃ fault, Wire.decode packet.payload = .error fault) →
      ∀ later,
        (((traffic steps).perform .consume).run later).unlogged =
          ({ traffic steps with
              worker := { (traffic steps).worker with queue := others } }.run later).unlogged
  silent :
    (traffic steps).worker.notifications = []
  /-- Until somebody stops it, a worker that was started serves its producers. -/
  serving :
    (traffic steps).stopCalls = 0 →
    (traffic steps).worker.stage ≠ .fresh →
    (traffic steps).worker.stage = .running ∧
      (traffic steps).worker.accepting = true ∧
      (traffic steps).worker.alive = true
  /-- No packet ends the worker, and its handler does not panic at the end. -/
  sound :
    (traffic steps).worker.stage ≠ .closing true ∧
      (traffic steps).worker.stage ≠ .lost

/-- Whatever arrives, in whatever order the steps are taken, the slot holds the latest record. -/
theorem holds_latest_record
    (steps : List TrafficStep) :
    HoldsLatestRecord steps := by
  have carries := Traffic.carries_run name handler .empty steps
  have reported := (Traffic.accounts_run name handler .empty steps).reported
  obtain ⟨silent, sound⟩ := reported.of_quiet handler_quiet
  refine
    { latest := ?_
      absent := ?_
      published := published_traffic steps
      arrival := carries.first
      queued := carries.conserved
      drained := ?_
      traceless := ?_
      silent := silent
      serving := Traffic.attentive_of_quiet handler_quiet name .empty steps
      sound := sound }
  · intro record
    rw [latest?_traffic, List.findSome?_eq_some_iff]
    constructor
    · rintro ⟨later, packet, earlier, parts, holds, recordless⟩
      obtain ⟨kind, decoded⟩ := recordIn?_eq_some_iff.mp holds
      refine ⟨earlier.reverse, packet, later.reverse, ?_, kind, decoded, ?_⟩
      · simpa using congrArg List.reverse parts
      · simpa using recordless
    · rintro ⟨earlier, packet, later, parts, kind, decoded, recordless⟩
      refine
        ⟨later.reverse, packet, earlier.reverse, ?_,
          recordIn?_eq_some_iff.mpr ⟨kind, decoded⟩, ?_⟩
      · simp [parts]
      · simpa using recordless
  · rw [latest?_traffic, List.findSome?_eq_none_iff]
    simp
  · rintro before after rfl unstopped left
    have carries := Traffic.carries_run name handler .empty before
    have stoppable := Traffic.stoppable_run name handler .empty before
    rw [traffic_append] at left ⊢
    exact
      stoppable.sent_prefix_handled carries unstopped left
        (handler_quiet.not_faults .empty _)
  · intro packet others running front unreadable later
    have absent := recordIn?_eq_none_iff.mpr unreadable
    exact
      Traffic.run_consume_of_unchanged handler_quiet carries.work running front
        (handle_of_absent absent _) later

end NavigationWorker

end DroneSession
