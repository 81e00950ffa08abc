import DroneSession.Proofs.Pipeline.Holding
import DroneSession.Proofs.Pipeline.Retaining

namespace DroneSession

/-!
# The window of a recording

The packets that are handed over while the tap leads to a recorder whose sink never fails are all
taken by it, and they are what the recording holds when it is handed back, in the order in which
they were handed over.  Nothing goes behind the stop message, since the tap is turned away before it
is sent and no producer that has found the recorder holds the tap any longer.
-/

namespace SharedPipeline

variable {δ ω : Type}

/-- What was handed over while the tap led to a recording. -/
def tappedFor
    (shared : SharedPipeline δ ω)
    (number : Nat) :
    List TappedPacket :=
  shared.tapped.filter fun tapped => tapped.number? = some number

/-- The packets of a recording's window, in the order in which they were handed over. -/
def window
    (shared : SharedPipeline δ ω)
    (number : Nat) :
    List Packet :=
  (shared.tappedFor number).map fun tapped => tapped.offer.packet

/-- A recording was begun with a sink that never fails. -/
def BeginsReliably
    (shared : SharedPipeline δ ω)
    (number : Nat)
    (request : RecordingRequest ω) :
    Prop :=
  shared.begun[number]? = some request ∧ request.sink.Reliable

/-- The window of a recording depends on nothing but the log. -/
theorem window_congr
    {shared next : SharedPipeline δ ω}
    (tapped : next.tapped = shared.tapped)
    (number : Nat) :
    next.window number = shared.window number := by
  rw [window, tappedFor, tapped]
  rfl

/-- A packet that is handed over joins the window of the recording to which the tap leads. -/
theorem window_concat_same
    {shared next : SharedPipeline δ ω}
    {last : TappedPacket}
    (tapped : next.tapped = shared.tapped ++ [last])
    {number : Nat}
    (leads : last.number? = some number) :
    next.window number = shared.window number ++ [last.offer.packet] := by
  simp [window, tappedFor, tapped, leads]

/-- A packet that is handed over elsewhere does not join the window. -/
theorem window_concat_other
    {shared next : SharedPipeline δ ω}
    {last : TappedPacket}
    (tapped : next.tapped = shared.tapped ++ [last])
    {number : Nat}
    (elsewhere : last.number? ≠ some number) :
    next.window number = shared.window number := by
  simp [window, tappedFor, tapped, elsewhere]

/-- Before a recording is begun nothing is handed over to it. -/
theorem Logged.window_eq_nil
    {shared : SharedPipeline δ ω}
    (logged : shared.Logged)
    {number : Nat}
    (unbegun : shared.begun.length ≤ number) :
    shared.window number = [] := by
  rw [window, tappedFor, List.map_eq_nil_iff, List.filter_eq_nil_iff]
  intro tapped member leads
  exact absurd (logged.begun tapped member number (of_decide_eq_true leads))
    (Nat.not_lt.mpr unbegun)

/-! ## Handing over -/

/-- A packet for the recording in progress is sent to its recorder. -/
theorem record_current
    {shared : SharedPipeline δ ω}
    {recording : Recording ω}
    (engaged : shared.pipeline.recording = some recording)
    (packet : Packet) :
    shared.record (some shared.current) packet =
      ( shared.pipeline.onRecorder fun worker => (worker.send packet).1,
        (recording.worker.send packet).2 ) := by
  simp only [record, Option.bind_some, recording?, if_true, engaged]

/-- Whatever a producer has found, it changes nothing but the recorder. -/
theorem exists_recording_record
    {shared : SharedPipeline δ ω}
    {recording : Recording ω}
    (engaged : shared.pipeline.recording = some recording)
    (number? : Option Nat)
    (packet : Packet) :
    ∃ worker, (shared.record number? packet).1.recording =
      some { recording with worker := worker } := by
  unfold record
  split
  · exact ⟨recording.worker, engaged⟩
  · rw [Pipeline.onRecorder_of_engaged engaged]
    exact ⟨_, rfl⟩

/-! ## Recordings with sinks that never fail -/

/-- The recording in progress is the last that was begun, and its recorder has lost nothing. -/
def Rolls
    (shared : SharedPipeline δ ω)
    (recording : Recording ω) :
    Prop :=
  ∃ request, shared.begun[shared.current]? = some request ∧ recording.sink = request.sink ∧
    (request.sink.Reliable →
      Recorder.Retains request (shared.window shared.current) recording.worker shared.owner)

/-- A recorder that goes on without losing anything leaves its recording rolling. -/
theorem Rolls.update
    {shared next : SharedPipeline δ ω}
    {recording : Recording ω}
    (rolls : shared.Rolls recording)
    (begun : next.begun = shared.begun)
    (returned : next.returned = shared.returned)
    (tapped : next.tapped = shared.tapped)
    {worker : Worker (RecordingStage ω)}
    (retains : ∀ request packets, request.sink.Reliable →
      Recorder.Retains request packets recording.worker shared.owner →
      Recorder.Retains request packets worker next.owner) :
    next.Rolls { recording with worker := worker } := by
  obtain ⟨request, last, sink, kept⟩ := rolls
  refine ⟨request, ?_, sink, ?_⟩
  · rw [begun, current, returned]
    exact last
  · intro reliable
    rw [window_congr tapped, current, returned]
    exact retains request _ reliable (kept reliable)

/-- A producer that holds the tap has found the recorder to which it leads. -/
def Finds (shared : SharedPipeline δ ω) : Prop :=
  ∀ producer packet number?, (shared.pushers producer).stage = .holding packet number? →
    ∀ number request, shared.tap = some number → shared.BeginsReliably number request →
      number? = some number

/-- Producers that let go of the tap leave the others with what they have found. -/
theorem Finds.congr
    {shared next : SharedPipeline δ ω}
    (finds : shared.Finds)
    (tap : next.tap = shared.tap)
    (begun : next.begun = shared.begun)
    (pushers : ∀ producer,
      (next.pushers producer).stage = (shared.pushers producer).stage ∨
        (next.pushers producer).stage.holds = false) :
    next.Finds := by
  intro producer packet number? holding number request leads reliably
  rw [tap] at leads
  rw [BeginsReliably, begun] at reliably
  rcases pushers producer with same | released
  · exact finds producer packet number? (same ▸ holding) number request leads reliably
  · rw [holding] at released
    cases released

theorem finds_of_unturned
    {shared : SharedPipeline δ ω}
    (unturned : shared.tap = none) :
    shared.Finds := by
  intro producer packet number? holding number request leads
  rw [unturned] at leads
  cases leads

/-- What holds of recordings whose sinks never fail. -/
structure Captures (shared : SharedPipeline δ ω) : Prop where
  rolls : ∀ recording, shared.pipeline.recording = some recording → shared.Rolls recording
  finds : shared.Finds
  accepted : ∀ tapped ∈ shared.tapped, ∀ number request, tapped.number? = some number →
    shared.BeginsReliably number request → tapped.accepted = true
  returned : ∀ number result request, shared.returned[number]? = some result →
    shared.BeginsReliably number request →
    ∃ finished, result = some finished ∧ finished.sink = request.sink ∧
      finished.output.received = Recorder.bytesOf request.started (shared.window number)

/-- Before anybody does anything, there is no recording that could have lost anything. -/
theorem captures_of
    {pipeline : Pipeline δ ω}
    (free : pipeline.recording = none) :
    (of pipeline).Captures where
  rolls := by
    intro recording engaged
    change pipeline.recording = some recording at engaged
    rw [free] at engaged
    cases engaged
  finds := finds_of_unturned rfl
  accepted := nofun
  returned := nofun

/-- Steps that neither begin a recording nor hand anything over or back. -/
theorem Captures.congr
    {shared next : SharedPipeline δ ω}
    (captures : shared.Captures)
    (begun : next.begun = shared.begun)
    (returned : next.returned = shared.returned)
    (tapped : next.tapped = shared.tapped)
    (rolls : ∀ recording, next.pipeline.recording = some recording → next.Rolls recording)
    (finds : next.Finds) :
    next.Captures := by
  refine ⟨rolls, finds, ?_, ?_⟩
  · rw [tapped]
    simp only [BeginsReliably, begun]
    exact captures.accepted
  · rw [returned]
    simp only [BeginsReliably, begun, window_congr tapped]
    exact captures.returned

/-- A recorder to which the tap leads accepts whatever it is sent. -/
theorem Captures.found?_eq
    {shared : SharedPipeline δ ω}
    (captures : shared.Captures)
    (coupled : shared.Coupled)
    {number : Nat}
    {request : RecordingRequest ω}
    (leads : shared.tap = some number)
    (reliably : shared.BeginsReliably number request) :
    shared.found? = some number := by
  obtain ⟨rfl, attaches, recording, engaged⟩ := coupled.of_tap leads
  obtain ⟨last, lastBegun, -, retains⟩ := captures.rolls recording engaged
  obtain rfl := Option.some.inj (reliably.1.symm.trans lastBegun)
  obtain ⟨handled, queued, serves, -⟩ := (retains reliably.2).serves
    (OwnerStage.not_hasRefused_of_attaches attaches)
  simp only [found?, leads, isAccepting, recording?, if_true, engaged, serves.accepting]

/-- Taking hold of the tap takes nothing from a recording. -/
theorem Captures.hold
    {shared : SharedPipeline δ ω}
    (captures : shared.Captures)
    (coupled : shared.Coupled)
    (producer : Nat)
    (packet : Packet) :
    (shared.hold producer packet).Captures := by
  refine captures.congr rfl rfl rfl captures.rolls ?_
  intro other looked number? holding number request leads reliably
  by_cases same : other = producer
  · rw [same, pushers_hold_same, PushStage.holding.injEq] at holding
    rw [← holding.2]
    exact captures.found?_eq coupled leads reliably
  · rw [shared.pushers_hold_other same] at holding
    exact captures.finds other looked number? holding number request leads reliably

/-- The recorder to which the tap leads takes the packet of a producer that holds the tap. -/
theorem Captures.taken
    {shared : SharedPipeline δ ω}
    (captures : shared.Captures)
    (coupled : shared.Coupled)
    {producer : Nat}
    {packet : Packet}
    {number? : Option Nat}
    (holding : (shared.pushers producer).stage = .holding packet number?)
    {number : Nat}
    {request : RecordingRequest ω}
    (leads : shared.tap = some number)
    (reliably : shared.BeginsReliably number request)
    {recording : Recording ω}
    (engaged : shared.pipeline.recording = some recording) :
    (shared.record number? packet).1.recording =
        some { recording with worker := (recording.worker.send packet).1 } ∧
      (shared.record number? packet).2 = true ∧
      Recorder.Retains request (shared.window number ++ [packet])
        (recording.worker.send packet).1 shared.owner := by
  obtain rfl := captures.finds producer packet number? holding number request leads reliably
  obtain ⟨rfl, attaches, -⟩ := coupled.of_tap leads
  obtain ⟨last, lastBegun, -, retains⟩ := captures.rolls recording engaged
  obtain rfl := Option.some.inj (reliably.1.symm.trans lastBegun)
  obtain ⟨retained, accepted⟩ := (retains reliably.2).send
    (OwnerStage.not_hasRefused_of_attaches attaches) packet
  rw [record_current engaged, Pipeline.onRecorder_of_engaged engaged]
  exact ⟨rfl, accepted, retained⟩

/-- A producer for which the tap led nowhere hands its packet to no recorder. -/
theorem Holding.record_eq
    {shared : SharedPipeline δ ω}
    (holding : shared.Holding)
    {producer : Nat}
    {packet : Packet}
    {number? : Option Nat}
    (holds : (shared.pushers producer).stage = .holding packet number?)
    (unturned : shared.tap = none) :
    shared.record number? packet = (shared.pipeline, false) := by
  cases number? with
  | none => rfl
  | some number =>
      have leads := holding.found producer packet number holds
      rw [unturned] at leads
      cases leads

/-- A producer that hands its packet over leaves the recording in progress rolling. -/
theorem Captures.rolls_pass
    {shared : SharedPipeline δ ω}
    (captures : shared.Captures)
    (orderly : shared.Orderly)
    {producer : Nat}
    {packet : Packet}
    {number? : Option Nat}
    (holding : (shared.pushers producer).stage = .holding packet number?)
    {next : Recording ω}
    (engagedNext : (shared.record number? packet).1.recording = some next) :
    (shared.pass producer packet number?).Rolls next := by
  have tapped : (shared.pass producer packet number?).tapped = shared.tapped ++
      [⟨⟨producer, (shared.pushers producer).turn, packet⟩, shared.tap,
        (shared.record number? packet).2⟩] := rfl
  have engaged := shared.isSome_record number? packet
  rw [engagedNext] at engaged
  obtain ⟨recording, inProgress⟩ := Option.isSome_iff_exists.mp engaged.symm
  obtain ⟨request, last, sink, retains⟩ := captures.rolls recording inProgress
  obtain ⟨worker, recorded⟩ := exists_recording_record inProgress number? packet
  obtain rfl := Option.some.inj (engagedNext.symm.trans recorded)
  refine ⟨request, last, sink, ?_⟩
  intro reliable
  cases leads : shared.tap with
  | none =>
      -- The recording in progress is not attached, so it gets nothing and its window stays.
      rw [orderly.holding.record_eq holding leads, inProgress] at recorded
      obtain rfl := congrArg Recording.worker (Option.some.inj recorded)
      change Recorder.Retains request ((shared.pass producer packet number?).window shared.current)
        recording.worker shared.owner
      rw [window_concat_other tapped (by simp [leads])]
      exact retains reliable
  | some number =>
      obtain ⟨rfl, -, -⟩ := orderly.coupled.of_tap leads
      obtain ⟨taken, -, retained⟩ :=
        captures.taken orderly.coupled holding leads ⟨last, reliable⟩ inProgress
      obtain rfl := congrArg Recording.worker (Option.some.inj (recorded.symm.trans taken))
      change Recorder.Retains request ((shared.pass producer packet number?).window shared.current)
        (recording.worker.send packet).1 shared.owner
      rw [window_concat_same tapped leads]
      exact retained

/-- A packet that is handed over while the tap leads to a recorder is taken by it. -/
theorem Captures.pass
    {shared : SharedPipeline δ ω}
    (captures : shared.Captures)
    (orderly : shared.Orderly)
    {producer : Nat}
    {packet : Packet}
    {number? : Option Nat}
    (holding : (shared.pushers producer).stage = .holding packet number?) :
    (shared.pass producer packet number?).Captures := by
  have tapped : (shared.pass producer packet number?).tapped = shared.tapped ++
      [⟨⟨producer, (shared.pushers producer).turn, packet⟩, shared.tap,
        (shared.record number? packet).2⟩] := rfl
  constructor
  · exact fun next engaged => captures.rolls_pass orderly holding engaged
  · refine captures.finds.congr rfl rfl ?_
    intro other
    by_cases same : other = producer
    · rw [same, pushers_pass_same]
      exact .inr rfl
    · rw [shared.pushers_pass_other same]
      exact .inl rfl
  · intro other member number request leads reliably
    rw [tapped, List.mem_append, List.mem_singleton] at member
    rcases member with earlier | rfl
    · exact captures.accepted other earlier number request leads reliably
    · obtain ⟨-, -, recording, engaged⟩ := orderly.coupled.of_tap leads
      exact (captures.taken orderly.coupled holding leads reliably engaged).2.1
  · intro number result request handedBack reliably
    obtain ⟨finished, same, sink, received⟩ :=
      captures.returned number result request handedBack reliably
    refine ⟨finished, same, sink, ?_⟩
    rw [window_concat_other tapped]
    · exact received
    · -- The tap leads to the recording in progress, which was not handed back yet.
      intro leads
      obtain ⟨inProgress, -, -⟩ := orderly.coupled.of_tap leads
      obtain ⟨earlier, -⟩ := List.getElem?_eq_some_iff.mp handedBack
      exact absurd inProgress (Nat.ne_of_lt earlier)

/-- A recording that is begun is the next, and nothing was handed over to it yet. -/
theorem Captures.launches
    {shared next : SharedPipeline δ ω}
    (captures : shared.Captures)
    (orderly : shared.Orderly)
    {request : RecordingRequest ω}
    (launching : shared.owner = .launching request)
    {worker : Worker (RecordingStage ω)}
    (starts : (Recorder.create request.sink request.state request.started).start = .ok worker)
    (engaged : next.pipeline.recording = some ⟨request.sink, worker, request.file, 0⟩)
    (tap : next.tap = shared.tap)
    (owner : next.owner = .attaching)
    (begun : next.begun = shared.begun ++ [request])
    (returned : next.returned = shared.returned)
    (tapped : next.tapped = shared.tapped) :
    next.Captures := by
  have vacant := orderly.coupled.launching request launching
  have counted : shared.begun.length = shared.current := by
    rw [orderly.coupled.begun, vacant]
    rfl
  have sameBegun : ∀ number other, number < shared.begun.length →
      next.BeginsReliably number other → shared.BeginsReliably number other := by
    intro number other earlier reliably
    rw [BeginsReliably, begun, List.getElem?_append_left earlier] at reliably
    exact reliably
  constructor
  · intro recording inProgress
    obtain rfl := Option.some.inj (engaged.symm.trans inProgress)
    refine ⟨request, ?_, rfl, ?_⟩
    · rw [begun, current, returned, ← current, ← counted]
      exact List.getElem?_concat_length
    · intro _
      have empty : next.window shared.current = [] := by
        rw [window_congr tapped]
        exact orderly.logged.window_eq_nil (Nat.le_of_eq counted)
      rw [current, returned, ← current, empty, owner]
      exact Recorder.retains_start request starts
  · apply finds_of_unturned
    rw [tap, orderly.coupled.tap, vacant, Bool.and_false]
    rfl
  · intro packet member number other leads reliably
    rw [tapped] at member
    exact captures.accepted packet member number other leads
      (sameBegun number other (orderly.logged.begun packet member number leads) reliably)
  · intro number result other handedBack reliably
    rw [returned] at handedBack
    obtain ⟨earlier, -⟩ := List.getElem?_eq_some_iff.mp handedBack
    rw [window_congr tapped]
    exact captures.returned number result other handedBack
      (sameBegun number other (counted ▸ earlier) reliably)

/-- A recording that is handed back holds its window. -/
theorem Captures.returns
    {shared next : SharedPipeline δ ω}
    (captures : shared.Captures)
    (orderly : shared.Orderly)
    {behind : Option (RecordingRequest ω)}
    {recording : Recording ω}
    (joining : shared.owner = .joining behind)
    (engaged : shared.pipeline.recording = some recording)
    (closed : recording.worker.isOpen = false)
    (pipeline : next.pipeline = (shared.pipeline.collect recording).1)
    (tap : next.tap = shared.tap)
    (begun : next.begun = shared.begun)
    (returned : next.returned =
      shared.returned ++ [(shared.pipeline.collect recording).2])
    (tapped : next.tapped = shared.tapped) :
    next.Captures := by
  constructor
  · intro other inProgress
    rw [pipeline] at inProgress
    cases inProgress
  · apply finds_of_unturned
    rw [tap, orderly.coupled.tap, joining]
    rfl
  · rw [tapped]
    simp only [BeginsReliably, begun]
    exact captures.accepted
  · intro number result request handedBack reliably
    rw [BeginsReliably, begun] at reliably
    rw [window_congr tapped]
    rw [returned] at handedBack
    by_cases earlier : number < shared.returned.length
    · rw [List.getElem?_append_left earlier] at handedBack
      exact captures.returned number result request handedBack reliably
    · obtain ⟨inside, -⟩ := List.getElem?_eq_some_iff.mp handedBack
      rw [List.length_append, List.length_singleton] at inside
      -- What is handed back last is the recording that was in progress.
      obtain rfl : number = shared.returned.length :=
        Nat.le_antisymm (Nat.le_of_lt_succ inside) (Nat.not_lt.mp earlier)
      rw [List.getElem?_concat_length] at handedBack
      obtain ⟨last, lastBegun, sink, retains⟩ := captures.rolls recording engaged
      obtain rfl := Option.some.inj (reliably.1.symm.trans lastBegun)
      have retained := retains reliably.2
      rw [joining] at retained
      obtain ⟨stage, joined, received⟩ := retained.join reliably.2 closed
      refine ⟨⟨recording.sink, stage.output, recording.file⟩, ?_, sink, received⟩
      rw [← Option.some.inj handedBack, Pipeline.collect, joined]
      rfl

/-- The recorder is changed by its thread or its owner. -/
theorem Captures.changes
    {shared next : SharedPipeline δ ω}
    (captures : shared.Captures)
    (change : Worker (RecordingStage ω) → Worker (RecordingStage ω))
    (pipeline : next.pipeline = shared.pipeline.onRecorder change)
    (tap : next.tap = shared.tap)
    (pushers : next.pushers = shared.pushers)
    (begun : next.begun = shared.begun)
    (returned : next.returned = shared.returned)
    (tapped : next.tapped = shared.tapped)
    (retains : ∀ worker request packets, request.sink.Reliable →
      Recorder.Retains request packets worker shared.owner →
      Recorder.Retains request packets (change worker) next.owner) :
    next.Captures := by
  refine captures.congr begun returned tapped ?_
    (captures.finds.congr tap begun fun producer => .inl (by rw [pushers]))
  intro changed engaged
  rw [pipeline] at engaged
  obtain ⟨recording, inProgress, rfl⟩ := Option.map_eq_some_iff.mp engaged
  exact (captures.rolls recording inProgress).update begun returned tapped
    (retains recording.worker)

/-- The owner goes on with a call and leaves the recorder alone. -/
theorem Captures.goesOn
    {shared next : SharedPipeline δ ω}
    (captures : shared.Captures)
    (pipeline : next.pipeline = shared.pipeline)
    (begun : next.begun = shared.begun)
    (returned : next.returned = shared.returned)
    (tapped : next.tapped = shared.tapped)
    (before : shared.owner.hasRefused = false)
    (after : next.owner.hasRefused = false)
    (finds : next.Finds) :
    next.Captures := by
  refine captures.congr begun returned tapped ?_ finds
  intro recording engaged
  rw [pipeline] at engaged
  exact (captures.rolls recording engaged).update begun returned tapped
    fun _ _ _ retains => retains.goesOn before after

/-- No step makes a recorder whose sink never fails lose anything. -/
theorem Captures.perform
    {shared : SharedPipeline δ ω}
    (captures : shared.Captures)
    (orderly : shared.Orderly)
    (step : SharingStep ω) :
    (shared.perform step).Captures := by
  have shares := shared.sharingCase step
  generalize shared.perform step = next at shares ⊢
  cases shares with
  | aside next recording tap holders pushers owner begun returned tapped =>
      refine captures.congr begun returned tapped ?_
        (captures.finds.congr tap begun fun producer => (pushers producer).2.imp_right And.right)
      intro inProgress engaged
      rw [recording] at engaged
      refine (captures.rolls inProgress engaged).update begun returned tapped ?_
      intro request packets _ retains
      rw [owner]
      exact retains
  | looks producer packet released => exact captures.hold orderly.coupled producer packet
  | handsOver producer packet number? holding => exact captures.pass orderly holding
  | acts operation alone =>
      exact captures.changes _ rfl rfl rfl rfl rfl rfl
        fun _ _ _ reliable retains => retains.perform reliable alone
  | asksStart request free vacant =>
      exact captures.goesOn rfl rfl rfl rfl (by rw [free]; rfl) rfl captures.finds
  | asksEnd ending recording free engaged =>
      exact captures.goesOn rfl rfl rfl rfl (by rw [free]; rfl) rfl captures.finds
  | launches request launching worker starts =>
      exact captures.launches orderly launching starts rfl rfl rfl rfl rfl rfl
  | attaches attaching unheld =>
      refine captures.goesOn rfl rfl rfl rfl (by rw [attaching]; rfl) rfl ?_
      intro producer packet number? holding
      have released := orderly.holding.of_unheld unheld producer
      rw [show (shared.pushers producer).stage = _ from holding] at released
      cases released
  | detaches ending detaching unheld =>
      exact captures.goesOn rfl rfl rfl rfl (by rw [detaching]; rfl) rfl (finds_of_unturned rfl)
  | refuses ending recording refusing engaged held =>
      refine captures.changes _ rfl rfl rfl rfl rfl rfl ?_
      intro worker request packets _ retains
      rw [refusing] at retains
      exact retains.refuse.2
  | skips ending recording refusing engaged unheld =>
      refine captures.congr rfl rfl rfl ?_ captures.finds
      intro inProgress same
      obtain rfl := Option.some.inj (engaged.symm.trans same)
      refine @Rolls.update δ ω shared { shared with owner := .joining ending } recording
        (captures.rolls recording engaged) rfl rfl rfl recording.worker ?_
      intro request packets _ retains
      -- The recorder was started and nobody has joined it yet, so it has a thread.
      rw [refusing] at retains
      rw [retains.refuse.1] at unheld
      cases unheld
  | stops ending stopping =>
      refine captures.changes _ rfl rfl rfl rfl rfl rfl ?_
      intro worker request packets _ retains
      rw [stopping] at retains
      exact retains.sendStop
  | returns ending recording joining engaged closed =>
      exact captures.returns orderly joining engaged closed rfl rfl rfl rfl rfl

/-- Whatever the order of steps, recordings whose sinks never fail capture their windows. -/
theorem captures_run
    {pipeline : Pipeline δ ω}
    (free : pipeline.recording = none)
    (steps : List (SharingStep ω)) :
    ((of pipeline).run steps).Orderly ∧ ((of pipeline).run steps).Captures :=
  @run_induction δ ω (fun shared => shared.Orderly ∧ shared.Captures)
    (fun _ step holds => ⟨holds.1.perform step, holds.2.perform holds.1 step⟩) (of pipeline)
    ⟨orderly_of free, captures_of free⟩ steps

end SharedPipeline

end DroneSession
