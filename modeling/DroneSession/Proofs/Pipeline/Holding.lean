import Mathlib.Data.List.Nodup
import DroneSession.Proofs.Pipeline.Sharing

namespace DroneSession

/-!
# Holding the tap

While a producer holds the tap, the owner does not turn it, so the recorder that a producer has
found is still the one to which the tap leads when the packet is handed over.  The tap leads to the
recording in progress from the moment at which it is attached until it is detached, which comes
before the recorder is told to stop.
-/

namespace Pipeline

variable {δ ω : Type}

/-- Sending a packet to a decoding worker leaves the recording alone. -/
theorem recording_send
    (pipeline : Pipeline δ ω)
    (packet : Packet) :
    (pipeline.send packet).1.recording = pipeline.recording := by
  unfold send
  cases packet.kind <;> rfl

theorem isSome_onRecorder
    (pipeline : Pipeline δ ω)
    (change : Worker (RecordingStage ω) → Worker (RecordingStage ω)) :
    (pipeline.onRecorder change).recording.isSome = pipeline.recording.isSome := by
  rw [onRecorder, Option.isSome_map]

end Pipeline

namespace SharedPipeline

variable {δ ω : Type}

/-! ## What a step does to recordings -/

@[simp] theorem pushers_hold_same
    (shared : SharedPipeline δ ω)
    (producer : Nat)
    (packet : Packet) :
    (shared.hold producer packet).pushers producer =
      { shared.pushers producer with stage := .holding packet shared.found? } :=
  if_pos rfl

theorem pushers_hold_other
    (shared : SharedPipeline δ ω)
    {producer other : Nat}
    (different : other ≠ producer)
    (packet : Packet) :
    (shared.hold producer packet).pushers other = shared.pushers other :=
  if_neg different

@[simp] theorem pushers_pass_same
    (shared : SharedPipeline δ ω)
    (producer : Nat)
    (packet : Packet)
    (number? : Option Nat) :
    (shared.pass producer packet number?).pushers producer =
      { turn := (shared.pushers producer).turn + 1, stage := .released packet } :=
  if_pos rfl

theorem pushers_pass_other
    (shared : SharedPipeline δ ω)
    {producer other : Nat}
    (different : other ≠ producer)
    (packet : Packet)
    (number? : Option Nat) :
    (shared.pass producer packet number?).pushers other = shared.pushers other :=
  if_neg different

/-- Everything that a step can do to the tap and to recordings. -/
inductive SharingCase (shared : SharedPipeline δ ω) : SharedPipeline δ ω → Prop
  /-- Nothing; what a producer does that does not hold the tap is among it. -/
  | aside
      (next : SharedPipeline δ ω)
      (recording : next.pipeline.recording = shared.pipeline.recording)
      (tap : next.tap = shared.tap)
      (holders : next.holders = shared.holders)
      (pushers : ∀ producer,
        (next.pushers producer).turn = (shared.pushers producer).turn ∧
        ((next.pushers producer).stage = (shared.pushers producer).stage ∨
          (shared.pushers producer).stage.holds = false ∧
            (next.pushers producer).stage.holds = false))
      (owner : next.owner = shared.owner)
      (begun : next.begun = shared.begun)
      (returned : next.returned = shared.returned)
      (tapped : next.tapped = shared.tapped) :
      SharingCase shared next
  | looks
      (producer : Nat)
      (packet : Packet)
      (released : (shared.pushers producer).stage.holds = false) :
      SharingCase shared (shared.hold producer packet)
  | handsOver
      (producer : Nat)
      (packet : Packet)
      (number? : Option Nat)
      (holding : (shared.pushers producer).stage = .holding packet number?) :
      SharingCase shared (shared.pass producer packet number?)
  /-- The thread of the recorder takes a step. -/
  | acts
      (operation : WorkerOperation)
      (alone : operation = .consume ∨ operation = .close) :
      SharingCase shared
        { shared with
          pipeline := shared.pipeline.onRecorder fun worker => worker.perform operation }
  /-- The owner is to begin a recording, or to end the one in progress. -/
  | asksStart
      (request : RecordingRequest ω)
      (free : shared.owner = .free)
      (vacant : shared.pipeline.recording = none) :
      SharingCase shared { shared with owner := .launching request }
  | asksEnd
      (next : Option (RecordingRequest ω))
      (recording : Recording ω)
      (free : shared.owner = .free)
      (engaged : shared.pipeline.recording = some recording) :
      SharingCase shared { shared with owner := .detaching next }
  | launches
      (request : RecordingRequest ω)
      (launching : shared.owner = .launching request)
      (worker : Worker (RecordingStage ω))
      (starts : (Recorder.create request.sink request.state request.started).start =
        .ok worker) :
      SharingCase shared
        { shared with
          pipeline :=
            { shared.pipeline with recording := some ⟨request.sink, worker, request.file, 0⟩ }
          owner := .attaching
          begun := shared.begun ++ [request] }
  | attaches
      (attaching : shared.owner = .attaching)
      (unheld : shared.holders = []) :
      SharingCase shared
        { shared with tap := some shared.current, owner := .free, answer := .ok () }
  | detaches
      (next : Option (RecordingRequest ω))
      (detaching : shared.owner = .detaching next)
      (unheld : shared.holders = []) :
      SharingCase shared { shared with tap := none, owner := .refusing next }
  | refuses
      (next : Option (RecordingRequest ω))
      (recording : Recording ω)
      (refusing : shared.owner = .refusing next)
      (engaged : shared.pipeline.recording = some recording)
      (held : recording.worker.hasThread = true) :
      SharingCase shared
        { shared with pipeline := shared.pipeline.onRecorder .refuse, owner := .stopping next }
  /-- A recorder without a thread is not told to stop. -/
  | skips
      (next : Option (RecordingRequest ω))
      (recording : Recording ω)
      (refusing : shared.owner = .refusing next)
      (engaged : shared.pipeline.recording = some recording)
      (unheld : recording.worker.hasThread = false) :
      SharingCase shared { shared with owner := .joining next }
  | stops
      (next : Option (RecordingRequest ω))
      (stopping : shared.owner = .stopping next) :
      SharingCase shared
        { shared with pipeline := shared.pipeline.onRecorder .sendStop, owner := .joining next }
  | returns
      (next : Option (RecordingRequest ω))
      (recording : Recording ω)
      (joining : shared.owner = .joining next)
      (engaged : shared.pipeline.recording = some recording)
      (closed : recording.worker.isOpen = false) :
      SharingCase shared
        { shared with
          pipeline := (shared.pipeline.collect recording).1
          owner := .behind next
          returned := shared.returned ++ [(shared.pipeline.collect recording).2] }

theorem sharingCase_same (shared : SharedPipeline δ ω) : SharingCase shared shared :=
  .aside shared rfl rfl rfl (fun _ => ⟨rfl, .inl rfl⟩) rfl rfl rfl rfl

/-- A step of a producer that does not hold the tap, before or after it. -/
theorem sharingCase_pusher
    {shared : SharedPipeline δ ω}
    {producer : Nat}
    (before : (shared.pushers producer).stage.holds = false)
    {stage : PushStage}
    (after : stage.holds = false)
    {pipeline : Pipeline δ ω}
    (recording : pipeline.recording = shared.pipeline.recording) :
    SharingCase shared
      { shared.setPusher producer { shared.pushers producer with stage := stage } with
        pipeline := pipeline } := by
  refine .aside _ recording rfl rfl ?_ rfl rfl rfl rfl
  intro other
  by_cases same : other = producer
  · subst same
    exact ⟨by simp [setPusher], .inr ⟨before, by simpa [setPusher] using after⟩⟩
  · simp [setPusher, same]

/-- Every step of the owner is one of the cases of what a step can do. -/
theorem sharingCase_proceed (shared : SharedPipeline δ ω) :
    SharingCase shared shared.proceed := by
  unfold proceed
  cases owner : shared.owner with
  | free => exact shared.sharingCase_same
  | launching request =>
      obtain ⟨worker, starts, -⟩ := @Worker.Serves.start _ (Recorder.handler request.sink)
        { output := .start request.state, started := request.started } Recorder.name
      change (Recorder.create request.sink request.state request.started).start = _ at starts
      simp only [launch, starts]
      exact .launches request owner worker starts
  | attaching =>
      dsimp only
      split
      · exact .attaches owner ‹_›
      · exact shared.sharingCase_same
  | detaching next =>
      dsimp only
      split
      · exact .detaches next owner ‹_›
      · exact shared.sharingCase_same
  | refusing next =>
      cases engaged : shared.pipeline.recording with
      | none => exact shared.sharingCase_same
      | some recording =>
          cases held : recording.worker.hasThread with
          | true =>
              simp only [refuse, held, if_true]
              exact .refuses next recording owner engaged held
          | false =>
              simp only [refuse, held, Bool.false_eq_true, if_false]
              exact .skips next recording owner engaged held
  | stopping next => exact .stops next owner
  | joining next =>
      cases engaged : shared.pipeline.recording with
      | none => exact shared.sharingCase_same
      | some recording =>
          cases closed : recording.worker.isOpen with
          | true =>
              simp only [joinRecorder, closed, if_true]
              exact shared.sharingCase_same
          | false =>
              simp only [joinRecorder, closed, Bool.false_eq_true, if_false]
              exact .returns next recording owner engaged closed

/-- Every step is one of the cases of what a step can do to the tap and to recordings. -/
theorem sharingCase
    (shared : SharedPipeline δ ω)
    (step : SharingStep ω) :
    SharingCase shared (shared.perform step) := by
  cases step with
  | look producer packet =>
      rw [perform, look]
      split
      · rename_i answer idle
        exact .looks producer packet (by rw [idle]; rfl)
      · exact shared.sharingCase_same
  | handOver producer =>
      rw [perform, handOver]
      split
      · rename_i packet number? holding
        exact .handsOver producer packet number? holding
      · exact shared.sharingCase_same
  | check producer =>
      rw [perform, check]
      split
      · rename_i packet released
        have before : (shared.pushers producer).stage.holds = false := by
          rw [released]
          rfl
        split
        · exact sharingCase_pusher before rfl rfl
        · exact sharingCase_pusher before rfl rfl
      · exact shared.sharingCase_same
  | forward producer =>
      rw [perform, forward]
      dsimp only
      split
      · rename_i packet offering
        exact sharingCase_pusher (by rw [offering]; rfl) rfl
          (shared.pipeline.recording_send packet)
      · exact shared.sharingCase_same
  | startRecording request =>
      rw [perform, startRecording]
      split
      · rename_i free vacant
        exact .asksStart request free vacant
      · rename_i recording free engaged
        split
        · exact .aside _ rfl rfl rfl (fun _ => ⟨rfl, .inl rfl⟩) rfl rfl rfl rfl
        · exact .asksEnd (some request) recording free engaged
      · exact shared.sharingCase_same
  | stopRecording =>
      rw [perform, stopRecording]
      split
      · rename_i recording free engaged
        exact .asksEnd none recording free engaged
      · exact shared.sharingCase_same
  | proceed => exact shared.sharingCase_proceed
  | consume part =>
      cases part with
      | navigation => exact .aside _ rfl rfl rfl (fun _ => ⟨rfl, .inl rfl⟩) rfl rfl rfl rfl
      | video => exact .aside _ rfl rfl rfl (fun _ => ⟨rfl, .inl rfl⟩) rfl rfl rfl rfl
      | recorder => exact .acts .consume (.inl rfl)
  | close part =>
      cases part with
      | navigation => exact .aside _ rfl rfl rfl (fun _ => ⟨rfl, .inl rfl⟩) rfl rfl rfl rfl
      | video => exact .aside _ rfl rfl rfl (fun _ => ⟨rfl, .inl rfl⟩) rfl rfl rfl rfl
      | recorder => exact .acts .close (.inr rfl)

/-! ## The recording in progress -/

/-- Whether a recording is in progress, be it attached or not. -/
def isEngaged (shared : SharedPipeline δ ω) : Bool :=
  shared.pipeline.recording.isSome

theorem isEngaged_of
    {shared : SharedPipeline δ ω}
    {recording : Recording ω}
    (engaged : shared.pipeline.recording = some recording) :
    shared.isEngaged = true := by
  rw [isEngaged, engaged]
  rfl

theorem isSome_record
    (shared : SharedPipeline δ ω)
    (number? : Option Nat)
    (packet : Packet) :
    (shared.record number? packet).1.recording.isSome = shared.isEngaged := by
  unfold record
  split
  · rfl
  · exact shared.pipeline.isSome_onRecorder _

/-- How the tap and the owner stand to the recording in progress. -/
structure Coupled (shared : SharedPipeline δ ω) : Prop where
  begun : shared.begun.length = shared.returned.length + shared.isEngaged.toNat
  vacant : shared.isEngaged = false →
    shared.owner = .free ∨ ∃ request, shared.owner = .launching request
  launching : ∀ request, shared.owner = .launching request → shared.isEngaged = false
  tap : shared.tap =
    if shared.owner.attaches && shared.isEngaged then some shared.current else none

/-- Before anybody does anything, the tap leads nowhere and the owner is free. -/
theorem coupled_of
    {pipeline : Pipeline δ ω}
    (free : pipeline.recording = none) :
    (of pipeline).Coupled := by
  have vacant : (of pipeline).isEngaged = false := by
    change pipeline.recording.isSome = false
    rw [free]
    rfl
  constructor
  · rw [vacant]
    rfl
  · exact fun _ => .inl rfl
  · exact fun _ _ => vacant
  · rw [vacant]
    rfl

/-- A tap that was turned to a recording leads to the one in progress. -/
theorem Coupled.of_tap
    {shared : SharedPipeline δ ω}
    (coupled : shared.Coupled)
    {number : Nat}
    (leads : shared.tap = some number) :
    number = shared.current ∧ shared.owner.attaches = true ∧
      ∃ recording, shared.pipeline.recording = some recording := by
  have tap := coupled.tap
  rw [leads] at tap
  split at tap
  · rename_i attached
    rw [Bool.and_eq_true] at attached
    exact ⟨Option.some.inj tap, attached.1, Option.isSome_iff_exists.mp attached.2⟩
  · cases tap

/-- It makes no difference which recording is in progress and what became of its recorder. -/
theorem Coupled.congr
    {shared next : SharedPipeline δ ω}
    (coupled : shared.Coupled)
    (engaged : next.isEngaged = shared.isEngaged)
    (tap : next.tap = shared.tap)
    (owner : next.owner = shared.owner)
    (begun : next.begun = shared.begun)
    (returned : next.returned = shared.returned) :
    next.Coupled := by
  obtain ⟨counted, vacant, launching, leads⟩ := coupled
  constructor
  · rw [begun, returned, engaged]
    exact counted
  · rwa [engaged, owner]
  · rwa [engaged, owner]
  · rw [tap, owner, engaged, current, returned]
    exact leads

/-- Between two calls that begin a recording and end it, one is in progress. -/
theorem Coupled.engaged
    {shared : SharedPipeline δ ω}
    (coupled : shared.Coupled)
    (busy : shared.owner ≠ .free)
    (begun : ∀ request, shared.owner ≠ .launching request) :
    shared.isEngaged = true := by
  refine Bool.of_not_eq_false ?_
  intro unengaged
  rcases coupled.vacant unengaged with free | ⟨request, launching⟩
  · exact busy free
  · exact begun request launching

/-- The owner goes on with a call while the recording stays in progress. -/
theorem Coupled.goesOn
    {shared next : SharedPipeline δ ω}
    (coupled : shared.Coupled)
    (before : shared.isEngaged = true)
    (after : next.isEngaged = true)
    (begun : next.begun = shared.begun)
    (returned : next.returned = shared.returned)
    (owner : ∀ request, next.owner ≠ .launching request)
    (tap : next.tap = if next.owner.attaches then some shared.current else none) :
    next.Coupled := by
  constructor
  · rw [begun, returned, after, ← before]
    exact coupled.begun
  · intro unengaged
    rw [after] at unengaged
    cases unengaged
  · intro request launching
    exact absurd launching (owner request)
  · rw [after, Bool.and_true, current, returned]
    exact tap

/-- No step parts the tap and the owner from the recording in progress. -/
theorem Coupled.perform
    {shared : SharedPipeline δ ω}
    (coupled : shared.Coupled)
    (step : SharingStep ω) :
    (shared.perform step).Coupled := by
  have shares := shared.sharingCase step
  generalize shared.perform step = next at shares ⊢
  cases shares with
  | aside next recording tap holders pushers owner begun returned tapped =>
      exact coupled.congr (congrArg Option.isSome recording) tap owner begun returned
  | looks producer packet released => exact coupled.congr rfl rfl rfl rfl rfl
  | handsOver producer packet number? holding =>
      exact coupled.congr (shared.isSome_record number? packet) rfl rfl rfl rfl
  | acts operation alone =>
      exact coupled.congr (shared.pipeline.isSome_onRecorder _) rfl rfl rfl rfl
  | asksStart request free vacant =>
      have unengaged : shared.isEngaged = false := by
        rw [isEngaged, vacant]
        rfl
      have tap := coupled.tap
      rw [unengaged, Bool.and_false] at tap
      refine ⟨coupled.begun, fun _ => .inr ⟨request, rfl⟩, fun _ _ => unengaged, ?_⟩
      exact tap
  | asksEnd ending recording free engaged =>
      have tap := coupled.tap
      rw [free, isEngaged_of engaged] at tap
      exact coupled.goesOn (isEngaged_of engaged) (isEngaged_of engaged) rfl rfl nofun tap
  | launches request launching worker starts =>
      have unengaged := coupled.launching request launching
      have counted := coupled.begun
      have tap := coupled.tap
      rw [unengaged] at counted
      rw [unengaged, Bool.and_false] at tap
      refine ⟨?_, nofun, fun _ => nofun, tap⟩
      rw [List.length_append, counted]
      rfl
  | attaches attaching unheld =>
      have engaged := coupled.engaged (by simp [attaching]) (by simp [attaching])
      exact coupled.goesOn engaged engaged rfl rfl nofun rfl
  | detaches ending detaching unheld =>
      have engaged := coupled.engaged (by simp [detaching]) (by simp [detaching])
      exact coupled.goesOn engaged engaged rfl rfl nofun rfl
  | refuses ending recording refusing engaged held =>
      have tap := coupled.tap
      rw [refusing] at tap
      exact coupled.goesOn (isEngaged_of engaged)
        ((shared.pipeline.isSome_onRecorder _).trans (isEngaged_of engaged)) rfl rfl nofun tap
  | skips ending recording refusing engaged unheld =>
      have tap := coupled.tap
      rw [refusing] at tap
      exact coupled.goesOn (isEngaged_of engaged) (isEngaged_of engaged) rfl rfl nofun tap
  | stops ending stopping =>
      have engaged := coupled.engaged (by simp [stopping]) (by simp [stopping])
      have tap := coupled.tap
      rw [stopping] at tap
      exact coupled.goesOn engaged ((shared.pipeline.isSome_onRecorder _).trans engaged) rfl rfl
        nofun tap
  | returns ending recording joining engaged closed =>
      have counted := coupled.begun
      have tap := coupled.tap
      rw [isEngaged_of engaged] at counted
      rw [joining] at tap
      refine ⟨?_, ?_, fun _ _ => rfl, ?_⟩
      · rw [counted, List.length_append]
        rfl
      · intro _
        cases ending with
        | none => exact .inl rfl
        | some request => exact .inr ⟨request, rfl⟩
      · exact tap.trans (by simp [OwnerStage.attaches, isEngaged, Pipeline.collect])

/-! ## Producers that hold the tap -/

/-- What a producer that holds the tap has found is still where the tap leads. -/
structure Holding (shared : SharedPipeline δ ω) : Prop where
  nodup : shared.holders.Nodup
  holders : ∀ producer,
    producer ∈ shared.holders ↔ (shared.pushers producer).stage.holds = true
  found : ∀ producer packet number,
    (shared.pushers producer).stage = .holding packet (some number) → shared.tap = some number

theorem holding_of (pipeline : Pipeline δ ω) : (of pipeline).Holding where
  nodup := .nil
  holders := by
    intro producer
    exact ⟨nofun, nofun⟩
  found := nofun

/-- While nobody holds the tap, no producer is handing a packet over. -/
theorem Holding.of_unheld
    {shared : SharedPipeline δ ω}
    (holding : shared.Holding)
    (unheld : shared.holders = [])
    (producer : Nat) :
    (shared.pushers producer).stage.holds = false := by
  refine Bool.eq_false_iff.mpr ?_
  intro holds
  have member := (holding.holders producer).mpr holds
  rw [unheld] at member
  cases member

/-- What a producer finds is what the tap leads to. -/
theorem found?_eq_some
    {shared : SharedPipeline δ ω}
    {number : Nat}
    (found : shared.found? = some number) :
    shared.tap = some number := by
  unfold found? at found
  split at found
  · cases found
  · rename_i leads
    split at found
    · rw [leads, found]
    · cases found

/-- Steps after which the same producers hold the tap, which is turned only if none does. -/
theorem Holding.congr
    {shared next : SharedPipeline δ ω}
    (holding : shared.Holding)
    (holders : next.holders = shared.holders)
    (tap : shared.holders = [] ∨ next.tap = shared.tap)
    (pushers : ∀ producer,
      (next.pushers producer).stage = (shared.pushers producer).stage ∨
        (shared.pushers producer).stage.holds = false ∧
          (next.pushers producer).stage.holds = false) :
    next.Holding := by
  have holds : ∀ producer,
      (next.pushers producer).stage.holds = (shared.pushers producer).stage.holds := by
    intro producer
    rcases pushers producer with same | ⟨before, after⟩
    · rw [same]
    · rw [before, after]
  constructor
  · rw [holders]
    exact holding.nodup
  · intro producer
    rw [holders, holds]
    exact holding.holders producer
  · intro producer packet number found
    have held := holds producer
    rw [found] at held
    -- The tap is turned only while this producer does not hold it.
    rcases tap with unheld | same
    · rw [holding.of_unheld unheld producer] at held
      cases held
    · rw [same]
      rcases pushers producer with unchanged | ⟨before, -⟩
      · exact holding.found producer packet number (unchanged.symm.trans found)
      · rw [before] at held
        cases held

/-- A producer that takes hold of the tap has found where it leads. -/
theorem Holding.hold
    {shared : SharedPipeline δ ω}
    (holding : shared.Holding)
    {producer : Nat}
    (released : (shared.pushers producer).stage.holds = false)
    (packet : Packet) :
    (shared.hold producer packet).Holding := by
  constructor
  · refine List.nodup_cons.mpr ⟨?_, holding.nodup⟩
    intro member
    rw [(holding.holders producer).mp member] at released
    cases released
  · intro other
    change other ∈ producer :: shared.holders ↔ _
    by_cases same : other = producer
    · rw [same, pushers_hold_same]
      exact ⟨fun _ => rfl, fun _ => List.mem_cons_self⟩
    · rw [List.mem_cons, or_iff_right same, shared.pushers_hold_other same]
      exact holding.holders other
  · intro other looked number found
    by_cases same : other = producer
    · rw [same, pushers_hold_same, PushStage.holding.injEq] at found
      exact found?_eq_some found.2
    · rw [shared.pushers_hold_other same] at found
      exact holding.found other looked number found

/-- A producer that lets go of the tap holds nothing. -/
theorem Holding.pass
    {shared : SharedPipeline δ ω}
    (holding : shared.Holding)
    (producer : Nat)
    (packet : Packet)
    (number? : Option Nat) :
    (shared.pass producer packet number?).Holding := by
  constructor
  · exact holding.nodup.erase producer
  · intro other
    change other ∈ shared.holders.erase producer ↔ _
    rw [holding.nodup.mem_erase_iff]
    by_cases same : other = producer
    · rw [same, pushers_pass_same]
      exact ⟨fun member => absurd rfl member.1, nofun⟩
    · rw [and_iff_right same, shared.pushers_pass_other same]
      exact holding.holders other
  · intro other looked number found
    by_cases same : other = producer
    · rw [same, pushers_pass_same] at found
      cases found
    · rw [shared.pushers_pass_other same] at found
      exact holding.found other looked number found

/-- No step turns the tap while a producer holds it. -/
theorem Holding.perform
    {shared : SharedPipeline δ ω}
    (holding : shared.Holding)
    (step : SharingStep ω) :
    (shared.perform step).Holding := by
  have shares := shared.sharingCase step
  generalize shared.perform step = next at shares ⊢
  have same : ∀ producer, (shared.pushers producer).stage = (shared.pushers producer).stage ∨
      (shared.pushers producer).stage.holds = false ∧
        (shared.pushers producer).stage.holds = false :=
    fun _ => .inl rfl
  cases shares with
  | aside next recording tap holders pushers owner begun returned tapped =>
      exact holding.congr holders (.inr tap) fun producer => (pushers producer).2
  | looks producer packet released => exact holding.hold released packet
  | handsOver producer packet number? held => exact holding.pass producer packet number?
  | attaches attaching unheld => exact holding.congr rfl (.inl unheld) same
  | detaches ending detaching unheld => exact holding.congr rfl (.inl unheld) same
  | acts operation alone => exact holding.congr rfl (.inr rfl) same
  | asksStart request free vacant => exact holding.congr rfl (.inr rfl) same
  | asksEnd ending recording free engaged => exact holding.congr rfl (.inr rfl) same
  | launches request launching worker starts => exact holding.congr rfl (.inr rfl) same
  | refuses ending recording refusing engaged held => exact holding.congr rfl (.inr rfl) same
  | skips ending recording refusing engaged unheld => exact holding.congr rfl (.inr rfl) same
  | stops ending stopping => exact holding.congr rfl (.inr rfl) same
  | returns ending recording joining engaged closed => exact holding.congr rfl (.inr rfl) same

/-! ## Packets that were handed over -/

/-- What the log tells of packets that were handed over. -/
structure Logged (shared : SharedPipeline δ ω) : Prop where
  turn : ∀ tapped ∈ shared.tapped,
    tapped.offer.turn < (shared.pushers tapped.offer.producer).turn
  once : (shared.tapped.map fun tapped => tapped.offer.call).Nodup
  /-- The tap led to no recording before it was begun. -/
  begun : ∀ tapped ∈ shared.tapped, ∀ number, tapped.number? = some number →
    number < shared.begun.length

theorem logged_of (pipeline : Pipeline δ ω) : (of pipeline).Logged where
  turn := nofun
  once := .nil
  begun := nofun

theorem Logged.congr
    {shared next : SharedPipeline δ ω}
    (logged : shared.Logged)
    (turns : ∀ producer, (next.pushers producer).turn = (shared.pushers producer).turn)
    (tapped : next.tapped = shared.tapped)
    (begun : shared.begun.length ≤ next.begun.length) :
    next.Logged := by
  constructor
  · intro packet member
    rw [tapped] at member
    rw [turns]
    exact logged.turn packet member
  · rw [tapped]
    exact logged.once
  · intro packet member number leads
    rw [tapped] at member
    exact Nat.lt_of_lt_of_le (logged.begun packet member number leads) begun

/-- A packet is handed over in the turn of its producer, which has handed over none in it before. -/
theorem Logged.pass
    {shared : SharedPipeline δ ω}
    (logged : shared.Logged)
    (coupled : shared.Coupled)
    (producer : Nat)
    (packet : Packet)
    (number? : Option Nat) :
    (shared.pass producer packet number?).Logged := by
  have tapped : (shared.pass producer packet number?).tapped = shared.tapped ++
      [⟨⟨producer, (shared.pushers producer).turn, packet⟩, shared.tap,
        (shared.record number? packet).2⟩] := rfl
  constructor
  · intro other member
    rw [tapped, List.mem_append, List.mem_singleton] at member
    by_cases same : other.offer.producer = producer
    · rw [same, pushers_pass_same]
      rcases member with earlier | rfl
      · have before := logged.turn other earlier
        rw [same] at before
        exact Nat.lt_succ_of_lt before
      · exact Nat.lt_succ_self _
    · rw [shared.pushers_pass_other same]
      rcases member with earlier | rfl
      · exact logged.turn other earlier
      · exact absurd rfl same
  · rw [tapped, List.map_append, List.nodup_append']
    refine ⟨logged.once, List.nodup_singleton _, ?_⟩
    rw [List.map_singleton, List.disjoint_singleton]
    -- All that this producer has handed over before was in an earlier turn.
    intro repeated
    obtain ⟨other, member, same⟩ := List.mem_map.mp repeated
    have before := logged.turn other member
    obtain ⟨sameProducer, sameTurn⟩ := Prod.mk.inj same
    rw [sameProducer, sameTurn] at before
    exact Nat.lt_irrefl _ before
  · intro other member number leads
    rw [tapped, List.mem_append, List.mem_singleton] at member
    rcases member with earlier | rfl
    · exact logged.begun other earlier number leads
    · obtain ⟨same, -, recording, engaged⟩ := coupled.of_tap leads
      change number < shared.begun.length
      rw [coupled.begun, isEngaged_of engaged, same]
      exact Nat.lt_succ_self _

/-- What a step logs has a turn of its own and names a recording that was begun. -/
theorem Logged.perform
    {shared : SharedPipeline δ ω}
    (logged : shared.Logged)
    (coupled : shared.Coupled)
    (step : SharingStep ω) :
    (shared.perform step).Logged := by
  have shares := shared.sharingCase step
  generalize shared.perform step = next at shares ⊢
  cases shares with
  | aside next recording tap holders pushers owner begun returned tapped =>
      exact logged.congr (fun producer => (pushers producer).1) tapped
        (Nat.le_of_eq (congrArg List.length begun.symm))
  | looks producer packet released =>
      refine logged.congr ?_ rfl (Nat.le_refl _)
      intro other
      by_cases same : other = producer
      · rw [same, pushers_hold_same]
      · rw [shared.pushers_hold_other same]
  | handsOver producer packet number? held => exact logged.pass coupled producer packet number?
  | launches request launching worker starts =>
      refine logged.congr (fun _ => rfl) rfl ?_
      rw [List.length_append]
      exact Nat.le_add_right _ _
  | acts operation alone => exact logged.congr (fun _ => rfl) rfl (Nat.le_refl _)
  | asksStart request free vacant => exact logged.congr (fun _ => rfl) rfl (Nat.le_refl _)
  | asksEnd ending recording free engaged => exact logged.congr (fun _ => rfl) rfl (Nat.le_refl _)
  | attaches attaching unheld => exact logged.congr (fun _ => rfl) rfl (Nat.le_refl _)
  | detaches ending detaching unheld => exact logged.congr (fun _ => rfl) rfl (Nat.le_refl _)
  | refuses ending recording refusing engaged held =>
      exact logged.congr (fun _ => rfl) rfl (Nat.le_refl _)
  | skips ending recording refusing engaged unheld =>
      exact logged.congr (fun _ => rfl) rfl (Nat.le_refl _)
  | stops ending stopping => exact logged.congr (fun _ => rfl) rfl (Nat.le_refl _)
  | returns ending recording joining engaged closed =>
      exact logged.congr (fun _ => rfl) rfl (Nat.le_refl _)

/-- What holds of the tap and the log whatever the sinks of recordings do. -/
structure Orderly (shared : SharedPipeline δ ω) : Prop where
  coupled : shared.Coupled
  holding : shared.Holding
  logged : shared.Logged

/-- Before anybody does anything, tap and log are in order. -/
theorem orderly_of
    {pipeline : Pipeline δ ω}
    (free : pipeline.recording = none) :
    (of pipeline).Orderly :=
  ⟨coupled_of free, holding_of pipeline, logged_of pipeline⟩

/-- No step puts tap and log out of order, whatever the sinks do. -/
theorem Orderly.perform
    {shared : SharedPipeline δ ω}
    (orderly : shared.Orderly)
    (step : SharingStep ω) :
    (shared.perform step).Orderly :=
  ⟨orderly.coupled.perform step, orderly.holding.perform step,
    orderly.logged.perform orderly.coupled step⟩

end SharedPipeline

end DroneSession
