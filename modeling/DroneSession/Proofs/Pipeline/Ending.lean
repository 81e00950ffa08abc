import DroneSession.Proofs.Pipeline.Replay
import DroneSession.Proofs.Pipeline.Window

namespace DroneSession

/-!
# The end of a recording

A recording whose sink never fails can be ended from wherever its owner and the producers stand: the
producers let go of the tap, the owner turns it away and stops the recorder, and the thread comes to
its end.  What is then handed back is the window of the recording, and nothing else.
-/

namespace SharedPipeline

variable {δ ω : Type}

/-! ## Coming to the end -/

/-- A recording can still be handed back. -/
def CanReturn
    (shared : SharedPipeline δ ω)
    (number : Nat) :
    Prop :=
  ∃ later : List (SharingStep ω), number < (shared.run later).returned.length

/-- A recording that can be handed back after some steps could be handed back before them. -/
theorem CanReturn.of_run
    {shared : SharedPipeline δ ω}
    {number : Nat}
    (steps : List (SharingStep ω))
    (after : (shared.run steps).CanReturn number) :
    shared.CanReturn number := by
  obtain ⟨later, returned⟩ := after
  refine ⟨steps ++ later, ?_⟩
  rw [run_append]
  exact returned

/-- A recording is in progress, and its sink never fails. -/
structure InProgress
    (shared : SharedPipeline δ ω)
    (number : Nat)
    (request : RecordingRequest ω) :
    Prop where
  orderly : shared.Orderly
  captures : shared.Captures
  current : number = shared.current
  engaged : shared.isEngaged = true
  reliably : shared.BeginsReliably number request

/-- A step that hands nothing back leaves a recording in progress. -/
theorem InProgress.perform
    {shared : SharedPipeline δ ω}
    {number : Nat}
    {request : RecordingRequest ω}
    (inProgress : shared.InProgress number request)
    (step : SharingStep ω)
    (engaged : (shared.perform step).isEngaged = shared.isEngaged)
    (begun : (shared.perform step).begun = shared.begun)
    (returned : (shared.perform step).returned = shared.returned) :
    (shared.perform step).InProgress number request where
  orderly := inProgress.orderly.perform step
  captures := inProgress.captures.perform inProgress.orderly step
  current := by
    rw [SharedPipeline.current, returned]
    exact inProgress.current
  engaged := engaged.trans inProgress.engaged
  reliably := by
    rw [BeginsReliably, begun]
    exact inProgress.reliably

/-- The recorder of a recording in progress has lost nothing of the window. -/
theorem InProgress.exists_retains
    {shared : SharedPipeline δ ω}
    {number : Nat}
    {request : RecordingRequest ω}
    (inProgress : shared.InProgress number request) :
    ∃ recording, shared.pipeline.recording = some recording ∧
      Recorder.Retains request (shared.window number) recording.worker shared.owner := by
  obtain ⟨recording, engaged⟩ := Option.isSome_iff_exists.mp inProgress.engaged
  obtain ⟨last, lastBegun, -, retains⟩ := inProgress.captures.rolls recording engaged
  rw [← inProgress.current] at lastBegun retains
  obtain rfl := Option.some.inj (inProgress.reliably.1.symm.trans lastBegun)
  exact ⟨recording, engaged, retains inProgress.reliably.2⟩

/-- Producers that hold the tap can hand their packets over. -/
theorem InProgress.exists_unheld
    {shared : SharedPipeline δ ω}
    {number : Nat}
    {request : RecordingRequest ω}
    (inProgress : shared.InProgress number request) :
    ∃ later, (shared.run later).holders = [] ∧ (shared.run later).InProgress number request := by
  induction holders : shared.holders generalizing shared with
  | nil => exact ⟨[], holders, inProgress⟩
  | cons producer others inductionHypothesis =>
      have holds := (inProgress.orderly.holding.holders producer).mp
        (holders ▸ List.mem_cons_self)
      obtain ⟨packet, number?, holding⟩ : ∃ packet number?,
          (shared.pushers producer).stage = .holding packet number? := by
        cases stage : (shared.pushers producer).stage with
        | holding packet number? => exact ⟨packet, number?, rfl⟩
        | idle answer => simp [stage, PushStage.holds] at holds
        | released packet => simp [stage, PushStage.holds] at holds
        | offering packet => simp [stage, PushStage.holds] at holds
      have passed : shared.perform (.handOver producer) = shared.pass producer packet number? := by
        simp only [SharedPipeline.perform, handOver, holding]
      have next := inProgress.perform (.handOver producer)
        (by rw [passed]; exact shared.isSome_record number? packet)
        (by rw [passed]; rfl)
        (by rw [passed]; rfl)
      have fewer : (shared.perform (.handOver producer)).holders = others := by
        rw [passed]
        change shared.holders.erase producer = others
        rw [holders, List.erase_cons_head]
      obtain ⟨later, unheld, still⟩ := inductionHypothesis next fewer
      exact ⟨.handOver producer :: later, unheld, still⟩

/-- The number of steps that the owner is away from joining the recorder. -/
def stepsToJoin : OwnerStage ω → Nat
  | .joining _ => 0
  | .stopping _ => 1
  | .refusing _ => 2
  | .detaching _ => 3
  | .free => 4
  | .attaching => 5
  | .launching _ => 6

theorem InProgress.nearer
    {shared next : SharedPipeline δ ω}
    {number : Nat}
    {request : RecordingRequest ω}
    (inProgress : shared.InProgress number request)
    (step : SharingStep ω)
    (same : shared.perform step = next)
    (nearer : stepsToJoin next.owner < stepsToJoin shared.owner)
    (unheld : next.holders = [])
    (engaged : next.isEngaged = shared.isEngaged)
    (begun : next.begun = shared.begun)
    (returned : next.returned = shared.returned) :
    ∃ step, stepsToJoin (shared.perform step).owner < stepsToJoin shared.owner ∧
      (shared.perform step).holders = [] ∧ (shared.perform step).InProgress number request := by
  subst same
  exact ⟨step, nearer, unheld, inProgress.perform step engaged begun returned⟩

/-- While nobody holds the tap, the owner can come nearer to the end of a recording. -/
theorem InProgress.exists_nearer
    {shared : SharedPipeline δ ω}
    {number : Nat}
    {request : RecordingRequest ω}
    (inProgress : shared.InProgress number request)
    (unheld : shared.holders = [])
    (away : stepsToJoin shared.owner ≠ 0) :
    ∃ step, stepsToJoin (shared.perform step).owner < stepsToJoin shared.owner ∧
      (shared.perform step).holders = [] ∧ (shared.perform step).InProgress number request := by
  obtain ⟨recording, engaged, retains⟩ := inProgress.exists_retains
  cases owner : shared.owner with
  | joining next =>
      rw [owner] at away
      exact absurd rfl away
  | launching other =>
      have vacant := inProgress.orderly.coupled.launching other owner
      rw [inProgress.engaged] at vacant
      cases vacant
  | stopping next =>
      have step : shared.perform .proceed =
          { shared with
            pipeline := shared.pipeline.onRecorder .sendStop, owner := .joining next } := by
        simp only [SharedPipeline.perform, proceed, owner]
      rw [← owner]
      exact inProgress.nearer .proceed step (by rw [owner]; exact Nat.lt_succ_self 0) unheld
        (shared.pipeline.isSome_onRecorder _) rfl rfl
  | refusing next =>
      rw [owner] at retains
      have step : shared.perform .proceed =
          { shared with
            pipeline := shared.pipeline.onRecorder .refuse, owner := .stopping next } := by
        simp only [SharedPipeline.perform, proceed, owner, engaged, SharedPipeline.refuse,
          retains.refuse.1, if_true]
      rw [← owner]
      exact inProgress.nearer .proceed step (by rw [owner]; exact Nat.lt_succ_self 1) unheld
        (shared.pipeline.isSome_onRecorder _) rfl rfl
  | detaching next =>
      have step : shared.perform .proceed =
          { shared with tap := none, owner := .refusing next } := by
        simp only [SharedPipeline.perform, proceed, owner, unheld, if_true]
      rw [← owner]
      exact inProgress.nearer .proceed step (by rw [owner]; exact Nat.lt_succ_self 2) unheld
        rfl rfl rfl
  | free =>
      have step : shared.perform .stopRecording = { shared with owner := .detaching none } := by
        simp only [SharedPipeline.perform, stopRecording, owner, engaged]
      rw [← owner]
      exact inProgress.nearer .stopRecording step (by rw [owner]; exact Nat.lt_succ_self 3) unheld
        rfl rfl rfl
  | attaching =>
      have step : shared.perform .proceed =
          { shared with tap := some shared.current, owner := .free, answer := .ok () } := by
        simp only [SharedPipeline.perform, proceed, owner, unheld, if_true]
      rw [← owner]
      exact inProgress.nearer .proceed step (by rw [owner]; exact Nat.lt_succ_self 4) unheld
        rfl rfl rfl

/-- A recorder that was told to stop can come to its end and be joined. -/
theorem InProgress.canReturn_of_joining
    {shared : SharedPipeline δ ω}
    {number : Nat}
    {request : RecordingRequest ω}
    (inProgress : shared.InProgress number request)
    {next : Option (RecordingRequest ω)}
    (joining : shared.owner = .joining next) :
    shared.CanReturn number := by
  obtain ⟨recording, engaged, retains⟩ := inProgress.exists_retains
  rw [joining] at retains
  refine ⟨joiningSteps recording.worker, ?_⟩
  rw [run_joiningSteps joining engaged (retains.closes inProgress.reliably.2),
    inProgress.current, List.length_append]
  exact Nat.lt_succ_self _

/-- If no producer holds the tap, the owner can go on until the recording is handed back. -/
theorem InProgress.canReturn_of_unheld
    {shared : SharedPipeline δ ω}
    {number : Nat}
    {request : RecordingRequest ω}
    (inProgress : shared.InProgress number request)
    (unheld : shared.holders = []) :
    shared.CanReturn number := by
  -- Beginning a recording takes more steps to its end than ending one, so every call comes nearer.
  induction away : stepsToJoin shared.owner using Nat.strongRecOn generalizing shared with
  | ind away inductionHypothesis =>
      by_cases there : stepsToJoin shared.owner = 0
      · cases owner : shared.owner with
        | joining next => exact inProgress.canReturn_of_joining owner
        | _ => simp [stepsToJoin, owner] at there
      · obtain ⟨step, nearer, unheldStill, still⟩ := inProgress.exists_nearer unheld there
        rw [away] at nearer
        exact (inductionHypothesis _ nearer still unheldStill rfl).of_run [step]

/-- Whoever holds the tap and whatever the owner is at, a recording in progress can be ended. -/
theorem InProgress.canReturn
    {shared : SharedPipeline δ ω}
    {number : Nat}
    {request : RecordingRequest ω}
    (inProgress : shared.InProgress number request) :
    shared.CanReturn number := by
  obtain ⟨later, unheld, still⟩ := inProgress.exists_unheld
  exact (still.canReturn_of_unheld unheld).of_run later

/-- A recording that was begun with a sink that never fails can be handed back. -/
theorem canReturn_of_begun
    {shared : SharedPipeline δ ω}
    (orderly : shared.Orderly)
    (captures : shared.Captures)
    {number : Nat}
    {request : RecordingRequest ω}
    (reliably : shared.BeginsReliably number request) :
    shared.CanReturn number := by
  obtain ⟨inside, -⟩ := List.getElem?_eq_some_iff.mp reliably.1
  rw [orderly.coupled.begun] at inside
  by_cases returned : number < shared.returned.length
  · exact ⟨[], returned⟩
  · have engaged : shared.isEngaged = true := by
      refine Bool.of_not_eq_false ?_
      intro vacant
      rw [vacant] at inside
      exact returned inside
    rw [engaged] at inside
    have current : number = shared.current :=
      Nat.le_antisymm (Nat.le_of_lt_succ inside) (Nat.not_lt.mp returned)
    exact InProgress.canReturn ⟨orderly, captures, current, engaged, reliably⟩

/-! ## Every run -/

/-- What holds of the window of a recording whose sink never fails. -/
structure KeepsWindow
    (shared : SharedPipeline δ ω)
    (number : Nat)
    (request : RecordingRequest ω) :
    Prop where
  /-- No push is handed over twice. -/
  once : (shared.tapped.map fun tapped => tapped.offer.call).Nodup
  /-- No push is in the windows of two recordings. -/
  apart : ∀ other, other ≠ number →
    ((shared.tappedFor number).map fun tapped => tapped.offer.call).Disjoint
      ((shared.tappedFor other).map fun tapped => tapped.offer.call)
  /-- The recorder has taken every packet of the window. -/
  accepted : ∀ tapped ∈ shared.tappedFor number, tapped.accepted = true
  /-- Until the recorder is told to stop, they are all written or wait in its queue. -/
  kept : number = shared.current → shared.owner.hasRefused = false →
    ∀ recording, shared.pipeline.recording = some recording →
      recording.worker.state.output.written ++
          Recorder.bytesOf request.started (queuedPackets recording.worker.queue) =
        Recorder.bytesOf request.started (shared.window number)
  /-- The recording can be ended, whoever holds the tap and whatever the owner is at. -/
  returns : shared.CanReturn number
  /-- What is handed back holds an entry for each, in the order in which they were handed over. -/
  holds : ∀ result, shared.returned[number]? = some result →
    ∃ finished, result = some finished ∧ finished.sink = request.sink ∧
      finished.output.received =
        ((shared.window number).map (Recorder.entryOf request.started)).flatMap
          RecordedEntry.encode ∧
      ReadsBack finished.output.received
        ((shared.window number).map (Recorder.entryOf request.started))

/-- A packet that is handed over while the tap leads to one recording goes to no other. -/
theorem Logged.apart
    {shared : SharedPipeline δ ω}
    (logged : shared.Logged)
    {number other : Nat}
    (different : other ≠ number) :
    ((shared.tappedFor number).map fun tapped => tapped.offer.call).Disjoint
      ((shared.tappedFor other).map fun tapped => tapped.offer.call) := by
  intro call here there
  obtain ⟨first, firstMember, rfl⟩ := List.mem_map.mp here
  obtain ⟨second, secondMember, same⟩ := List.mem_map.mp there
  obtain ⟨firstMember, firstLeads⟩ := List.mem_filter.mp firstMember
  obtain ⟨secondMember, secondLeads⟩ := List.mem_filter.mp secondMember
  obtain rfl := List.inj_on_of_nodup_map logged.once secondMember firstMember same
  exact different (Option.some.inj
    ((of_decide_eq_true secondLeads).symm.trans (of_decide_eq_true firstLeads)))

/--
However producers, the owner and the threads take turns, a recording whose sink never fails holds
the packets that were handed over while the tap led to its recorder, and nothing else.
-/
theorem recording_keeps_window
    {pipeline : Pipeline δ ω}
    (free : pipeline.recording = none)
    (steps : List (SharingStep ω))
    {number : Nat}
    {request : RecordingRequest ω}
    (begun : ((of pipeline).run steps).begun[number]? = some request)
    (reliable : request.sink.Reliable)
    (small : ∀ packet ∈ ((of pipeline).run steps).window number,
      packet.payload.length ≤ RecordedEntry.largestPayload) :
    ((of pipeline).run steps).KeepsWindow number request := by
  obtain ⟨orderly, captures⟩ := captures_run free steps
  generalize (of pipeline).run steps = shared at *
  have entries := Recorder.entriesOf_of_recordable request.started small
  constructor
  · exact orderly.logged.once
  · exact fun other different => orderly.logged.apart different
  · intro tapped member
    obtain ⟨logged, leads⟩ := List.mem_filter.mp member
    exact captures.accepted tapped logged number request (of_decide_eq_true leads)
      ⟨begun, reliable⟩
  · rintro rfl unstopped recording engaged
    obtain ⟨last, lastBegun, -, retains⟩ := captures.rolls recording engaged
    obtain rfl := Option.some.inj (begun.symm.trans lastBegun)
    exact (retains reliable).written reliable unstopped
  · exact canReturn_of_begun orderly captures ⟨begun, reliable⟩
  · intro result handedBack
    obtain ⟨finished, same, sink, received⟩ :=
      captures.returned number result request handedBack ⟨begun, reliable⟩
    rw [Recorder.bytesOf, entries] at received
    refine ⟨finished, same, sink, received, ?_⟩
    rw [received]
    apply readsBack_encodings
    rw [← entries]
    exact fun _ => Recorder.entriesOf_writable

/-- Two recordings one after the other; the first cannot flush its sink. -/
def failingRequest : RecordingRequest Unit where
  sink := .failing none (some ⟨.other, "disk full"⟩)
  state := ()
  file := none
  started := ⟨0⟩

/-- A recording into memory that goes to no file. -/
def memoryRequest : RecordingRequest Unit where
  sink := .memory
  state := ()
  file := none
  started := ⟨200⟩

/-- Producers hold the tap when the owner is about to turn it away. -/
def contendedSteps : List (SharingStep Unit) :=
  [ .startRecording failingRequest, .proceed, .proceed,
    .look 0 ⟨.video, 0, ⟨100⟩, [9]⟩,
    .stopRecording, .proceed, .handOver 0, .proceed, .proceed, .consume .recorder, .proceed,
    .consume .recorder, .close .recorder, .proceed,
    .look 1 ⟨.video, 1, ⟨150⟩, [8]⟩,
    .startRecording memoryRequest, .proceed, .proceed, .handOver 1, .proceed,
    .look 2 ⟨.video, 2, ⟨300⟩, [2]⟩, .look 3 ⟨.navigation, 0, ⟨310⟩, [3]⟩,
    .stopRecording, .proceed, .handOver 3, .proceed, .consume .recorder, .handOver 2,
    .proceed, .proceed, .consume .recorder, .proceed, .consume .recorder, .close .recorder,
    .proceed ]

/-- A pipeline whose decoding workers run. -/
def runningPipeline : Pipeline Unit Unit where
  navigation := { NavigationWorker.create with stage := .running, accepting := true, alive := true }
  video :=
    { VideoWorker.create Pipeline.blackout false () with
      stage := .running, accepting := true, alive := true }
  recording := none
  displayRate := Settings.standard.displayRate
  files := .empty
  reports := []

set_option maxRecDepth 1000 in
/-- A recording whose tap is held when its owner wants to turn it away keeps its window. -/
theorem contended_recording_keeps_window :
    runningPipeline.recording = none ∧
    ((of runningPipeline).run contendedSteps).begun[1]? = some memoryRequest ∧
    memoryRequest.sink.Reliable ∧
    ((of runningPipeline).run contendedSteps).window 1 =
      [⟨.navigation, 0, ⟨310⟩, [3]⟩, ⟨.video, 2, ⟨300⟩, [2]⟩] ∧
    ((of runningPipeline).run contendedSteps).returned.length = 2 ∧
    ((of runningPipeline).run contendedSteps).KeepsWindow 1 memoryRequest := by
  have begun : ((of runningPipeline).run contendedSteps).begun[1]? = some memoryRequest := by
    with_unfolding_all rfl
  have window : ((of runningPipeline).run contendedSteps).window 1 =
      [⟨.navigation, 0, ⟨310⟩, [3]⟩, ⟨.video, 2, ⟨300⟩, [2]⟩] := by
    decide +kernel
  have returned : ((of runningPipeline).run contendedSteps).returned.length = 2 := by
    decide +kernel
  refine ⟨rfl, begun, Sink.memory_reliable, window, returned, ?_⟩
  refine recording_keeps_window rfl contendedSteps begun Sink.memory_reliable ?_
  rw [window]
  decide

end SharedPipeline

end DroneSession
