import DroneSession.Proofs.Pipeline.Schedule
import DroneSession.Proofs.Worker.Exit

namespace DroneSession

/-!
# Sharing a pipeline

Any number of producers push packets while the owner of a pipeline starts and stops recordings and
the threads of its workers take their steps, all in any order.  The tap leads the producers to the
recorder.  A producer holds it from the moment at which it looks where the tap leads until it has
handed its packet over, and only then turns to the worker of the packet's stream.  Several producers
may hold the tap at once, but the owner turns it only while nobody does.

Recordings are numbered in the order in which they are begun, and they are handed back in this
order.
-/

/-- What a recording is begun with. -/
structure RecordingRequest (ω : Type) where
  sink : Sink ω
  state : ω
  file : Option String
  started : Instant

/-- How far a producer has come with a push. -/
inductive PushStage where
  /-- Between two pushes, with the answer to the last one. -/
  | idle (answer : Option Bool)
  /-- The producer holds the tap, and has found the recorder of a recording accepting or none. -/
  | holding (packet : Packet) (number? : Option Nat)
  | released (packet : Packet)
  /-- The producer has found the worker of the packet's stream accepting. -/
  | offering (packet : Packet)

/-- Whether a producer holds the tap. -/
def PushStage.holds : PushStage → Bool
  | .holding _ _ => true
  | _ => false

/-- A producer and how far it has come. -/
structure Pusher where
  /-- The number of packets that were handed over. -/
  turn : Nat
  stage : PushStage

/--
How far the owner has come with a call, and what is to be begun behind the end of a recording.
-/
inductive OwnerStage (ω : Type) where
  | free
  | launching (request : RecordingRequest ω)
  /-- A recorder runs, and the tap is to be turned to it. -/
  | attaching
  | detaching (next : Option (RecordingRequest ω))
  | refusing (next : Option (RecordingRequest ω))
  /-- The recorder refuses packets, and the stop message is to be sent. -/
  | stopping (next : Option (RecordingRequest ω))
  | joining (next : Option (RecordingRequest ω))

namespace OwnerStage

variable {ω : Type}

/-- What is left to do for a call behind the end of a recording. -/
def behind : Option (RecordingRequest ω) → OwnerStage ω
  | none => .free
  | some request => .launching request

/-- Whether the tap leads to the recording in progress, if there is one. -/
def attaches : OwnerStage ω → Bool
  | .free => true
  | .detaching _ => true
  | _ => false

/-- Whether the recorder was told to stop, or is being told. -/
def hasRefused : OwnerStage ω → Bool
  | .stopping _ => true
  | .joining _ => true
  | _ => false

/-- A recorder is not told to refuse before the tap is turned away from it. -/
theorem not_hasRefused_of_attaches
    {owner : OwnerStage ω}
    (attaches : owner.attaches = true) :
    owner.hasRefused = false := by
  cases owner <;> first | rfl | cases attaches

end OwnerStage

/-- What a producer did when it handed a packet over. -/
structure TappedPacket where
  offer : Offer
  /-- The recording to which the tap led. -/
  number? : Option Nat
  /-- Whether a recorder has taken the packet. -/
  accepted : Bool

/-- A pipeline, those who share it, and a log of what they did. -/
structure SharedPipeline (δ ω : Type) where
  pipeline : Pipeline δ ω
  /-- The recording to which the tap leads. -/
  tap : Option Nat
  /-- The producers that hold the tap. -/
  holders : List Nat
  pushers : Nat → Pusher
  owner : OwnerStage ω
  /-- The answer to the last call that was to start a recording. -/
  answer : Except SessionError Unit
  begun : List (RecordingRequest ω)
  /-- What was handed back at the end of each recording. -/
  returned : List (Option (FinishedRecording ω))
  tapped : List TappedPacket

/-- One step of somebody. -/
inductive SharingStep (ω : Type) where
  /-- A producer begins to push and takes hold of the tap. -/
  | look (producer : Nat) (packet : Packet)
  /-- A producer hands its packet to the recorder that it has found, and lets go of the tap. -/
  | handOver (producer : Nat)
  /-- A producer reads the accepting flag of the worker of its packet's stream. -/
  | check (producer : Nat)
  /-- A producer that has found the flag set sends its packet. -/
  | forward (producer : Nat)
  | startRecording (request : RecordingRequest ω)
  | stopRecording
  /-- The owner goes on with its call. -/
  | proceed
  /-- The thread of a worker takes a message. -/
  | consume (part : PipelinePart)
  /-- The thread of a worker leaves its loop behind. -/
  | close (part : PipelinePart)

namespace Pipeline

variable {δ ω : Type}

/-- Whether the worker of a stream accepts packets. -/
def accepts
    (pipeline : Pipeline δ ω)
    (kind : PacketKind) :
    Bool :=
  match kind with
  | .navigation => pipeline.navigation.accepting
  | .video => pipeline.video.accepting

/-- Send a packet to the worker of its stream, which was found accepting. -/
def send
    (pipeline : Pipeline δ ω)
    (packet : Packet) :
    Pipeline δ ω × Bool :=
  match packet.kind with
  | .navigation =>
      let (worker, accepted) := pipeline.navigation.send packet
      ({ pipeline with navigation := worker }, accepted)
  | .video =>
      let (worker, accepted) := pipeline.video.send packet
      ({ pipeline with video := worker }, accepted)

/-- Change the recorder, if there is one. -/
def onRecorder
    (pipeline : Pipeline δ ω)
    (change : Worker (RecordingStage ω) → Worker (RecordingStage ω)) :
    Pipeline δ ω :=
  { pipeline with
    recording := pipeline.recording.map fun recording =>
      { recording with worker := change recording.worker } }

/-- Take the recorder back from a thread that has ended, with what it has recorded. -/
def collect
    (pipeline : Pipeline δ ω)
    (recording : Recording ω) :
    Pipeline δ ω × Option (FinishedRecording ω) :=
  let (worker, stage) := recording.worker.join
  let (closed, files) := { recording with worker := worker }.save pipeline.files
  ( { pipeline with
      recording := none
      files := files
      reports := pipeline.reports ++ closed.worker.notifications },
    stage.map fun stage => ⟨recording.sink, stage.output, recording.file⟩ )

/-- The recorder of a recording in progress is changed in its place. -/
theorem onRecorder_of_engaged
    {pipeline : Pipeline δ ω}
    {recording : Recording ω}
    (engaged : pipeline.recording = some recording)
    (change : Worker (RecordingStage ω) → Worker (RecordingStage ω)) :
    pipeline.onRecorder change =
      { pipeline with recording := some { recording with worker := change recording.worker } } := by
  rw [onRecorder, engaged]
  rfl

/-- The recorder is changed one time after another. -/
theorem onRecorder_onRecorder
    (pipeline : Pipeline δ ω)
    (first second : Worker (RecordingStage ω) → Worker (RecordingStage ω)) :
    (pipeline.onRecorder first).onRecorder second =
      pipeline.onRecorder fun worker => second (first worker) := by
  simp only [onRecorder, Option.map_map]
  rfl

/-- Forwarding is looking at the accepting flag and then sending. -/
theorem forward_eq
    (pipeline : Pipeline δ ω)
    (packet : Packet) :
    pipeline.forward packet =
      if pipeline.accepts packet.kind then pipeline.send packet else (pipeline, false) := by
  cases kind : packet.kind with
  | navigation =>
      cases accepting : pipeline.navigation.accepting <;>
        simp [forward, accepts, send, kind, Worker.enqueue, accepting]
  | video =>
      cases accepting : pipeline.video.accepting <;>
        simp [forward, accepts, send, kind, Worker.enqueue, accepting]

/-- A packet passes a tap that leads to no recorder that accepts. -/
theorem tap_of_not_accepting
    {pipeline : Pipeline δ ω}
    (closed : ∀ recording, pipeline.recording = some recording →
      recording.worker.accepting = false)
    (packet : Packet) :
    pipeline.tap packet = pipeline := by
  obtain ⟨navigation, video, recording?, displayRate, files, reports⟩ := pipeline
  cases recording? with
  | none => rfl
  | some recording =>
      have refusing : recording.worker.accepting = false := closed recording rfl
      simp [tap, Worker.enqueue, refusing]

/-- Where the recorder accepts packets, the tap sends them to it. -/
theorem tap_of_accepting
    {pipeline : Pipeline δ ω}
    {recording : Recording ω}
    (engaged : pipeline.recording = some recording)
    (accepting : recording.worker.accepting = true)
    (packet : Packet) :
    pipeline.tap packet = pipeline.onRecorder fun worker => (worker.send packet).1 := by
  simp only [tap, onRecorder, engaged, Option.map_some, Worker.enqueue, accepting, if_true]

/-- Stopping a recording stops its recorder, waits for it and collects it. -/
theorem stopRecording_eq
    {pipeline : Pipeline δ ω}
    {recording : Recording ω}
    (engaged : pipeline.recording = some recording) :
    pipeline.stopRecording =
      pipeline.collect { recording with worker := recording.worker.stop.settle } := by
  simp only [stopRecording, engaged]
  rfl

/-- Behind the end of a recording there is none. -/
theorem recording_stopRecording (pipeline : Pipeline δ ω) :
    pipeline.stopRecording.1.recording = none := by
  unfold stopRecording
  cases engaged : pipeline.recording with
  | none => exact engaged
  | some recording => rfl

/-- A recorder that has stopped by itself is detached before another is attached. -/
theorem attach_of_dead
    {pipeline : Pipeline δ ω}
    {recording : Recording ω}
    (engaged : pipeline.recording = some recording)
    (dead : recording.isAlive = false)
    (sink : Sink ω)
    (state : ω)
    (file : Option String)
    (started : Instant) :
    pipeline.attach sink state file started =
      pipeline.stopRecording.1.attach sink state file started := by
  have reaped : pipeline.reap = pipeline.stopRecording.1 := by
    simp only [reap, engaged, dead, Bool.false_eq_true, if_false]
  have still : pipeline.stopRecording.1.reap = pipeline.stopRecording.1 := by
    rw [reap, pipeline.recording_stopRecording]
  rw [attach, attach, reaped, still]

end Pipeline

namespace SharedPipeline

variable {δ ω : Type}

/-- A pipeline before anybody pushes into it. -/
def of (pipeline : Pipeline δ ω) : SharedPipeline δ ω where
  pipeline := pipeline
  tap := none
  holders := []
  pushers := fun _ => { turn := 0, stage := .idle none }
  owner := .free
  answer := .ok ()
  begun := []
  returned := []
  tapped := []

/-- The number of the recording in progress or, if there is none, of the next. -/
def current (shared : SharedPipeline δ ω) : Nat :=
  shared.returned.length

/-- The recording of a number, as long as it was not handed back. -/
def recording?
    (shared : SharedPipeline δ ω)
    (number : Nat) :
    Option (Recording ω) :=
  if number = shared.current then shared.pipeline.recording else none

/-- Whether the recorder of a recording accepts packets. -/
def isAccepting
    (shared : SharedPipeline δ ω)
    (number : Nat) :
    Bool :=
  match shared.recording? number with
  | none => false
  | some recording => recording.worker.accepting

/-- Put another stage in the place of a producer's. -/
def setPusher
    (shared : SharedPipeline δ ω)
    (producer : Nat)
    (next : Pusher) :
    SharedPipeline δ ω :=
  { shared with
    pushers := fun other => if other = producer then next else shared.pushers other }

/-! ## The steps of a push -/

/-- The recording that a producer finds when it looks where the tap leads. -/
def found? (shared : SharedPipeline δ ω) : Option Nat :=
  match shared.tap with
  | none => none
  | some number => if shared.isAccepting number then some number else none

/-- Take hold of the tap. -/
def hold
    (shared : SharedPipeline δ ω)
    (producer : Nat)
    (packet : Packet) :
    SharedPipeline δ ω :=
  { shared.setPusher producer
      { shared.pushers producer with stage := .holding packet shared.found? } with
    holders := producer :: shared.holders }

/-- The first step of a push, which takes hold of the tap. -/
def look
    (shared : SharedPipeline δ ω)
    (producer : Nat)
    (packet : Packet) :
    SharedPipeline δ ω :=
  match (shared.pushers producer).stage with
  | .idle _ => shared.hold producer packet
  | _ => shared

/-- Send a packet to the recorder of a recording, unless its queue is gone. -/
def record
    (shared : SharedPipeline δ ω)
    (number? : Option Nat)
    (packet : Packet) :
    Pipeline δ ω × Bool :=
  match number?.bind shared.recording? with
  | none => (shared.pipeline, false)
  | some recording =>
      ( shared.pipeline.onRecorder fun worker => (worker.send packet).1,
        (recording.worker.send packet).2 )

/-- Hand a packet to the recorder that its producer has found, and let go of the tap. -/
def pass
    (shared : SharedPipeline δ ω)
    (producer : Nat)
    (packet : Packet)
    (number? : Option Nat) :
    SharedPipeline δ ω :=
  let turn := (shared.pushers producer).turn
  let (pipeline, accepted) := shared.record number? packet
  { shared.setPusher producer { turn := turn + 1, stage := .released packet } with
    pipeline := pipeline
    holders := shared.holders.erase producer
    tapped := shared.tapped ++ [⟨⟨producer, turn, packet⟩, shared.tap, accepted⟩] }

/-- The second step of a push, which lets go of the tap. -/
def handOver
    (shared : SharedPipeline δ ω)
    (producer : Nat) :
    SharedPipeline δ ω :=
  match (shared.pushers producer).stage with
  | .holding packet number? => shared.pass producer packet number?
  | _ => shared

/-- The third step of a push, which looks at the worker's accepting flag. -/
def check
    (shared : SharedPipeline δ ω)
    (producer : Nat) :
    SharedPipeline δ ω :=
  let pusher := shared.pushers producer
  match pusher.stage with
  | .released packet =>
      if shared.pipeline.accepts packet.kind then
        shared.setPusher producer { pusher with stage := .offering packet }
      else
        shared.setPusher producer { pusher with stage := .idle (some false) }
  | _ => shared

/-- The last step of a push, which sends the packet and has the answer. -/
def forward
    (shared : SharedPipeline δ ω)
    (producer : Nat) :
    SharedPipeline δ ω :=
  let pusher := shared.pushers producer
  match pusher.stage with
  | .offering packet =>
      let (pipeline, accepted) := shared.pipeline.send packet
      { shared.setPusher producer { pusher with stage := .idle (some accepted) } with
        pipeline := pipeline }
  | _ => shared

/-! ## The steps of the owner -/

/-- Begin a recording behind the end of one that has stopped by itself, and refuse a second one. -/
def startRecording
    (shared : SharedPipeline δ ω)
    (request : RecordingRequest ω) :
    SharedPipeline δ ω :=
  match shared.owner, shared.pipeline.recording with
  | .free, none => { shared with owner := .launching request }
  | .free, some recording =>
      if recording.isAlive then
        { shared with answer := .error (.workerState Recorder.name "already recording") }
      else
        { shared with owner := .detaching (some request) }
  | _, _ => shared

/-- Begin to end the recording in progress, if the owner is free. -/
def stopRecording (shared : SharedPipeline δ ω) : SharedPipeline δ ω :=
  match shared.owner, shared.pipeline.recording with
  | .free, some _ => { shared with owner := .detaching none }
  | _, _ => shared

/-- Start the recorder of a recording. -/
def launch
    (shared : SharedPipeline δ ω)
    (request : RecordingRequest ω) :
    SharedPipeline δ ω :=
  match (Recorder.create request.sink request.state request.started).start with
  | .error error => { shared with owner := .free, answer := .error error }
  | .ok worker =>
      { shared with
        pipeline :=
          { shared.pipeline with recording := some ⟨request.sink, worker, request.file, 0⟩ }
        owner := .attaching
        begun := shared.begun ++ [request] }

/-- Tell the recorder to refuse packets, if the owner still holds its thread. -/
def refuse
    (shared : SharedPipeline δ ω)
    (recording : Recording ω)
    (next : Option (RecordingRequest ω)) :
    SharedPipeline δ ω :=
  if recording.worker.hasThread then
    { shared with pipeline := shared.pipeline.onRecorder .refuse, owner := .stopping next }
  else
    { shared with owner := .joining next }

/-- Wait for the thread of the recorder, and take back what it has recorded. -/
def joinRecorder
    (shared : SharedPipeline δ ω)
    (recording : Recording ω)
    (next : Option (RecordingRequest ω)) :
    SharedPipeline δ ω :=
  if recording.worker.isOpen then
    shared
  else
    let (pipeline, finished) := shared.pipeline.collect recording
    { shared with
      pipeline := pipeline
      owner := .behind next
      returned := shared.returned ++ [finished] }

/-- The owner's next step in the call that it is in. -/
def proceed (shared : SharedPipeline δ ω) : SharedPipeline δ ω :=
  match shared.owner with
  | .free => shared
  | .launching request => shared.launch request
  | .attaching =>
      if shared.holders = [] then
        { shared with tap := some shared.current, owner := .free, answer := .ok () }
      else
        shared
  | .detaching next =>
      if shared.holders = [] then
        { shared with tap := none, owner := .refusing next }
      else
        shared
  | .refusing next =>
      match shared.pipeline.recording with
      | none => shared
      | some recording => shared.refuse recording next
  | .stopping next =>
      { shared with pipeline := shared.pipeline.onRecorder .sendStop, owner := .joining next }
  | .joining next =>
      match shared.pipeline.recording with
      | none => shared
      | some recording => shared.joinRecorder recording next

/-- The pipeline and those who share it after one step. -/
def perform
    (shared : SharedPipeline δ ω) :
    SharingStep ω → SharedPipeline δ ω
  | .look producer packet => shared.look producer packet
  | .handOver producer => shared.handOver producer
  | .check producer => shared.check producer
  | .forward producer => shared.forward producer
  | .startRecording request => shared.startRecording request
  | .stopRecording => shared.stopRecording
  | .proceed => shared.proceed
  | .consume part => { shared with pipeline := shared.pipeline.act part .consume }
  | .close part => { shared with pipeline := shared.pipeline.act part .close }

/-- The pipeline and those who share it after some steps. -/
def run
    (shared : SharedPipeline δ ω)
    (steps : List (SharingStep ω)) :
    SharedPipeline δ ω :=
  steps.foldl perform shared

theorem run_append
    (shared : SharedPipeline δ ω)
    (first second : List (SharingStep ω)) :
    shared.run (first ++ second) = (shared.run first).run second :=
  List.foldl_append

/-- What holds at first and survives every step holds after every run. -/
theorem run_induction
    {property : SharedPipeline δ ω → Prop}
    (preserved : ∀ shared step, property shared → property (shared.perform step))
    {shared : SharedPipeline δ ω}
    (initially : property shared)
    (steps : List (SharingStep ω)) :
    property (shared.run steps) := by
  induction steps generalizing shared with
  | nil => exact initially
  | cons step steps inductionHypothesis =>
      exact inductionHypothesis (preserved shared step initially)

/-! ## Undisturbed calls -/

/-- A packet that is handed over at once is enqueued as by a pipeline that nobody shares. -/
theorem record_found
    {shared : SharedPipeline δ ω}
    (leads : shared.tap.bind shared.recording? = shared.pipeline.recording)
    (packet : Packet) :
    (shared.record shared.found? packet).1 = shared.pipeline.tap packet := by
  unfold found?
  cases tap : shared.tap with
  | none =>
      rw [tap] at leads
      rw [Pipeline.tap_of_not_accepting]
      · rfl
      · intro recording engaged
        rw [← leads] at engaged
        cases engaged
  | some number =>
      rw [tap, Option.bind_some] at leads
      cases engaged : shared.pipeline.recording with
      | none =>
          rw [Pipeline.tap_of_not_accepting (by simp [engaged])]
          simp [record, isAccepting, leads, engaged]
      | some recording =>
          rw [engaged] at leads
          cases accepting : recording.worker.accepting with
          | false =>
              rw [Pipeline.tap_of_not_accepting (by simp [engaged, accepting])]
              simp [record, isAccepting, leads, accepting]
          | true =>
              rw [Pipeline.tap_of_accepting engaged accepting]
              simp [record, isAccepting, leads, accepting]

/-- Looking and handing over, with nothing between them, pass a packet through the tap. -/
theorem look_handOver
    {shared : SharedPipeline δ ω}
    {producer : Nat}
    {answer : Option Bool}
    (idle : (shared.pushers producer).stage = .idle answer)
    (leads : shared.tap.bind shared.recording? = shared.pipeline.recording)
    (packet : Packet) :
    ((shared.look producer packet).handOver producer).pipeline = shared.pipeline.tap packet ∧
      (((shared.look producer packet).handOver producer).pushers producer).stage =
        .released packet := by
  constructor
  · rw [← record_found leads packet]
    simp only [look, hold, idle, handOver, pass, setPusher, if_true]
    rfl
  · simp only [look, hold, idle, handOver, pass, setPusher, if_true]

/-- The last two steps of an undisturbed push are the forwarding of the whole pipeline. -/
theorem check_forward
    {shared : SharedPipeline δ ω}
    {producer : Nat}
    {packet : Packet}
    (released : (shared.pushers producer).stage = .released packet) :
    ((shared.check producer).forward producer).pipeline = (shared.pipeline.forward packet).1 ∧
      (((shared.check producer).forward producer).pushers producer).stage =
        .idle (some (shared.pipeline.forward packet).2) := by
  rw [Pipeline.forward_eq]
  cases accepting : shared.pipeline.accepts packet.kind <;>
    simp [check, forward, released, accepting, setPusher]

/-- A push that nobody disturbs does and answers what the push of a pipeline does. -/
theorem run_push
    {shared : SharedPipeline δ ω}
    {producer : Nat}
    {answer : Option Bool}
    (idle : (shared.pushers producer).stage = .idle answer)
    (leads : shared.tap.bind shared.recording? = shared.pipeline.recording)
    (packet : Packet) :
    let pushed := shared.run
      [.look producer packet, .handOver producer, .check producer, .forward producer]
    pushed.pipeline = (shared.pipeline.push packet).1 ∧
      (pushed.pushers producer).stage = .idle (some (shared.pipeline.push packet).2) := by
  obtain ⟨tapped, released⟩ := look_handOver idle leads packet
  have forwarded := check_forward released
  rw [tapped] at forwarded
  exact forwarded

/-- The thread of the recorder takes one message after another. -/
theorem run_consume
    (shared : SharedPipeline δ ω)
    (count : Nat) :
    shared.run (List.replicate count (.consume .recorder)) =
      { shared with
        pipeline := shared.pipeline.onRecorder fun worker => worker.consumeMany count } := by
  induction count generalizing shared with
  | zero =>
      obtain ⟨⟨navigation, video, recording?, displayRate, files, reports⟩, tap, holders, pushers,
        owner, answer, begun, returned, tapped⟩ := shared
      cases recording? <;> rfl
  | succ count inductionHypothesis =>
      have next := inductionHypothesis
        { shared with pipeline := shared.pipeline.onRecorder .consume }
      rw [Pipeline.onRecorder_onRecorder] at next
      exact next

/-- The steps with which the thread of a recorder comes to its end and is joined. -/
def joiningSteps (worker : Worker (RecordingStage ω)) : List (SharingStep ω) :=
  List.replicate worker.queue.length (.consume .recorder) ++ [.close .recorder, .proceed]

/-- A recorder that was stopped comes to its end and is collected. -/
theorem run_joiningSteps
    {shared : SharedPipeline δ ω}
    {recording : Recording ω}
    {next : Option (RecordingRequest ω)}
    (joining : shared.owner = .joining next)
    (engaged : shared.pipeline.recording = some recording)
    (closed : recording.worker.settle.isOpen = false) :
    let settled := { recording with worker := recording.worker.settle }
    shared.run (joiningSteps recording.worker) =
      { shared with
        pipeline := (shared.pipeline.collect settled).1
        owner := .behind next
        returned := shared.returned ++ [(shared.pipeline.collect settled).2] } := by
  rw [joiningSteps, run_append, run_consume, Pipeline.onRecorder_of_engaged engaged]
  change proceed
    { shared with
      pipeline :=
        { shared.pipeline with
          recording := some { recording with worker := recording.worker.settle } } } = _
  simp only [proceed, joining, joinRecorder, closed, Bool.false_eq_true, if_false]
  rfl

/-- The steps that end a recording which nobody disturbs, from the turn of the tap on. -/
def endingSteps (recording : Recording ω) : List (SharingStep ω) :=
  [.proceed, .proceed, .proceed] ++ joiningSteps recording.worker.stop

/-- The end of a recording which nobody disturbs is that of a pipeline that nobody shares. -/
theorem run_endingSteps
    {shared : SharedPipeline δ ω}
    {recording : Recording ω}
    {next : Option (RecordingRequest ω)}
    (detaching : shared.owner = .detaching next)
    (unheld : shared.holders = [])
    (engaged : shared.pipeline.recording = some recording)
    (held : recording.worker.hasThread = true) :
    shared.run (endingSteps recording) =
      { shared with
        pipeline := shared.pipeline.stopRecording.1
        tap := none
        owner := .behind next
        returned := shared.returned ++ [shared.pipeline.stopRecording.2] } := by
  have stopped : shared.run [.proceed, .proceed, .proceed] =
      { shared with
        pipeline := shared.pipeline.onRecorder .stop
        tap := none
        owner := .joining next } := by
    simp only [run, List.foldl_cons, List.foldl_nil, perform, proceed, detaching, unheld, if_true,
      engaged, refuse, held, Pipeline.onRecorder_onRecorder]
    rw [Pipeline.onRecorder_of_engaged engaged, Pipeline.onRecorder_of_engaged engaged,
      Worker.stop, if_pos held]
  rw [endingSteps, run_append, stopped, Pipeline.onRecorder_of_engaged engaged,
    Pipeline.stopRecording_eq engaged]
  exact @run_joiningSteps δ ω _ { recording with worker := recording.worker.stop } next rfl rfl
    (Worker.isOpen_settle_stop held)

/-- The beginning of a recording which nobody disturbs. -/
theorem run_launch
    {shared : SharedPipeline δ ω}
    {request : RecordingRequest ω}
    (launching : shared.owner = .launching request)
    (unheld : shared.holders = [])
    (vacant : shared.pipeline.recording = none) :
    let started := shared.run [.proceed, .proceed]
    started.owner = .free ∧
      (started.pipeline, started.answer) =
        shared.pipeline.attach request.sink request.state request.file request.started := by
  obtain ⟨worker, starts, -⟩ := @Worker.Serves.start _ (Recorder.handler request.sink)
    { output := .start request.state, started := request.started } Recorder.name
  change (Recorder.create request.sink request.state request.started).start = _ at starts
  simp [run, perform, proceed, launching, launch, starts, unheld, Pipeline.attach,
    Pipeline.reap, vacant]

/-- A stop that nobody disturbs does and hands back what the stop of a pipeline does. -/
theorem run_stopRecording
    {shared : SharedPipeline δ ω}
    {recording : Recording ω}
    (free : shared.owner = .free)
    (unheld : shared.holders = [])
    (engaged : shared.pipeline.recording = some recording)
    (held : recording.worker.hasThread = true) :
    shared.run (.stopRecording :: endingSteps recording) =
      { shared with
        pipeline := shared.pipeline.stopRecording.1
        tap := none
        owner := .free
        returned := shared.returned ++ [shared.pipeline.stopRecording.2] } := by
  have asked : shared.stopRecording = { shared with owner := .detaching none } := by
    simp only [stopRecording, free, engaged]
  change (shared.stopRecording).run (endingSteps recording) = _
  rw [asked]
  exact @run_endingSteps δ ω { shared with owner := .detaching none } recording none rfl unheld
    engaged held

/-- A start that nobody disturbs does and answers what the start of a pipeline does. -/
theorem exists_run_startRecording
    {shared : SharedPipeline δ ω}
    (free : shared.owner = .free)
    (unheld : shared.holders = [])
    (held : ∀ recording, shared.pipeline.recording = some recording →
      recording.worker.hasThread = true)
    (request : RecordingRequest ω) :
    ∃ steps, (shared.run (.startRecording request :: steps)).owner = .free ∧
      ((shared.run (.startRecording request :: steps)).pipeline,
          (shared.run (.startRecording request :: steps)).answer) =
        shared.pipeline.attach request.sink request.state request.file request.started := by
  cases engaged : shared.pipeline.recording with
  | none =>
      have asked : shared.startRecording request =
          { shared with owner := .launching request } := by
        simp only [startRecording, free, engaged]
      refine ⟨[.proceed, .proceed], ?_⟩
      change ((shared.startRecording request).run _).owner = _ ∧
        (((shared.startRecording request).run _).pipeline,
          ((shared.startRecording request).run _).answer) = _
      rw [asked]
      exact @run_launch δ ω { shared with owner := .launching request } request rfl unheld engaged
  | some recording =>
      cases alive : recording.isAlive with
      | true =>
          have asked : shared.startRecording request =
              { shared with
                answer := .error (.workerState Recorder.name "already recording") } := by
            simp only [startRecording, free, engaged, alive, if_true]
          refine ⟨[], ?_⟩
          change (shared.startRecording request).owner = _ ∧
            ((shared.startRecording request).pipeline,
              (shared.startRecording request).answer) = _
          rw [asked]
          simp [free, engaged, alive, Pipeline.attach, Pipeline.reap]
      | false =>
          have asked : shared.startRecording request =
              { shared with owner := .detaching (some request) } := by
            simp only [startRecording, free, engaged, alive, Bool.false_eq_true, if_false]
          refine ⟨endingSteps recording ++ [.proceed, .proceed], ?_⟩
          change ((shared.startRecording request).run _).owner = _ ∧
            (((shared.startRecording request).run _).pipeline,
              ((shared.startRecording request).run _).answer) = _
          rw [asked, run_append, @run_endingSteps δ ω
              { shared with owner := .detaching (some request) } recording (some request) rfl
              unheld engaged (held recording engaged),
            Pipeline.attach_of_dead engaged alive]
          exact run_launch rfl unheld shared.pipeline.recording_stopRecording

end SharedPipeline

end DroneSession
