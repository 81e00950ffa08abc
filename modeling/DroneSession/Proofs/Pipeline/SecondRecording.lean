import DroneSession.Proofs.Pipeline.Ending

namespace DroneSession

/-!
# Starting a second recording

While a recording is in progress another one is refused.  Into a sink it is refused before anything
is done.  Into a file it is refused too late: the file has been created or emptied by then, and
stays so.  Nothing else can tell that the call was made, neither then nor later; but if the file is
that of the recording in progress, what was written to it reads as zeros when the recording ends.
-/

namespace Files

/-! ## What files hold -/

/-- A file that is put has the new contents, and every other file its own. -/
theorem named?_put
    (files : Files)
    (name : String)
    (bytes : Bytes)
    (other : String) :
    (files.put name bytes).named? other =
      if other = name then some bytes else files.named? other := by
  by_cases same : other = name
  · simp [named?, put, same]
  · have different : (name == other) = false := by
      simpa using Ne.symm same
    have kept :
        (files.contents.filter fun entry => entry.1 != name).find?
            (fun entry => entry.1 == other) =
          files.contents.find? fun entry => entry.1 == other := by
      rw [List.find?_filter]
      congr 1
      funext entry
      by_cases found : entry.1 = other
      · simp [found, same]
      · simp [found]
    simp only [named?, put, List.find?_cons, different, kept, same, if_false]

/-- What a write leaves in one file depends on nothing but what that file held. -/
theorem named?_writeAt_congr
    {first second : Files}
    {other : String}
    (same : first.named? other = second.named? other)
    (name : String)
    (position : Nat)
    (bytes : Bytes) :
    (first.writeAt name position bytes).named? other =
      (second.writeAt name position bytes).named? other := by
  unfold writeAt
  by_cases nothing : bytes.isEmpty = true
  · rw [if_pos nothing, if_pos nothing, same]
  · rw [if_neg nothing, if_neg nothing, named?_put, named?_put]
    by_cases itself : other = name
    · subst itself
      rw [if_pos rfl, if_pos rfl, same]
    · rw [if_neg itself, if_neg itself, same]

/-- A write touches no other file. -/
theorem named?_writeAt_of_ne
    {name other : String}
    (different : other ≠ name)
    (files : Files)
    (position : Nat)
    (bytes : Bytes) :
    (files.writeAt name position bytes).named? other = files.named? other := by
  unfold writeAt
  split
  · rfl
  · rw [named?_put, if_neg different]

/-- Bytes that are written behind what a file holds are appended. -/
theorem named?_writeAt_end
    {files : Files}
    {name : String}
    {present : Bytes}
    (holds : files.named? name = some present)
    (bytes : Bytes) :
    (files.writeAt name present.length bytes).named? name = some (present ++ bytes) := by
  unfold writeAt
  cases bytes with
  | nil => simp [holds]
  | cons byte rest => simp [named?_put, holds]

/-- What is missing in front of a write to an empty file reads as zeros. -/
theorem named?_writeAt_of_emptied
    {files : Files}
    {name : String}
    (emptied : files.named? name = some [])
    (position : Nat)
    (bytes : Bytes) :
    (files.writeAt name position bytes).named? name =
      some (if bytes = [] then [] else List.replicate position 0 ++ bytes) := by
  unfold writeAt
  cases bytes with
  | nil => simp [emptied]
  | cons byte rest => simp [named?_put, emptied]

/-- A file that is created is empty, and no other file is touched. -/
theorem create_eq_ok
    {files created : Files}
    {path name : String}
    (creates : files.create path = .ok (created, name)) :
    created = files.put name [] := by
  unfold create at creates
  cases located : files.locate path with
  | error fault =>
      rw [located] at creates
      cases creates
  | ok place =>
      rw [located] at creates
      cases place with
      | directory => cases creates
      | entry way last closed =>
          simp only [bind, Except.bind] at creates
          split at creates
          · cases creates
          · split at creates
            · cases creates
            · cases creates
              rfl

/-- A path that leads to a file of its own name. -/
theorem create_simple
    (files : Files) :
    files.create "f.a" = .ok (files.put "f.a" [], "f.a") := by
  have components : ("f.a".toList.splitOn '/').map String.ofList = ["f.a"] := by
    decide +kernel
  have usable : "f.a".contains '\x00' = false := by
    rw [String.contains_char_eq]
    decide +kernel
  have short : "f.a".utf8ByteSize = 3 := by
    decide +kernel
  unfold create locate
  rw [components, usable, short]
  rfl

end Files

namespace Recording

variable {ω : Type}

/-- What has been recorded so far is in a file, to which the recording goes. -/
structure SavedIn
    (recording : Recording ω)
    (files : Files)
    (file : String) :
    Prop where
  toFile : recording.file = some file
  written : recording.written = recording.worker.state.output.received.length
  holds : files.named? file = some recording.worker.state.output.received

theorem savedIn_iff
    {recording : Recording ω}
    {files : Files}
    {file : String} :
    recording.SavedIn files file ↔
      recording.file = some file ∧
        recording.written = recording.worker.state.output.received.length ∧
        files.named? file = some recording.worker.state.output.received :=
  ⟨fun saved => ⟨saved.toFile, saved.written, saved.holds⟩,
    fun ⟨toFile, written, holds⟩ => ⟨toFile, written, holds⟩⟩

instance
    (recording : Recording ω)
    (files : Files)
    (file : String) :
    Decidable (recording.SavedIn files file) :=
  decidable_of_iff' _ savedIn_iff

/-- Saving a recording leaves the same in a file that held the same. -/
theorem named?_save_congr
    (recording : Recording ω)
    {first second : Files}
    {other : String}
    (same : first.named? other = second.named? other) :
    (recording.save first).2.named? other = (recording.save second).2.named? other := by
  unfold save
  cases recording.file with
  | none => exact same
  | some file => exact Files.named?_writeAt_congr same file _ _

/-- What a recording has left to save does not depend on the files. -/
theorem fst_save
    (recording : Recording ω)
    (first second : Files) :
    (recording.save first).1 = (recording.save second).1 := by
  unfold save
  cases recording.file <;> rfl

end Recording

namespace Pipeline

variable {δ ω : Type}

/-! ## Pipelines that differ in one file -/

/-- Two pipelines are the same, but for what one file holds. -/
structure SameBut
    (file : String)
    (first second : Pipeline δ ω) :
    Prop where
  navigation : first.navigation = second.navigation
  video : first.video = second.video
  recording : first.recording = second.recording
  displayRate : first.displayRate = second.displayRate
  reports : first.reports = second.reports
  files : ∀ other, other ≠ file → first.files.named? other = second.files.named? other

namespace SameBut

variable {file : String} {first second : Pipeline δ ω}

/-- Pipelines that differ in one file have everything else in common. -/
theorem exists_files
    (same : SameBut file first second) :
    ∃ files,
      second = { first with files := files } ∧
      ∀ other, other ≠ file → first.files.named? other = files.named? other := by
  obtain ⟨navigation, video, recording, displayRate, files, reports⟩ := first
  obtain ⟨_, _, _, _, others, _⟩ := second
  obtain ⟨rfl, rfl, rfl, rfl, rfl, apart⟩ := same
  exact ⟨others, rfl, apart⟩

/-- No packet and no thread gets to see a file. -/
theorem perform
    (same : SameBut file first second)
    (operation : PipelineOperation) :
    SameBut file (first.perform operation) (second.perform operation) := by
  obtain ⟨files, rfl, apart⟩ := same.exists_files
  cases operation with
  | push packet =>
      cases kind : packet.kind <;>
        simp only [Pipeline.perform, push, tap, forward, kind] <;>
        exact ⟨rfl, rfl, rfl, rfl, rfl, apart⟩
  | consume part | close part =>
      cases part <;> exact ⟨rfl, rfl, rfl, rfl, rfl, apart⟩

/-- A schedule keeps a difference to its file. -/
theorem run
    (same : SameBut file first second)
    (schedule : List PipelineOperation) :
    SameBut file (first.run schedule) (second.run schedule) := by
  induction schedule generalizing first second with
  | nil => exact same
  | cons operation schedule inductionHypothesis =>
      exact inductionHypothesis (same.perform operation)

/-- Letting the workers run keeps a difference to its file. -/
theorem settle
    (same : SameBut file first second) :
    SameBut file first.settle second.settle := by
  obtain ⟨files, rfl, apart⟩ := same.exists_files
  unfold Pipeline.settle
  cases first.recording with
  | none => exact ⟨rfl, rfl, rfl, rfl, rfl, apart⟩
  | some recording =>
      refine ⟨rfl, rfl, congrArg some (Recording.fst_save _ _ _), rfl, rfl, ?_⟩
      intro other different
      exact Recording.named?_save_congr _ (apart other different)

/-- The end of a recording hands back the same, whatever the file holds. -/
theorem stopRecording
    (same : SameBut file first second) :
    SameBut file first.stopRecording.1 second.stopRecording.1 ∧
      first.stopRecording.2 = second.stopRecording.2 := by
  obtain ⟨files, rfl, apart⟩ := same.exists_files
  unfold Pipeline.stopRecording
  cases attached : first.recording with
  | none => exact ⟨⟨rfl, rfl, attached, rfl, rfl, apart⟩, rfl⟩
  | some recording =>
      refine ⟨⟨rfl, rfl, rfl, rfl, ?_, ?_⟩, rfl⟩
      · exact congrArg (fun saved : Recording ω => first.reports ++ saved.worker.notifications)
          (Recording.fst_save _ _ _)
      · intro other different
        exact Recording.named?_save_congr _ (apart other different)

end SameBut

/-! ## The refusal -/

/-- How a second recording is refused. -/
def alreadyRecording : SessionError :=
  .workerState Recorder.name "already recording"

/-- A pipeline with one file more, or without what that file held. -/
def emptied
    (pipeline : Pipeline δ ω)
    (file : String) :
    Pipeline δ ω :=
  { pipeline with files := pipeline.files.put file [] }

section

variable {pipeline : Pipeline δ ω} {sink : Sink ω} {state : ω} {file? : Option String}
  {path file : String} {files : Files} {started : Instant}

/-- A recorder that runs is not reaped, and no other one is attached. -/
theorem attach_of_isRecording
    (live : pipeline.isRecording = true) :
    pipeline.attach sink state file? started = (pipeline, .error alreadyRecording) := by
  unfold isRecording at live
  cases attached : pipeline.recording with
  | none =>
      simp [attached] at live
  | some recording =>
      simp only [attached] at live
      simp [attach, reap, attached, live, alreadyRecording]

/-- A recording into a file that cannot be created fails for that reason. -/
theorem startRecordingFile_of_uncreatable
    {fault : StreamFault}
    (fails : pipeline.files.create (recordingPath path) = .error fault) :
    pipeline.startRecordingFile sink state path started =
      (pipeline, .error (.sinkFailure ("create " ++ recordingPath path) fault)) := by
  simp only [startRecordingFile, fails]

/-- The refusal comes when the file is already empty. -/
theorem startRecordingFile_of_isRecording
    (live : pipeline.isRecording = true)
    (creates : pipeline.files.create (recordingPath path) = .ok (files, file)) :
    pipeline.startRecordingFile sink state path started =
      (pipeline.emptied file, .error alreadyRecording) := by
  obtain rfl := Files.create_eq_ok creates
  have refused :
      (pipeline.emptied file).attach sink state (some file) started =
        (pipeline.emptied file, .error alreadyRecording) :=
    attach_of_isRecording live
  unfold emptied at refused ⊢
  simp only [startRecordingFile, creates, refused]

end

/-- Emptying a file changes no other file and nothing else. -/
theorem sameBut_emptied
    (pipeline : Pipeline δ ω)
    (file : String) :
    SameBut file pipeline (pipeline.emptied file) where
  navigation := rfl
  video := rfl
  recording := rfl
  displayRate := rfl
  reports := rfl
  files := by
    intro other different
    exact ((pipeline.files.named?_put file [] other).trans (if_neg different)).symm

/-- A file that was emptied is there and has no bytes. -/
theorem named?_emptied
    (pipeline : Pipeline δ ω)
    (file : String) :
    (pipeline.emptied file).files.named? file = some [] :=
  (pipeline.files.named?_put file [] file).trans (if_pos rfl)

/-! ## What the files hold in the end -/

/-- Nothing is written to a file before its recording ends. -/
theorem files_run
    (pipeline : Pipeline δ ω)
    (schedule : List PipelineOperation) :
    (pipeline.run schedule).files = pipeline.files := by
  induction schedule generalizing pipeline with
  | nil => rfl
  | cons operation schedule inductionHypothesis =>
      refine (inductionHypothesis (pipeline.perform operation)).trans ?_
      cases operation with
      | push packet =>
          cases kind : packet.kind <;> simp [perform, push, tap, forward, kind]
      | consume part | close part =>
          cases part <;> rfl

/-- The end of a recording writes to its file what was not written before. -/
theorem files_stopRecording
    {pipeline : Pipeline δ ω}
    {recording : Recording ω}
    (attached : pipeline.recording = some recording)
    {finished : FinishedRecording ω}
    (ends : pipeline.stopRecording.2 = some finished)
    {file : String}
    (toFile : recording.file = some file) :
    pipeline.stopRecording.1.files =
      pipeline.files.writeAt file recording.written
        (finished.output.received.drop recording.written) := by
  cases shutdown : recording.worker.shutdown with
  | mk ended stage? =>
      simp only [stopRecording, attached, shutdown] at ends ⊢
      obtain ⟨stage, rfl, rfl⟩ := Option.map_eq_some_iff.mp ends
      obtain ⟨-, rfl, rfl⟩ := Worker.exited_of_join shutdown
      simp only [Recording.save, toFile]

/-- The end of a recording leaves all files alone but the one that it goes to. -/
theorem named?_stopRecording_of_elsewhere
    {pipeline : Pipeline δ ω}
    {file : String}
    (elsewhere :
      ∀ recording, pipeline.recording = some recording → recording.file ≠ some file) :
    pipeline.stopRecording.1.files.named? file = pipeline.files.named? file := by
  unfold stopRecording
  cases attached : pipeline.recording with
  | none => rfl
  | some recording =>
      simp only [Recording.save]
      cases toFile : recording.file with
      | none => rfl
      | some own =>
          apply Files.named?_writeAt_of_ne
          rintro rfl
          exact elsewhere recording attached toFile

/-- Behind a schedule a recording still goes to its file, and nothing more is written to it yet. -/
theorem exists_recording_run
    {pipeline : Pipeline δ ω}
    {recording : Recording ω}
    (attached : pipeline.recording = some recording)
    (schedule : List PipelineOperation) :
    ∃ later,
      (pipeline.run schedule).recording = some later ∧
      later.file = recording.file ∧
      later.written = recording.written := by
  rw [recording_run, attached]
  exact ⟨_, rfl, rfl, rfl⟩

/-- A second recording is refused, but not without a trace. -/
structure RefusesSecond
    (pipeline : Pipeline δ ω)
    (sink : Sink ω)
    (state : ω)
    (started : Instant) :
    Prop where
  /-- A sink is refused, and nothing has changed. -/
  intoSink :
    pipeline.startRecording sink state started = (pipeline, .error alreadyRecording)
  /-- So is a file that cannot be created, but for that reason. -/
  uncreatable :
    ∀ {path fault},
      pipeline.files.create (recordingPath path) = .error fault →
      pipeline.startRecordingFile sink state path started =
        (pipeline, .error (.sinkFailure ("create " ++ recordingPath path) fault))
  /-- Any other file is empty when it is refused. -/
  creatable :
    ∀ {path files file},
      pipeline.files.create (recordingPath path) = .ok (files, file) →
      pipeline.startRecordingFile sink state path started =
        (pipeline.emptied file, .error alreadyRecording)
  /-- Nothing else has changed. -/
  rest :
    ∀ file,
      SameBut file pipeline (pipeline.emptied file) ∧
      (pipeline.emptied file).files.named? file = some []
  /-- No file at all has changed exactly if this one was there and empty before. -/
  unchanged :
    ∀ {file},
      (∀ other, (pipeline.emptied file).files.named? other = pipeline.files.named? other) ↔
        pipeline.files.named? file = some []
  /-- The recording in progress goes on and ends as if there had been no call. -/
  goesOn :
    ∀ file schedule,
      let undisturbed := pipeline.run schedule
      let disturbed := (pipeline.emptied file).run schedule
      SameBut file undisturbed.settle disturbed.settle ∧
      SameBut file undisturbed.stopRecording.1 disturbed.stopRecording.1 ∧
      undisturbed.stopRecording.2 = disturbed.stopRecording.2
  /-- A file that it does not go to stays empty. -/
  lost :
    ∀ {file},
      (∀ recording, pipeline.recording = some recording → recording.file ≠ some file) →
      ∀ schedule,
        ((pipeline.emptied file).run schedule).stopRecording.1.files.named? file = some []
  /-- Its own file gets what is recorded later, and zeros for what was recorded before. -/
  zeroed :
    ∀ {recording file},
      pipeline.recording = some recording →
      recording.SavedIn pipeline.files file →
      ∀ {schedule finished},
        (pipeline.run schedule).stopRecording.2 = some finished →
        let before := recording.worker.state.output.received
        let later := finished.output.received.drop before.length
        (pipeline.run schedule).stopRecording.1.files.named? file = some (before ++ later) ∧
        ((pipeline.emptied file).run schedule).stopRecording.1.files.named? file =
          some (if later = [] then [] else List.replicate before.length 0 ++ later)

/--
While a recording is in progress another one into a sink is refused without a trace, and one into a
file at the price of what the file held.
-/
theorem refuses_second_recording
    {pipeline : Pipeline δ ω}
    (live : pipeline.isRecording = true)
    (sink : Sink ω)
    (state : ω)
    (started : Instant) :
    pipeline.RefusesSecond sink state started where
  intoSink :=
    attach_of_isRecording live
  uncreatable :=
    startRecordingFile_of_uncreatable
  creatable :=
    startRecordingFile_of_isRecording live
  rest := by
    intro file
    exact ⟨pipeline.sameBut_emptied file, pipeline.named?_emptied file⟩
  unchanged := by
    intro file
    constructor
    · intro same
      exact (same file).symm.trans (pipeline.named?_emptied file)
    · intro empty other
      by_cases itself : other = file
      · subst itself
        exact (pipeline.named?_emptied other).trans empty.symm
      · exact ((pipeline.sameBut_emptied file).files other itself).symm
  goesOn := by
    intro file schedule
    have same := (pipeline.sameBut_emptied file).run schedule
    exact ⟨same.settle, same.stopRecording⟩
  lost := by
    intro file elsewhere schedule
    rw [named?_stopRecording_of_elsewhere, files_run, named?_emptied]
    intro later attachedLater toFile
    rw [recording_run] at attachedLater
    obtain ⟨recording, attached, rfl⟩ := Option.map_eq_some_iff.mp attachedLater
    exact elsewhere recording attached toFile
  zeroed := by
    intro recording file attached saved schedule finished ends
    obtain ⟨later, attachedLater, toFile, written⟩ := exists_recording_run attached schedule
    have disturbedEnds :
        ((pipeline.emptied file).run schedule).stopRecording.2 = some finished :=
      ((pipeline.sameBut_emptied file).run schedule).stopRecording.2.symm.trans ends
    have disturbedAttached : ((pipeline.emptied file).run schedule).recording = some later :=
      ((pipeline.sameBut_emptied file).run schedule).recording.symm.trans attachedLater
    rw [saved.toFile] at toFile
    rw [files_stopRecording attachedLater ends toFile,
      files_stopRecording disturbedAttached disturbedEnds toFile, files_run, files_run, written,
      saved.written]
    exact ⟨Files.named?_writeAt_end saved.holds _,
      Files.named?_writeAt_of_emptied (pipeline.named?_emptied file) _ _⟩

/-! ## Two pipelines whose owner tries -/

open SharedPipeline (runningPipeline)

/-- A pipeline that has recorded one packet into a file and now records into memory. -/
def resumed : Pipeline Unit Unit :=
  let begun := (runningPipeline.startRecordingFile .memory () "f.a" ⟨0⟩).1
  let ended := (begun.push ⟨.navigation, 0, ⟨0⟩, [1, 2]⟩).1.stopRecording.1
  (ended.startRecording .memory () ⟨0⟩).1

/-- A pipeline that records into a file and has written the header of a large entry to it. -/
def filling : Pipeline Unit Unit :=
  let begun := (runningPipeline.startRecordingFile .memory () "f.a" ⟨0⟩).1
  (begun.push ⟨.video, 0, ⟨0⟩, List.replicate 8180 9⟩).1.settle

/-- The path of the samples has an extension. -/
theorem recordingPath_of_extension : recordingPath "f.a" = "f.a" := by
  decide +kernel

/-- It has written to the file that the refused call empties. -/
theorem filling_refuses_second :
    filling.isRecording = true ∧
    filling.RefusesSecond .memory () ⟨0⟩ ∧
    ∃ recording,
      filling.recording = some recording ∧
      recording.SavedIn filling.files "f.a" ∧
      recording.worker.state.output.received.length = 13 := by
  have live : filling.isRecording = true := by
    simp only [filling, startRecordingFile, recordingPath_of_extension, Files.create_simple]
    decide +kernel
  have saved :
      filling.recording.any
        (fun recording =>
          decide (recording.SavedIn filling.files "f.a") &&
            decide (recording.worker.state.output.received.length = 13)) = true := by
    simp only [filling, startRecordingFile, recordingPath_of_extension, Files.create_simple]
    decide +kernel
  obtain ⟨recording, attached, found⟩ := (Option.any_eq_true _ _).mp saved
  obtain ⟨inFile, length⟩ := Bool.and_eq_true_iff.mp found
  exact ⟨live, refuses_second_recording live .memory () ⟨0⟩, recording, attached,
    of_decide_eq_true inFile, of_decide_eq_true length⟩

/-- The file of an earlier recording is lost with the refusal. -/
theorem refusal_empties_file :
    start { Settings.standard with resyncOnKeyframe := false } blackout () =
      .ok runningPipeline ∧
    resumed.isRecording = true ∧
    (resumed.startRecordingFile .memory () "f.a" ⟨0⟩).2 = .error alreadyRecording ∧
    resumed.files.named? "f.a" =
      some [1, 0, 0, 0, 0, 0, 0, 0, 0, 2, 0, 0, 0, 1, 2] ∧
    (resumed.startRecordingFile .memory () "f.a" ⟨0⟩).1.files.named? "f.a" = some [] := by
  have validRate : Playback.isValidRate 1.0 = true := by
    decide +kernel
  have valid : { Settings.standard with resyncOnKeyframe := false }.validate = .ok () := by
    simp [Settings.validate, Settings.standard, validRate]
  refine ⟨?_, ?_, ?_, ?_, ?_⟩
  · rw [start, valid]
    rfl
  all_goals
    simp only [resumed, startRecordingFile, recordingPath_of_extension, Files.create_simple]
    decide +kernel

end Pipeline

end DroneSession
