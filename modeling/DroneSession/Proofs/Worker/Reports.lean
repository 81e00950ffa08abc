import DroneSession.Proofs.Worker.Delivery

namespace DroneSession

/-!
# What a worker reports

A worker reports what the outcomes of its handler call for, in the order of the packets that the
handler was given, and nothing else.  A packet that makes the handler fail fatally is the last that
it is given, and then the end of the handler is not reported any more.
-/

namespace Handler

variable {σ : Type}

/-- What a worker reports of some packets that its handler is given one after another. -/
def reportsOf
    (handler : Handler σ)
    (name : String)
    (state : σ) :
    List Packet → List Notification
  | [] => []
  | packet :: packets =>
      (handler.handle state packet).2.reports name ++
        handler.reportsOf name (handler.handle state packet).1 packets

theorem reportsOf_concat
    (handler : Handler σ)
    (name : String)
    (state : σ)
    (packets : List Packet)
    (packet : Packet) :
    handler.reportsOf name state (packets ++ [packet]) =
      handler.reportsOf name state packets ++
        (handler.handle (handler.handleAll state packets) packet).2.reports name := by
  induction packets generalizing state with
  | nil => simp [reportsOf, handleAll]
  | cons first packets inductionHypothesis =>
      rw [List.cons_append, reportsOf, reportsOf, inductionHypothesis, List.append_assoc]
      rfl

/-- Where the thread ends up when the handler finishes. -/
def lastStage
    (handler : Handler σ)
    (state : σ) :
    ThreadStage :=
  if (handler.finish state).2.isPanic then .lost else .exited

/-- At its last stage a thread has closed its queue. -/
theorem lastStage_closed
    (handler : Handler σ)
    (state : σ) :
    handler.lastStage state = .exited ∨ handler.lastStage state = .lost := by
  unfold lastStage
  cases (handler.finish state).2.isPanic with
  | true => exact .inr rfl
  | false => exact .inl rfl

theorem not_faults_nil
    (handler : Handler σ)
    (state : σ) :
    ¬ handler.Faults state [] := by
  rintro ⟨earlier, packet, first, -⟩
  exact absurd (List.prefix_nil.mp first) (by simp)

theorem faults_concat_iff
    {handler : Handler σ}
    {state : σ}
    {packets : List Packet}
    {packet : Packet} :
    handler.Faults state (packets ++ [packet]) ↔
      handler.Faults state packets ∨
        (handler.handle (handler.handleAll state packets) packet).2.isFatal = true := by
  constructor
  · rintro ⟨earlier, last, first, fatal⟩
    rcases List.prefix_concat_iff.mp first with same | inside
    · obtain ⟨rfl, lastSame⟩ := List.append_inj' same rfl
      obtain rfl := List.singleton_inj.mp lastSame
      exact .inr fatal
    · exact .inl ⟨earlier, last, inside, fatal⟩
  · rintro (⟨earlier, last, first, fatal⟩ | fatal)
    · exact ⟨earlier, last, first.trans (List.prefix_append _ _), fatal⟩
    · exact ⟨packets, packet, List.prefix_rfl, fatal⟩

/-- Some packets of which the last is the first that makes the handler fail fatally. -/
def HaltsAt
    (handler : Handler σ)
    (state : σ)
    (earlier : List Packet)
    (packet : Packet) :
    Prop :=
  ¬ handler.Faults state earlier ∧
    (handler.handle (handler.handleAll state earlier) packet).2.isFatal = true

/-- No more than one packet is the first that makes the handler fail fatally. -/
theorem HaltsAt.prefix_of_not_faults
    {handler : Handler σ}
    {state : σ}
    {earlier : List Packet}
    {packet : Packet}
    (halts : handler.HaltsAt state earlier packet)
    {packets : List Packet}
    (sound : ¬ handler.Faults state packets)
    {sent : List Packet}
    (first : earlier ++ [packet] <+: sent)
    (within : packets <+: sent) :
    packets <+: earlier := by
  rcases List.prefix_or_prefix_of_prefix first within with inside | inside
  · exact absurd ⟨earlier, packet, inside, halts.2⟩ sound
  · rcases List.prefix_concat_iff.mp inside with rfl | shorter
    · exact absurd (faults_concat_iff.mpr (.inr halts.2)) sound
    · exact shorter

end Handler

namespace Traffic

variable {σ : Type} {name : String} {handler : Handler σ} {initial : σ}

/-- What a worker that has handed over some packets has reported at each stage of its thread. -/
inductive Reported
    (name : String)
    (handler : Handler σ)
    (initial : σ)
    (handled : List Packet) :
    ThreadStage → List Notification → Prop where
  /-- Nothing fatal has happened, and the handler has not finished. -/
  | sound
      (stage : ThreadStage)
      (inside : stage = .fresh ∨ stage = .running ∨ stage = .closing false)
      (faultless : ¬ handler.Faults initial handled) :
      Reported name handler initial handled stage (handler.reportsOf name initial handled)
  /-- The last packet has ended the loop; nothing that happens later is reported. -/
  | halted
      (stage : ThreadStage)
      (left : stage = .closing true ∨
        stage = handler.lastStage (handler.handleAll initial handled))
      (earlier : List Packet)
      (packet : Packet)
      (parts : handled = earlier ++ [packet])
      (halts : handler.HaltsAt initial earlier packet) :
      Reported name handler initial handled stage (handler.reportsOf name initial handled)
  /-- Nothing fatal has happened before the handler finished. -/
  | finished
      (stage : ThreadStage)
      (closed : stage = handler.lastStage (handler.handleAll initial handled))
      (faultless : ¬ handler.Faults initial handled) :
      Reported name handler initial handled stage
        (handler.reportsOf name initial handled ++
          (handler.finish (handler.handleAll initial handled)).2.finalReports name false)

/-- Before the handler finishes, a thread that no packet has ended has reported all outcomes. -/
theorem Reported.of_inside
    {handled : List Packet}
    {stage : ThreadStage}
    {notifications : List Notification}
    (reported : Reported name handler initial handled stage notifications)
    (inside : stage = .fresh ∨ stage = .running ∨ stage = .closing false) :
    ¬ handler.Faults initial handled ∧
      notifications = handler.reportsOf name initial handled := by
  have closed := handler.lastStage_closed (handler.handleAll initial handled)
  cases reported with
  | sound inside faultless => exact ⟨faultless, rfl⟩
  | halted left =>
      exfalso
      rcases left with rfl | rfl
      · simp at inside
      · rcases closed with closed | closed <;> simp [closed] at inside
  | finished last =>
      exfalso
      rw [last] at inside
      rcases closed with closed | closed <;> simp [closed] at inside

/-- A thread that has failed and not closed yet has just handed over the packet that halts it. -/
theorem Reported.of_halted
    {handled : List Packet}
    {notifications : List Notification}
    {stage : ThreadStage}
    (reported : Reported name handler initial handled stage notifications)
    (left : stage = .closing true) :
    ∃ earlier packet, handled = earlier ++ [packet] ∧ handler.HaltsAt initial earlier packet ∧
      notifications = handler.reportsOf name initial handled := by
  have closed := handler.lastStage_closed (handler.handleAll initial handled)
  cases reported with
  | sound inside => simp [left] at inside
  | halted left earlier packet parts halts => exact ⟨earlier, packet, parts, halts, rfl⟩
  | finished last =>
      exfalso
      rw [left] at last
      rcases closed with closed | closed <;> simp [closed] at last

/-- Either no packet has made the handler fail fatally, or the last and no other has. -/
theorem Reported.faultless_or_halted
    {handled : List Packet}
    {stage : ThreadStage}
    {notifications : List Notification}
    (reported : Reported name handler initial handled stage notifications) :
    ¬ handler.Faults initial handled ∨
      ∃ earlier packet, handled = earlier ++ [packet] ∧ handler.HaltsAt initial earlier packet := by
  cases reported with
  | sound inside faultless => exact .inl faultless
  | halted left earlier packet parts halts => exact .inr ⟨earlier, packet, parts, halts⟩
  | finished closed faultless => exact .inl faultless

/-- A worker that has reported what its handler's outcomes call for. -/
structure Accounts
    (name : String)
    (handler : Handler σ)
    (initial : σ)
    (traffic : Traffic σ) :
    Prop where
  known : traffic.worker.name = name
  reported : Reported name handler initial traffic.handled
    traffic.worker.stage traffic.worker.notifications

theorem accounts_fresh
    (name : String)
    (handler : Handler σ)
    (initial : σ) :
    (fresh name handler initial).Accounts name handler initial :=
  ⟨rfl, .sound .fresh (.inl rfl) (handler.not_faults_nil initial)⟩

/-- Steps of producers and of those who stop or join the worker report nothing. -/
theorem silent_perform
    (traffic : Traffic σ)
    {step : TrafficStep}
    (other : step ≠ .start ∧ step ≠ .consume ∧ step ≠ .close) :
    (traffic.perform step).worker.name = traffic.worker.name ∧
      (traffic.perform step).worker.stage = traffic.worker.stage ∧
      (traffic.perform step).worker.notifications = traffic.worker.notifications ∧
      (traffic.perform step).handled = traffic.handled := by
  by_cases stops : step = .beginStop
  · subst stops
    rw [perform, beginStop]
    split <;> exact ⟨rfl, rfl, rfl, rfl⟩
  · have kept := traffic.undisturbed_perform ⟨other.1, stops, other.2⟩
    exact ⟨kept.name, kept.stage, kept.notifications, kept.handled⟩

/-- A packet that the thread hands over adds what its outcome calls for. -/
theorem Accounts.hand_over
    {traffic : Traffic σ}
    (carries : traffic.Carries handler initial)
    (accounts : traffic.Accounts name handler initial)
    {packet : Packet}
    {others : List Message}
    (running : traffic.worker.stage = .running)
    (front : traffic.worker.queue = .packet packet :: others) :
    Reported name handler initial (traffic.handled ++ [packet])
      traffic.worker.consume.stage traffic.worker.consume.notifications := by
  obtain ⟨known, reported⟩ := accounts
  have state : traffic.worker.state = handler.handleAll initial traffic.handled :=
    carries.open_state (by rw [Worker.isOpen, running])
  have reports := handler.reportsOf_concat name initial traffic.handled packet
  obtain ⟨faultless, before⟩ := reported.of_inside (.inr (.inl running))
  cases fatal : (traffic.worker.handler.handle traffic.worker.state packet).2.isFatal with
  | true =>
      rw [Worker.consume_of_fatal running front fatal]
      dsimp only
      rw [carries.work, state] at fatal
      rw [before, carries.work, state, known, ← reports]
      exact .halted _ (.inl rfl) traffic.handled packet rfl ⟨faultless, fatal⟩
  | false =>
      rw [Worker.consume_of_not_fatal running front fatal]
      dsimp only
      rw [carries.work, state] at fatal
      rw [before, carries.work, state, known, running, ← reports]
      refine .sound _ (.inr (.inl rfl)) ?_
      rw [Handler.faults_concat_iff, fatal]
      simpa using faultless

/-- Taking a message reports exactly what its outcome calls for. -/
theorem Accounts.consume
    {traffic : Traffic σ}
    (carries : traffic.Carries handler initial)
    (accounts : traffic.Accounts name handler initial) :
    (traffic.perform .consume).Accounts name handler initial := by
  have sameName : traffic.worker.consume.name = name := by
    have taken := traffic.worker.consumeCase
    generalize traffic.worker.consume = next at taken ⊢
    cases taken with
    | packet packet others running front =>
        rw [Worker.process_eq]
        exact accounts.known
    | stop others running front => exact accounts.known
    | nothing idle => exact accounts.known
  refine ⟨sameName, ?_⟩
  change Reported name handler initial (traffic.handled ++ traffic.worker.nextPacket?.toList)
    traffic.worker.consume.stage traffic.worker.consume.notifications
  by_cases running : traffic.worker.stage = .running
  · match front : traffic.worker.queue with
    | [] =>
        have none : traffic.worker.nextPacket? = none := by
          simp only [Worker.nextPacket?, running, front]
        have still : traffic.worker.consume = traffic.worker := by
          simp only [Worker.consume, running, front]
        rw [none, still, Option.toList_none, List.append_nil]
        exact accounts.reported
    | .packet packet :: others =>
        have next : traffic.worker.nextPacket? = some packet := by
          simp only [Worker.nextPacket?, running, front]
        rw [next]
        exact accounts.hand_over carries running front
    | .stop :: others =>
        have none : traffic.worker.nextPacket? = none := by
          simp only [Worker.nextPacket?, running, front]
        have stopped : traffic.worker.consume =
            { traffic.worker with queue := others, stage := .closing false } := by
          simp only [Worker.consume, running, front]
        rw [none, stopped, Option.toList_none, List.append_nil]
        obtain ⟨faultless, before⟩ := accounts.reported.of_inside (.inr (.inl running))
        dsimp only
        rw [before]
        exact .sound _ (.inr (.inr rfl)) faultless
  · have none : traffic.worker.nextPacket? = none := by
      unfold Worker.nextPacket?
      split
      · rename_i packet others isRunning front
        exact absurd isRunning running
      · rfl
    rw [none, Worker.consume_of_not_running running, Option.toList_none, List.append_nil]
    exact accounts.reported

/-- The end of the handler is reported exactly if nothing fatal was. -/
theorem Accounts.close
    {traffic : Traffic σ}
    (carries : traffic.Carries handler initial)
    (accounts : traffic.Accounts name handler initial)
    {faulted : Bool}
    (closing : traffic.worker.stage = .closing faulted) :
    Reported name handler initial traffic.handled
      traffic.worker.close.stage traffic.worker.close.notifications := by
  obtain ⟨known, reported⟩ := accounts
  have state : traffic.worker.state = handler.handleAll initial traffic.handled :=
    carries.open_state (by rw [Worker.isOpen, closing])
  have closed : traffic.worker.close.stage =
      handler.lastStage (handler.handleAll initial traffic.handled) := by
    rw [Worker.close_eq closing, Handler.lastStage, ← state, ← carries.work]
  have notifications : traffic.worker.close.notifications =
      traffic.worker.notifications ++
        (handler.finish (handler.handleAll initial traffic.handled)).2.finalReports
          name faulted := by
    rw [Worker.close_eq closing]
    dsimp only
    rw [carries.work, state, known]
  rw [notifications]
  cases faulted with
  | false =>
      obtain ⟨faultless, before⟩ := reported.of_inside (.inr (.inr closing))
      rw [before]
      exact .finished _ closed faultless
  | true =>
      obtain ⟨earlier, packet, parts, halts, before⟩ := reported.of_halted closing
      have silent : (handler.finish
          (handler.handleAll initial traffic.handled)).2.finalReports name true = [] := by
        cases (handler.finish (handler.handleAll initial traffic.handled)).2 <;> rfl
      rw [before, silent, List.append_nil]
      exact .halted _ (.inr closed) earlier packet parts halts

/-- No step reports more or less than the outcomes call for. -/
theorem Accounts.perform
    {traffic : Traffic σ}
    (carries : traffic.Carries handler initial)
    (accounts : traffic.Accounts name handler initial)
    (step : TrafficStep) :
    (traffic.perform step).Accounts name handler initial := by
  by_cases other : step ≠ .start ∧ step ≠ .consume ∧ step ≠ .close
  · obtain ⟨sameName, sameStage, sameNotifications, sameHandled⟩ := traffic.silent_perform other
    refine ⟨sameName.trans accounts.known, ?_⟩
    rw [sameStage, sameNotifications, sameHandled]
    exact accounts.reported
  · cases step with
    | start =>
        rw [Traffic.perform, Worker.start]
        by_cases new : traffic.worker.stage = .fresh
        · rw [if_pos new]
          obtain ⟨faultless, before⟩ := accounts.reported.of_inside (.inl new)
          refine ⟨accounts.known, ?_⟩
          dsimp only
          rw [before]
          exact .sound _ (.inr (.inl rfl)) faultless
        · rw [if_neg new]
          exact accounts
    | consume => exact accounts.consume carries
    | close =>
        rw [Traffic.perform]
        by_cases closing : ∃ faulted, traffic.worker.stage = .closing faulted
        · obtain ⟨faulted, closing⟩ := closing
          refine ⟨?_, accounts.close carries closing⟩
          rw [Worker.close_eq closing]
          exact accounts.known
        · rw [Worker.close_of_not_closing (not_exists.mp closing)]
          exact accounts
    | read producer packet => simp at other
    | send producer => simp at other
    | beginStop => simp at other
    | finishStop => simp at other
    | join => simp at other

/-- However many steps follow, the account of what was reported stays right. -/
theorem Accounts.run
    {traffic : Traffic σ}
    (carries : traffic.Carries handler initial)
    (accounts : traffic.Accounts name handler initial)
    (steps : List TrafficStep) :
    (traffic.run steps).Accounts name handler initial := by
  induction steps generalizing traffic with
  | nil => exact accounts
  | cons step steps inductionHypothesis =>
      exact inductionHypothesis (carries.perform step) (accounts.perform carries step)

/-- Whatever the order of steps, a worker reports what its handler's outcomes call for. -/
theorem accounts_run
    (name : String)
    (handler : Handler σ)
    (initial : σ)
    (steps : List TrafficStep) :
    ((fresh name handler initial).run steps).Accounts name handler initial :=
  Accounts.run (carries_fresh name handler initial) (accounts_fresh name handler initial) steps

end Traffic

end DroneSession
