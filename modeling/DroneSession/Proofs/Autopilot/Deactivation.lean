import DroneSession.Proofs.Autopilot.Flight

namespace DroneSession

/-!
# Deactivating while the loop runs

A caller that deactivates clears the active flag and then sends a hover command.  The loop, the link
and other callers go on between these two steps and behind them.  A command that a tick wanted
before the flag was cleared is outstanding until the loop sends it.  If that is behind the hover
command, the drone flies the outstanding command and no later tick replaces it.  The main result
says that the drone hovers in every other order.
-/

/-- A step of the loop, of the link or of a caller who does not activate the autopilot. -/
inductive DeckMove where
  | snapshot
  | tick (now : Instant)
  | callNext
  /-- The link receives a record or changes how it answers actions. -/
  | observe
      (record : Option NavigationRecord)
      (actionFault : Option StreamFault)
  | enqueue (objective : Objective)
  | loadMission (mission : Mission)
  | clear

/-- The flight command of a call. -/
def ClientCall.command? : ClientCall → Option FlightCommand
  | .command content => some content
  | .action _ => none

/-- The last flight command that the loop has yet to send to the bound client in its iteration. -/
def LoopStage.outstanding? : LoopStage → Option FlightCommand
  | .calling .bound calls => (calls.filterMap ClientCall.command?).getLast?
  | _ => none

/-- The last command of a client is the last of its calls that is one. -/
theorem Client.lastCommand?_eq (client : Client) :
    client.lastCommand? = (client.calls.filterMap ClientCall.command?).getLast? :=
  rfl

namespace FlightDeck

/-- The deck after one move. -/
def move
    (deck : FlightDeck) :
    DeckMove → FlightDeck
  | .snapshot => deck.snapshot
  | .tick now => deck.tick now
  | .callNext => deck.callNext
  | .observe record actionFault => deck.observe record actionFault
  | .enqueue objective => deck.perform (.enqueue objective)
  | .loadMission mission => deck.perform (.loadMission mission)
  | .clear => deck.perform .clear

/-- The deck after some moves. -/
def moves
    (deck : FlightDeck)
    (steps : List DeckMove) :
    FlightDeck :=
  steps.foldl move deck

theorem moves_append
    (deck : FlightDeck)
    (first second : List DeckMove) :
    deck.moves (first ++ second) = (deck.moves first).moves second :=
  List.foldl_append

/-- The deck when a call that deactivates returns, with moves of others between its two steps. -/
def deactivated
    (deck : FlightDeck)
    (between : List DeckMove) :
    FlightDeck :=
  ((deck.withAutopilot fun autopilot => autopilot.setActive false).moves between).hoverClient

/-- Without moves between its steps, a call that deactivates is undisturbed. -/
theorem setActive_eq_deactivated (deck : FlightDeck) :
    deck.setActive false = deck.deactivated [] :=
  rfl

/-- A client is bound that takes every command. -/
def TakesCommands (deck : FlightDeck) : Prop :=
  ∃ client, deck.client = some client ∧ client.commandFault = none

/-- The autopilot is idle, and the bound client takes every command. -/
structure Idle (deck : FlightDeck) : Prop where
  inactive : deck.autopilot.active = false
  takesCommands : deck.TakesCommands

/-- The last command that the client was sent when the iteration in flight is over. -/
def settledCommand? (deck : FlightDeck) : Option FlightCommand :=
  deck.stage.outstanding?.or deck.lastCommand?

/--
What a move does while the autopilot is idle: it wants nothing, and what is outstanding stays.
-/
structure Calms (deck next : FlightDeck) : Prop where
  idle : next.Idle
  settled : next.settledCommand? = deck.settledCommand?
  outstanding : ∀ command, next.stage.outstanding? = some command →
    deck.stage.outstanding? = some command

/-- A move that neither touches the iteration in flight nor sends a command is calm. -/
theorem Calms.of_same_stage
    {deck next : FlightDeck}
    (idle : next.Idle)
    (stage : next.stage = deck.stage)
    (last : next.lastCommand? = deck.lastCommand?) :
    Calms deck next where
  idle := idle
  settled := by
    rw [settledCommand?, settledCommand?, stage, last]
  outstanding := by
    intro command outstanding
    rwa [stage] at outstanding

/-- A move is calm if nothing is outstanding before or behind it and no command is sent. -/
theorem Calms.of_nothing_outstanding
    {deck next : FlightDeck}
    (idle : next.Idle)
    (before : deck.stage.outstanding? = none)
    (after : next.stage.outstanding? = none)
    (last : next.lastCommand? = deck.lastCommand?) :
    Calms deck next where
  idle := idle
  settled := by
    rw [settledCommand?, settledCommand?, before, after, last]
  outstanding := by
    intro command outstanding
    rw [after] at outstanding
    cases outstanding

/-- A calm move makes nothing outstanding. -/
theorem Calms.nothing_outstanding
    {deck next : FlightDeck}
    (calm : Calms deck next)
    (before : deck.stage.outstanding? = none) :
    next.stage.outstanding? = none := by
  refine Option.eq_none_iff_forall_ne_some.mpr ?_
  intro command outstanding
  have earlier := calm.outstanding command outstanding
  rw [before] at earlier
  cases earlier

/-- An idle autopilot wants nothing. -/
theorem calms_tick
    {deck : FlightDeck}
    (idle : deck.Idle)
    (now : Instant) :
    Calms deck (deck.tick now) := by
  rw [tick]
  split
  · rename_i held snapshotted
    have quiet : ∀ record,
        deck.autopilot.tick now record = (deck.autopilot, TickOutput.quiet) := by
      intro record
      rw [Autopilot.tick, idle.inactive]
      rfl
    simp only [quiet]
    refine .of_nothing_outstanding ⟨idle.inactive, idle.takesCommands⟩ ?_ ?_ rfl
    · rw [snapshotted]
      rfl
    · rcases held with _ | (_ | client) <;> rfl
  · exact .of_same_stage idle rfl rfl

/-- The loop makes its next call, which a client that takes every command does not turn down. -/
theorem callNext_of_call
    {deck : FlightDeck}
    {client : Client}
    {call : ClientCall}
    {others : List ClientCall}
    (calling : deck.stage = .calling .bound (call :: others))
    (bound : deck.client = some client)
    (takes : client.commandFault = none) :
    deck.callNext =
      { deck with
        client := some { client with calls := client.calls ++ [call] }
        stage := .calling .bound others } := by
  cases call with
  | action action =>
      cases fault : client.actionFault <;>
        simp [callNext, calling, callHeld, FlightDeck.call, bound, Client.call, takes, fault]
  | command command =>
      simp [callNext, calling, callHeld, FlightDeck.call, bound, Client.call, takes]

/-- The loop sends what is outstanding, which is then the last command. -/
theorem calms_callNext
    {deck : FlightDeck}
    (idle : deck.Idle) :
    Calms deck deck.callNext := by
  obtain ⟨client, bound, takes⟩ := idle.takesCommands
  cases stage : deck.stage with
  | waiting =>
      rw [callNext, stage]
      exact .of_same_stage idle rfl rfl
  | snapshotted held =>
      rw [callNext, stage]
      exact .of_same_stage idle rfl rfl
  | calling held calls =>
      cases calls with
      | nil =>
          have ended : deck.callNext = { deck with stage := .waiting } := by
            rw [callNext, stage]
          have nothing : deck.stage.outstanding? = none := by
            rw [stage]
            cases held <;> rfl
          rw [ended]
          exact .of_nothing_outstanding ⟨idle.inactive, idle.takesCommands⟩ nothing rfl rfl
      | cons call others =>
          cases held with
          | former client =>
              obtain ⟨former, more, called⟩ := exists_callNext_of_former stage
              have nothing : deck.stage.outstanding? = none := by
                rw [stage]
                rfl
              rw [called]
              exact .of_nothing_outstanding ⟨idle.inactive, idle.takesCommands⟩ nothing rfl rfl
          | bound =>
              rw [callNext_of_call stage bound takes]
              have before : deck.stage.outstanding? =
                  (others.filterMap ClientCall.command?).getLast?.or
                    ([call].filterMap ClientCall.command?).getLast? := by
                rw [stage, LoopStage.outstanding?, ← List.getLast?_append, ← List.filterMap_append]
                rfl
              constructor
              · exact ⟨idle.inactive, _, rfl, takes⟩
              · rw [settledCommand?, settledCommand?, before, lastCommand?, lastCommand?, bound,
                  Option.or_assoc]
                simp only [Option.bind_some, Client.lastCommand?_eq, List.filterMap_append,
                  List.getLast?_append]
                rfl
              · intro command outstanding
                rw [before, show (others.filterMap ClientCall.command?).getLast? = some command from
                  outstanding]
                rfl

/-- Every move of an idle deck is calm. -/
theorem Idle.calms
    {deck : FlightDeck}
    (idle : deck.Idle)
    (step : DeckMove) :
    Calms deck (deck.move step) := by
  cases step with
  | snapshot =>
      rw [move, snapshot]
      split
      · rename_i waiting
        refine .of_nothing_outstanding ⟨idle.inactive, idle.takesCommands⟩ ?_ rfl rfl
        rw [waiting]
        rfl
      · exact .of_same_stage idle rfl rfl
  | tick now => exact calms_tick idle now
  | callNext => exact calms_callNext idle
  | observe record actionFault =>
      obtain ⟨client, bound, takes⟩ := idle.takesCommands
      refine .of_same_stage ⟨idle.inactive, ?_⟩ rfl ?_
      · exact ⟨{ client with record := record, actionFault := actionFault },
          by rw [move, observe, bound]; rfl, takes⟩
      · simp only [move, observe, lastCommand?, bound]
        rfl
  | enqueue objective =>
      exact .of_same_stage ⟨idle.inactive, idle.takesCommands⟩ rfl rfl
  | loadMission mission =>
      rw [move, perform_loadMission]
      split
      · simp only [withAutopilot, Autopilot.enqueueAll_eq]
        exact .of_same_stage ⟨idle.inactive, idle.takesCommands⟩ rfl rfl
      · exact .of_same_stage idle rfl rfl
  | clear =>
      exact .of_same_stage ⟨idle.inactive, idle.takesCommands⟩ rfl rfl

/-- However many moves follow, an idle deck stays calm. -/
theorem Idle.calms_moves
    {deck : FlightDeck}
    (idle : deck.Idle)
    (steps : List DeckMove) :
    Calms deck (deck.moves steps) := by
  induction steps generalizing deck with
  | nil => exact .of_same_stage idle rfl rfl
  | cons step steps inductionHypothesis =>
      have first := idle.calms step
      have rest := inductionHypothesis first.idle
      exact
        { idle := rest.idle
          settled := rest.settled.trans first.settled
          outstanding := fun command outstanding =>
            first.outstanding command (rest.outstanding command outstanding) }

/-- The hover command of a caller becomes the last command, and leaves the iteration as it is. -/
theorem Idle.hoverClient
    {deck : FlightDeck}
    (idle : deck.Idle) :
    deck.hoverClient.Idle ∧
      deck.hoverClient.stage = deck.stage ∧
      deck.hoverClient.lastCommand? = some .hover := by
  obtain ⟨client, bound, takes⟩ := idle.takesCommands
  have sent : deck.hoverClient =
      { deck with
        client := some { client with calls := client.calls ++ [.command .hover] } } := by
    simp [FlightDeck.hoverClient, call, bound, Client.call, takes]
  rw [sent]
  refine ⟨⟨idle.inactive, _, rfl, takes⟩, rfl, ?_⟩
  simp [lastCommand?, Client.lastCommand?, Client.commands]

/-- The next call leaves the others to be made, behind a hover action if it was refused. -/
theorem callNext_calling
    {deck : FlightDeck}
    {held : HeldClient}
    {call : ClientCall}
    {others : List ClientCall}
    (calling : deck.stage = .calling held (call :: others)) :
    ∃ same, deck.callNext.stage = .calling same others ∨
      (∃ command, call = .command command) ∧
        deck.callNext.stage = .calling same (.action .hover :: others) := by
  simp only [callNext, calling]
  rcases deck.callHeld held call with ⟨next, same, result⟩
  cases call with
  | action action => exact ⟨same, .inl rfl⟩
  | command command =>
      cases result with
      | ok done => exact ⟨same, .inl rfl⟩
      | error fault => exact ⟨same, .inr ⟨⟨command, rfl⟩, rfl⟩⟩

/-- The loop comes to the end of the calls of its iteration, whatever the client answers. -/
theorem exists_moves_of_calling
    {deck : FlightDeck}
    {held : HeldClient}
    {calls : List ClientCall}
    (calling : deck.stage = .calling held calls) :
    ∃ steps, (deck.moves steps).stage = .waiting := by
  induction calls generalizing deck held with
  | nil =>
      refine ⟨[.callNext], ?_⟩
      simp only [moves, List.foldl_cons, List.foldl_nil, move, callNext, calling]
  | cons call others inductionHypothesis =>
      obtain ⟨same, next | ⟨-, refused⟩⟩ := callNext_calling calling
      · obtain ⟨steps, waiting⟩ := inductionHypothesis next
        exact ⟨.callNext :: steps, waiting⟩
      · obtain ⟨again, next | ⟨⟨command, impossible⟩, -⟩⟩ := callNext_calling refused
        · obtain ⟨steps, waiting⟩ := inductionHypothesis next
          exact ⟨.callNext :: .callNext :: steps, waiting⟩
        · cases impossible

/-- The loop can always end its iteration. -/
theorem exists_moves_waiting (deck : FlightDeck) :
    ∃ steps, (deck.moves steps).stage = .waiting := by
  cases stage : deck.stage with
  | waiting => exact ⟨[], stage⟩
  | calling held calls => exact exists_moves_of_calling stage
  | snapshotted held =>
      cases held with
      | none =>
          refine ⟨[.tick ⟨0⟩], ?_⟩
          simp [moves, move, tick, stage]
      | some held =>
          have calling : ∃ calls, (deck.move (.tick ⟨0⟩)).stage = .calling held calls := by
            simp [move, tick, stage]
          obtain ⟨calls, calling⟩ := calling
          obtain ⟨steps, waiting⟩ := exists_moves_of_calling calling
          exact ⟨.tick ⟨0⟩ :: steps, waiting⟩

/-- What the drone flies after a call that deactivates, with moves of others between its steps. -/
structure HoversUnlessOutstanding
    (deck : FlightDeck)
    (between : List DeckMove) :
    Prop where
  inactive : (deck.deactivated between).autopilot.active = false
  /-- What is outstanding when the call returns was wanted before the flag was cleared. -/
  earlier : ∀ command, (deck.deactivated between).stage.outstanding? = some command →
    deck.stage.outstanding? = some command
  /-- Whatever is done, the iteration in flight can end. -/
  ends : ∀ steps, ∃ more, ((deck.deactivated between).moves (steps ++ more)).stage = .waiting
  /--
  From the end of the iteration in flight, the drone flies what was outstanding, or it hovers.
  -/
  last : ∀ steps more, ((deck.deactivated between).moves steps).stage = .waiting →
    ((deck.deactivated between).moves (steps ++ more)).lastCommand? =
      some ((deck.deactivated between).stage.outstanding?.getD .hover)
  /-- With nothing outstanding when the flag is cleared, the drone hovers. -/
  hovers : deck.stage.outstanding? = none →
    ∀ steps more, ((deck.deactivated between).moves steps).stage = .waiting →
      ((deck.deactivated between).moves (steps ++ more)).lastCommand? = some .hover

/--
A drone whose autopilot is deactivated while the loop runs hovers from the end of the iteration in
flight, unless that iteration sends a command behind the hover command.
-/
theorem hoversUnlessOutstanding
    {deck : FlightDeck}
    (takesCommands : deck.TakesCommands)
    (between : List DeckMove) :
    HoversUnlessOutstanding deck between := by
  have cleared : (deck.withAutopilot fun autopilot => autopilot.setActive false).Idle :=
    ⟨rfl, takesCommands⟩
  have calm := cleared.calms_moves between
  obtain ⟨idle, stage, hovering⟩ := calm.idle.hoverClient
  change (deck.deactivated between).Idle at idle
  change (deck.deactivated between).stage = _ at stage
  change (deck.deactivated between).lastCommand? = _ at hovering
  have earlier : ∀ command, (deck.deactivated between).stage.outstanding? = some command →
      deck.stage.outstanding? = some command := by
    intro command outstanding
    rw [stage] at outstanding
    exact calm.outstanding command outstanding
  have last : ∀ steps more, ((deck.deactivated between).moves steps).stage = .waiting →
      ((deck.deactivated between).moves (steps ++ more)).lastCommand? =
        some ((deck.deactivated between).stage.outstanding?.getD .hover) := by
    intro steps more waiting
    have upTo := idle.calms_moves steps
    have onward := upTo.idle.calms_moves more
    -- A loop that waits has nothing outstanding, and an idle autopilot never adds anything.
    have nothing := onward.nothing_outstanding (by rw [waiting]; rfl)
    have settled := onward.settled.trans upTo.settled
    rw [settledCommand?, settledCommand?, nothing, Option.none_or, hovering] at settled
    rw [moves_append, settled]
    cases (deck.deactivated between).stage.outstanding? <;> rfl
  refine ⟨idle.inactive, earlier, ?_, last, ?_⟩
  · intro steps
    obtain ⟨more, waiting⟩ := ((deck.deactivated between).moves steps).exists_moves_waiting
    rw [← moves_append] at waiting
    exact ⟨more, waiting⟩
  · intro nothing steps more waiting
    have none := calm.nothing_outstanding nothing
    rw [last steps more waiting, stage, none]
    rfl

/-- A deck in whose loop a tick has just made the drone climb for an hour. -/
def ascending : FlightDeck :=
  (ready.fly
    [ .enqueue
        { givenLabel := none
          budget := ⟨3600, 0, by decide⟩
          task := .steer [(Intent.verticalSpeed 1.0).goal]
          earlyExit := false },
      .setActive true ]).moves [.snapshot, .tick ⟨0⟩]

theorem ascending_hoversUnlessOutstanding :
    ascending.TakesCommands ∧ HoversUnlessOutstanding ascending [] :=
  ⟨⟨_, rfl, rfl⟩, hoversUnlessOutstanding ⟨_, rfl, rfl⟩ []⟩

/--
The loop sends the climb behind the hover command of the caller, its iteration ends, and the next
one sends nothing.
-/
theorem climbs_on_after_deactivation :
    ascending.TakesCommands ∧
      ((ascending.deactivated []).moves [.callNext, .callNext]).stage = .waiting ∧
      ((ascending.deactivated []).moves
        [.callNext, .callNext, .snapshot, .tick ⟨10⟩, .callNext]).stage = .waiting ∧
      ((ascending.deactivated []).moves
        [.callNext, .callNext, .snapshot, .tick ⟨10⟩, .callNext]).lastCommand? ≠ some .hover := by
  have climbing :
      ((ascending.deactivated []).moves
        [.callNext, .callNext, .snapshot, .tick ⟨10⟩, .callNext]).lastCommand?.map
          FlightCommand.gaz = some 1.0 := by
    decide +kernel
  have still : FlightCommand.hover.gaz ≠ 1.0 := by
    decide +kernel
  refine ⟨⟨_, rfl, rfl⟩, rfl, rfl, ?_⟩
  intro hovering
  rw [hovering] at climbing
  exact still (Option.some.inj climbing)

end FlightDeck

end DroneSession
