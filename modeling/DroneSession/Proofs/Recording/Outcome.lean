import DroneSession.Proofs.Recording.Playback
import DroneSession.Proofs.Recording.Reading
import DroneSession.Recording.PlayerDeck

namespace DroneSession

/-!
# How a playback ends

A playback offers the entries that its reader yields, in their order, until it is told to stop, the
reader has no more, or an entry cannot be timed.  Which of these comes first decides how it ends,
and it reports this at most once.  What was played or stopped before makes no difference to it.
-/

namespace Playback

/-- Whether a clock can tell when an entry is due. -/
def Timed
    (rate : Float)
    (started : Instant)
    (entry : RecordedEntry) :
    Prop :=
  (delay? rate started entry.offset).isSome = true

/-- A playback that has offered some entries. -/
structure Offers
    (rate : Float)
    (started : Instant)
    (done : List RecordedEntry)
    (playback : Playback) :
    Prop where
  sameRate : playback.rate = rate
  sameStart : playback.started = started
  timed : ∀ entry ∈ done, Timed rate started entry
  contents : playback.offered.map contentOf = done.map RecordedEntry.content
  follows : playback.sequencers.Follows playback.offered

/-- How a playback has ended whose reader yields some entries and then the end or a failure. -/
inductive Ending
    (rate : Float)
    (started : Instant)
    (entries : List RecordedEntry)
    (fault : Option ReadFault)
    (playback : Playback) :
    Prop where
  | finished
      (state : playback.state = .finished)
      (clean : fault = none)
      (offers : playback.Offers rate started entries)
      (reported : playback.notifications = [.playbackFinished playback.offered.length])
  | unreadable
      (failure : ReadFault)
      (state : playback.state = .failed)
      (found : fault = some failure)
      (offers : playback.Offers rate started entries)
      (reported : playback.notifications =
        [.workerStopped workerName failure.toError.message])
  | untimed
      (done : List RecordedEntry)
      (entry : RecordedEntry)
      (rest : List RecordedEntry)
      (state : playback.state = .failed)
      (parts : entries = done ++ entry :: rest)
      (late : ¬ Timed rate started entry)
      (offers : playback.Offers rate started done)
      (reported : playback.notifications =
        [.workerStopped workerName (timingError rate entry.offset).message])
  | cancelled
      (done rest : List RecordedEntry)
      (state : playback.state = .cancelled)
      (parts : entries = done ++ rest)
      (offers : playback.Offers rate started done)
      (silent : playback.notifications = [])

/-- How far a playback has come; the number bounds the steps that it can still take. -/
inductive Course
    (rate : Float)
    (started : Instant)
    (entries : List RecordedEntry)
    (fault : Option ReadFault) :
    Nat → Playback → Prop where
  | reading
      {playback : Playback}
      (done rest : List RecordedEntry)
      (last : RecordingReader)
      (parts : entries = done ++ rest)
      (offers : playback.Offers rate started done)
      (yields : playback.reader.Yields rest fault last)
      (playing : playback.state = .playing)
      (idle : playback.held = none)
      (silent : playback.notifications = []) :
      Course rate started entries fault (2 * rest.length + 1) playback
  | holding
      {playback : Playback}
      (done : List RecordedEntry)
      (entry : RecordedEntry)
      (rest : List RecordedEntry)
      (delay : Duration)
      (last : RecordingReader)
      (parts : entries = done ++ entry :: rest)
      (due : delay? rate started entry.offset = some delay)
      (offers : playback.Offers rate started done)
      (yields : playback.reader.Yields rest fault last)
      (playing : playback.state = .playing)
      (held : playback.held = some ⟨entry, delay⟩)
      (silent : playback.notifications = []) :
      Course rate started entries fault (2 * rest.length + 2) playback
  | ended
      {playback : Playback}
      (left : Nat)
      (ending : playback.Ending rate started entries fault) :
      Course rate started entries fault left playback

variable {rate : Float} {started : Instant} {entries : List RecordedEntry}
  {fault : Option ReadFault} {left : Nat} {playback : Playback}

/-- A playback starts with all its entries before it, and two steps for each of them. -/
theorem course_start
    {reader last : RecordingReader}
    (yields : reader.Yields entries fault last) :
    Course rate started entries fault (2 * entries.length + 1) (start rate started reader) :=
  .reading [] entries last rfl ⟨rfl, rfl, by simp, rfl, Sequencers.follows_start⟩ yields rfl rfl rfl

/-- What a playback has offered does not depend on what it reads, holds or reports. -/
theorem Offers.congr
    {other : Playback}
    {done : List RecordedEntry}
    (offers : playback.Offers rate started done)
    (sameRate : other.rate = playback.rate)
    (sameStart : other.started = playback.started)
    (sameSequencers : other.sequencers = playback.sequencers)
    (sameOffered : other.offered = playback.offered) :
    other.Offers rate started done where
  sameRate := sameRate.trans offers.sameRate
  sameStart := sameStart.trans offers.sameStart
  timed := offers.timed
  contents := sameOffered ▸ offers.contents
  follows := sameOffered ▸ sameSequencers ▸ offers.follows

/-- Releasing an entry offers it behind the others. -/
theorem Offers.release
    {done : List RecordedEntry}
    (offers : playback.Offers rate started done)
    {entry : RecordedEntry}
    {delay : Duration}
    (due : delay? rate started entry.offset = some delay) :
    (playback.release ⟨entry, delay⟩).Offers rate started (done ++ [entry]) := by
  obtain ⟨packet, sequencers, content, followsNext, released⟩ :=
    exists_release offers.follows entry delay
  rw [released]
  refine ⟨offers.sameRate, offers.sameStart, ?_, ?_, followsNext⟩
  · intro other member
    rcases List.mem_append.mp member with earlier | last
    · exact offers.timed other earlier
    · rw [List.mem_singleton.mp last, Timed, due]
      rfl
  · rw [List.map_append, List.map_append, offers.contents, List.map_singleton, content,
      List.map_singleton]

/-- Reading on holds the next entry, or it ends the playback. -/
theorem course_load
    {done rest : List RecordedEntry}
    {last : RecordingReader}
    (parts : entries = done ++ rest)
    (offers : playback.Offers rate started done)
    (yields : playback.reader.Yields rest fault last)
    (playing : playback.state = .playing)
    (silent : playback.notifications = []) :
    Course rate started entries fault (2 * rest.length) playback.load := by
  unfold load
  cases yields with
  | ended read =>
      rw [List.append_nil] at parts
      subst parts
      rw [read]
      refine .ended _ (.finished rfl rfl (offers.congr rfl rfl rfl rfl) ?_)
      simp only [silent, List.nil_append]
  | @failed _ _ failure read =>
      rw [List.append_nil] at parts
      subst parts
      rw [read]
      refine .ended _ (.unreadable failure rfl rfl (offers.congr rfl rfl rfl rfl) ?_)
      simp only [fail, silent, List.nil_append]
  | @entry _ behind _ entry others _ read yieldsOthers =>
      obtain ⟨rfl, rfl⟩ : playback.rate = rate ∧ playback.started = started :=
        ⟨offers.sameRate, offers.sameStart⟩
      rw [read]
      dsimp only
      cases due : delay? playback.rate playback.started entry.offset with
      | none =>
          refine .ended _ (.untimed done entry others rfl parts (by simp [Timed, due])
            (offers.congr rfl rfl rfl rfl) ?_)
          simp only [fail, silent, List.nil_append]
      | some delay =>
          exact .holding done entry others delay last parts due
            (offers.congr rfl rfl rfl rfl) yieldsOthers playing rfl silent

theorem Ending.isTerminal
    (ending : playback.Ending rate started entries fault) :
    playback.state.isTerminal = true := by
  cases ending with
  | finished state => rw [state]; rfl
  | unreadable failure state => rw [state]; rfl
  | untimed done entry rest state => rw [state]; rfl
  | cancelled done rest state => rw [state]; rfl

/-- A playback that has ended takes no step and cannot be stopped. -/
theorem still_of_isTerminal
    (terminal : playback.state.isTerminal = true) :
    playback.advance = playback ∧ playback.stop = playback := by
  unfold advance stop
  cases state : playback.state <;> simp_all [PlayerState.isTerminal]

/-- A step brings a playback nearer to its end. -/
theorem Course.advance
    (course : Course rate started entries fault left playback) :
    Course rate started entries fault (left - 1) playback.advance := by
  cases course with
  | reading done rest last parts offers yields playing idle silent =>
      have step : playback.advance = playback.load := by
        simp only [Playback.advance, playing, idle]
      rw [step]
      exact course_load parts offers yields playing silent
  | holding done entry rest delay last parts due offers yields playing held silent =>
      have step : playback.advance = playback.release ⟨entry, delay⟩ := by
        simp only [Playback.advance, playing, held]
      rw [step]
      exact .reading (done ++ [entry]) rest last (by rw [parts, List.append_cons])
        (offers.release due) yields playing rfl silent
  | ended left ending =>
      rw [(still_of_isTerminal ending.isTerminal).1]
      exact .ended _ ending

/-- A playback that has not ended: the entries that it has offered are the first ones. -/
structure Underway
    (rate : Float)
    (started : Instant)
    (entries : List RecordedEntry)
    (playback : Playback) :
    Prop where
  playing : playback.state = .playing
  first : ∃ done rest, entries = done ++ rest ∧ playback.Offers rate started done
  silent : playback.notifications = []

/-- A playback has ended, or it is under way and can take a step. -/
theorem Course.underway_or_ending
    (course : Course rate started entries fault left playback) :
    (0 < left ∧ playback.Underway rate started entries) ∨
      playback.Ending rate started entries fault := by
  cases course with
  | reading done rest last parts offers yields playing idle silent =>
      exact .inl ⟨Nat.succ_pos _, playing, ⟨done, rest, parts, offers⟩, silent⟩
  | holding done entry rest delay last parts due offers yields playing held silent =>
      exact .inl ⟨Nat.succ_pos _, playing, ⟨done, entry :: rest, parts, offers⟩, silent⟩
  | ended left ending => exact .inr ending

/-- A stop ends a playback that is under way, and says nothing. -/
theorem Course.stop
    (course : Course rate started entries fault left playback) :
    playback.stop.Ending rate started entries fault := by
  rcases course.underway_or_ending with ⟨-, playing, ⟨done, rest, parts, offers⟩, silent⟩ | ending
  · have stopped : playback.stop = { playback with state := .cancelled, held := none } := by
      simp only [Playback.stop, playing]
    rw [stopped]
    exact .cancelled done rest rfl parts (offers.congr rfl rfl rfl rfl) silent
  · rwa [(still_of_isTerminal ending.isTerminal).2]

/-- What a playback has offered are the first entries. -/
theorem Course.exists_offers
    (course : Course rate started entries fault left playback) :
    ∃ done, done <+: entries ∧ playback.Offers rate started done := by
  rcases course.underway_or_ending with ⟨-, -, ⟨done, rest, parts, offers⟩, -⟩ | ending
  · exact ⟨done, ⟨rest, parts.symm⟩, offers⟩
  · cases ending with
    | finished state clean offers => exact ⟨entries, List.prefix_rfl, offers⟩
    | unreadable failure state found offers => exact ⟨entries, List.prefix_rfl, offers⟩
    | untimed done entry rest state parts late offers =>
        exact ⟨done, ⟨entry :: rest, parts.symm⟩, offers⟩
    | cancelled done rest state parts offers => exact ⟨done, ⟨rest, parts.symm⟩, offers⟩

/-- Reading offers nothing, and it does not cancel a playback. -/
theorem load_keeps
    (playback : Playback) :
    playback.load.offered = playback.offered ∧
      (playback.state = .playing → playback.load.state ≠ .cancelled) := by
  unfold load
  split
  · exact ⟨rfl, fun _ => by simp [fail]⟩
  · exact ⟨rfl, fun _ => by simp⟩
  · dsimp only
    split
    · exact ⟨rfl, fun _ => by simp [fail]⟩
    · exact ⟨rfl, fun playing => by simp [playing]⟩

/-- Nobody but those who stop a playback makes it cancelled. -/
theorem advance_ne_cancelled
    (playing : playback.state = .playing) :
    playback.advance.state ≠ .cancelled := by
  cases held : playback.held with
  | none =>
      simp only [advance, playing, held]
      exact playback.load_keeps.2 playing
  | some entry =>
      simp only [advance, playing, held, release]
      exact PlayerState.noConfusion

/-- A step offers the next packet, if there is one. -/
theorem offered_advance
    (playback : Playback) :
    playback.advance.offered = playback.offered ++ playback.nextPacket?.toList := by
  unfold advance nextPacket?
  match state : playback.state, held : playback.held with
  | .playing, none => exact playback.load_keeps.1.trans (List.append_nil _).symm
  | .playing, some entry => rfl
  | .idle, _ => exact (List.append_nil _).symm
  | .finished, _ => exact (List.append_nil _).symm
  | .cancelled, _ => exact (List.append_nil _).symm
  | .failed, _ => exact (List.append_nil _).symm

end Playback

theorem PacketSink.acceptAll_append
    {σ : Type}
    (sink : PacketSink σ)
    (state : σ)
    (packets others : List Packet) :
    (sink.acceptAll state (packets ++ others)).1 =
      (sink.acceptAll (sink.acceptAll state packets).1 others).1 := by
  induction packets generalizing state with
  | nil => rfl
  | cons packet packets inductionHypothesis => exact inductionHypothesis _

namespace PlayerDeck

variable {σ : Type} {sink : PacketSink σ}

/-! ## Turns of the thread -/

/-- Everything that a turn of the thread can do. -/
inductive TurnCase
    (sink : PacketSink σ)
    (deck : PlayerDeck σ) :
    PlayerDeck σ → Prop where
  /-- There is no thread, or it has ended. -/
  | nothing
      (gone : ∀ playback, deck.player.playback = some playback → playback.state ≠ .playing) :
      TurnCase sink deck deck
  /-- The thread has looked before, and now reads or releases an entry. -/
  | acts
      (playback : Playback)
      (current : deck.player.playback = some playback)
      (playing : playback.state = .playing)
      (cleared : deck.cleared = true) :
      TurnCase sink deck (deck.advance sink playback)
  | stops
      (playback : Playback)
      (current : deck.player.playback = some playback)
      (playing : playback.state = .playing)
      (uncleared : deck.cleared = false)
      (cancelled : deck.cancelled = true) :
      TurnCase sink deck { deck with player := deck.player.stop }
  | looks
      (playback : Playback)
      (current : deck.player.playback = some playback)
      (playing : playback.state = .playing)
      (uncleared : deck.cleared = false)
      (uncancelled : deck.cancelled = false) :
      TurnCase sink deck { deck with cleared := true }

theorem turnCase
    (deck : PlayerDeck σ) :
    TurnCase sink deck (deck.turn sink) := by
  unfold turn
  split
  · rename_i none
    refine .nothing fun playback current => ?_
    rw [none] at current
    cases current
  · rename_i playback current
    split
    · rename_i gone
      refine .nothing fun other same => ?_
      rwa [Option.some.inj (same.symm.trans current)]
    · rename_i playing
      rw [Decidable.not_not] at playing
      split
      · rename_i cleared
        exact .acts playback current playing cleared
      · rename_i uncleared
        rw [Bool.not_eq_true] at uncleared
        split
        · rename_i cancelled
          exact .stops playback current playing uncleared cancelled
        · rename_i uncancelled
          rw [Bool.not_eq_true] at uncancelled
          exact .looks playback current playing uncleared uncancelled

/-- A turn changes nothing of what a player was told, nor its rate. -/
theorem turn_keeps
    (deck : PlayerDeck σ) :
    (deck.turn sink).cancelled = deck.cancelled ∧
      (deck.turn sink).player.rate = deck.player.rate := by
  have taken : TurnCase sink deck (deck.turn sink) := deck.turnCase
  generalize deck.turn sink = behind at taken ⊢
  cases taken with
  | nothing gone => exact ⟨rfl, rfl⟩
  | acts playback current playing cleared => exact ⟨rfl, rfl⟩
  | stops playback current playing uncleared cancelled => exact ⟨rfl, rfl⟩
  | looks playback current playing uncleared uncancelled => exact ⟨rfl, rfl⟩

/-! ## One playback -/

/-- A deck on which a playback runs that began with some state of the sink. -/
structure Hosts
    (sink : PacketSink σ)
    (initial : σ)
    (reports : List Notification)
    (playback : Playback)
    (deck : PlayerDeck σ) :
    Prop where
  current : deck.player.playback = some playback
  earlier : deck.player.reports = reports
  received : deck.state = (sink.acceptAll initial playback.offered).1
  cancelled : playback.state = .cancelled → deck.cancelled = true

/--
A number of turns that is enough for a playback to end: two for each step that it can still take, or
at most two if it was told to stop.
-/
def Suffices
    (deck : PlayerDeck σ)
    (left turns : Nat) :
    Prop :=
  left = 0 ∨ 2 * left ≤ turns + deck.cleared.toNat ∨
    (deck.cancelled = true ∧ 1 + deck.cleared.toNat ≤ turns)

section

variable {initial : σ} {reports : List Notification} {playback : Playback} {deck : PlayerDeck σ}
  {rate : Float} {started : Instant} {entries : List RecordedEntry} {fault : Option ReadFault}
  {left : Nat}

/-- Whatever the sink answers, it is offered what the playback offers. -/
theorem Hosts.advance
    (hosts : Hosts sink initial reports playback deck)
    (untold : playback.advance.state ≠ .cancelled) :
    Hosts sink initial reports playback.advance (deck.advance sink playback) where
  current := rfl
  earlier := hosts.earlier
  received := by
    rw [playback.offered_advance, sink.acceptAll_append, ← hosts.received]
    rfl
  cancelled := fun told => absurd told untold

/-- A turn brings the playback nearer to its end. -/
theorem Hosts.turn
    (hosts : Hosts sink initial reports playback deck)
    (course : playback.Course rate started entries fault left) :
    ∃ next left', Hosts sink initial reports next (deck.turn sink) ∧
      next.Course rate started entries fault left' ∧
      ∀ turns, deck.Suffices left turns → (deck.turn sink).Suffices left' (turns - 1) := by
  have taken : TurnCase sink deck (deck.turn sink) := deck.turnCase
  generalize deck.turn sink = behind at taken ⊢
  cases taken with
  | nothing gone =>
      rcases course.underway_or_ending with ⟨-, underway⟩ | ending
      · exact absurd underway.playing (gone playback hosts.current)
      · exact ⟨playback, 0, hosts, .ended 0 ending, fun _ _ => .inl rfl⟩
  | acts other current playing cleared =>
      obtain rfl := Option.some.inj (current.symm.trans hosts.current)
      refine ⟨other.advance, left - 1,
        hosts.advance (Playback.advance_ne_cancelled playing), course.advance, ?_⟩
      intro turns enough
      simp only [Suffices, PlayerDeck.advance, cleared, Bool.toNat_true, Bool.toNat_false]
        at enough ⊢
      rcases enough with none | enough | ⟨told, enough⟩
      · omega
      · omega
      · -- A stop that came behind the look is found at the next one.
        exact .inr (.inr ⟨told, by omega⟩)
  | stops other current playing uncleared cancelled =>
      obtain rfl := Option.some.inj (current.symm.trans hosts.current)
      refine ⟨other.stop, 0, ⟨?_, hosts.earlier, ?_, fun _ => cancelled⟩,
        .ended 0 course.stop, fun _ _ => .inl rfl⟩
      · simp only [Player.stop, hosts.current, Option.map_some]
      · have same : other.stop.offered = other.offered := by
          simp only [Playback.stop, playing]
        rw [same]
        exact hosts.received
  | looks other current playing uncleared uncancelled =>
      refine ⟨playback, left, ⟨hosts.current, hosts.earlier, hosts.received, hosts.cancelled⟩,
        course, ?_⟩
      intro turns enough
      simp only [Suffices, uncleared, uncancelled, Bool.toNat_true, Bool.toNat_false,
        Bool.false_eq_true, false_and, or_false] at enough ⊢
      omega

/-- Telling a player to stop changes nothing of its playback at once. -/
theorem Hosts.told
    (hosts : Hosts sink initial reports playback deck) :
    Hosts sink initial reports playback (deck.perform sink .stop) :=
  ⟨hosts.current, hosts.earlier, hosts.received, fun _ => rfl⟩

/-- Two turns after a player was told to stop its playback has ended. -/
theorem suffices_told
    (deck : PlayerDeck σ)
    (left : Nat) :
    (deck.perform sink .stop).Suffices left 2 := by
  refine .inr (.inr ⟨rfl, ?_⟩)
  have once := deck.cleared.toNat_le
  change 1 + deck.cleared.toNat ≤ 2
  omega

/-- Moves of others and turns of the thread take a playback along its course. -/
theorem Hosts.moves
    (hosts : Hosts sink initial reports playback deck)
    (course : playback.Course rate started entries fault left)
    (moves : List PlaybackMove) :
    ∃ next left', Hosts sink initial reports next (deck.moves sink moves) ∧
      next.Course rate started entries fault left' ∧
      ∀ turns, deck.Suffices left turns →
        (deck.moves sink moves).Suffices left' (turns - moves.count .turn) := by
  -- A stop leaves the number of turns that suffices as it is; every turn takes one off.
  induction moves generalizing deck playback left with
  | nil => exact ⟨playback, left, hosts, course, fun _ enough => enough⟩
  | cons move moves inductionHypothesis =>
      cases move with
      | stop =>
          obtain ⟨next, left', hostsLast, courseLast, kept⟩ :=
            inductionHypothesis hosts.told course
          refine ⟨next, left', hostsLast, courseLast, ?_⟩
          intro turns enough
          have told : (deck.perform sink .stop).Suffices left turns := by
            rcases enough with none | enough | ⟨-, enough⟩
            · exact .inl none
            · exact .inr (.inl enough)
            · exact .inr (.inr ⟨rfl, enough⟩)
          rw [List.count_cons_of_ne (by decide)]
          exact kept turns told
      | turn =>
          obtain ⟨middle, between, hostsNext, courseNext, nearer⟩ := hosts.turn course
          obtain ⟨next, left', hostsLast, courseLast, kept⟩ :=
            inductionHypothesis hostsNext courseNext
          refine ⟨next, left', hostsLast, courseLast, ?_⟩
          intro turns enough
          rw [List.count_cons_self, Nat.add_comm, ← Nat.sub_sub]
          exact kept (turns - 1) (nearer turns enough)

/-- Without a turn left that it would need, a playback has ended. -/
theorem isTerminal_of_suffices
    (course : playback.Course rate started entries fault left)
    (enough : deck.Suffices left 0) :
    playback.state.isTerminal = true := by
  have once := deck.cleared.toNat_le
  have nothing : left = 0 := by
    rcases enough with nothing | enough | ⟨-, enough⟩ <;> omega
  rcases course.underway_or_ending with ⟨positive, -⟩ | ending
  · exact absurd nothing (Nat.ne_of_gt positive)
  · exact ending.isTerminal

/-- A thread that has ended takes no turn. -/
theorem Hosts.turn_of_isTerminal
    (hosts : Hosts sink initial reports playback deck)
    (terminal : playback.state.isTerminal = true) :
    deck.turn sink = deck := by
  have ended : ∀ other, deck.player.playback = some other → other.state ≠ .playing := by
    intro other current playing
    obtain rfl := Option.some.inj (current.symm.trans hosts.current)
    rw [playing] at terminal
    cases terminal
  have taken : TurnCase sink deck (deck.turn sink) := deck.turnCase
  generalize deck.turn sink = behind at taken ⊢
  cases taken with
  | nothing gone => rfl
  | acts other current playing => exact absurd playing (ended other current)
  | stops other current playing => exact absurd playing (ended other current)
  | looks other current playing => exact absurd playing (ended other current)

/-- A playback that has ended stays as it is, and so does what the sink has received. -/
theorem Hosts.moves_of_isTerminal
    (hosts : Hosts sink initial reports playback deck)
    (terminal : playback.state.isTerminal = true)
    (more : List PlaybackMove) :
    (deck.moves sink more).player = deck.player ∧
      (deck.moves sink more).state = deck.state := by
  induction more generalizing deck with
  | nil => exact ⟨rfl, rfl⟩
  | cons move more inductionHypothesis =>
      cases move with
      | stop => exact inductionHypothesis hosts.told
      | turn =>
          change ((deck.turn sink).moves sink more).player = _ ∧
            ((deck.turn sink).moves sink more).state = _
          rw [hosts.turn_of_isTerminal terminal]
          exact inductionHypothesis hosts

end

/-- Only those who tell a player to stop make it so. -/
theorem told_of_cancelled
    {deck : PlayerDeck σ}
    {moves : List PlaybackMove}
    (cancelled : (deck.moves sink moves).cancelled = true) :
    deck.cancelled = true ∨ .stop ∈ moves := by
  induction moves generalizing deck with
  | nil => exact .inl cancelled
  | cons move moves inductionHypothesis =>
      rcases inductionHypothesis cancelled with before | later
      · cases move with
        | stop => exact .inr List.mem_cons_self
        | turn =>
            exact .inl (deck.turn_keeps.1.symm.trans before)
      · exact .inr (List.mem_cons_of_mem move later)

/-! ## What was played before -/

/-- The deck of a player whose earlier playbacks have reported something else. -/
def withReports
    (deck : PlayerDeck σ)
    (reports : List Notification) :
    PlayerDeck σ :=
  { deck with player := { deck.player with reports := reports } }

/-- Earlier reports make no difference to a turn. -/
theorem turn_withReports
    (deck : PlayerDeck σ)
    (reports : List Notification) :
    (deck.withReports reports).turn sink = (deck.turn sink).withReports reports := by
  cases current : deck.player.playback with
  | none => simp only [turn, withReports, current]
  | some playback =>
      by_cases playing : playback.state = .playing
      · cases cleared : deck.cleared <;> cases cancelled : deck.cancelled <;>
          simp [turn, withReports, current, playing, cleared, cancelled, advance, Player.stop]
      · simp [turn, withReports, current, playing]

/-- What earlier playbacks have reported makes no difference to later ones. -/
theorem moves_withReports
    (deck : PlayerDeck σ)
    (reports : List Notification)
    (moves : List PlaybackMove) :
    (deck.withReports reports).moves sink moves =
      (deck.moves sink moves).withReports reports := by
  induction moves generalizing deck with
  | nil => rfl
  | cons move moves inductionHypothesis =>
      cases move with
      | stop => exact inductionHypothesis { deck with cancelled := true }
      | turn =>
          change ((deck.withReports reports).turn sink).moves sink moves = _
          rw [turn_withReports, inductionHypothesis]
          rfl

/-- A player that is not playing begins from nothing but its rate. -/
theorem play_of_idle
    {deck : PlayerDeck σ}
    (idle : deck.player.isAlive = false)
    (started : Instant)
    (reader : RecordingReader) :
    deck.play started reader =
      { player :=
          { rate := deck.player.rate
            state := .playing
            playback := some (.start deck.player.rate started reader)
            reports := deck.player.notifications }
        state := deck.state
        cancelled := false
        cleared := false } := by
  simp only [play, Player.play, idle, Bool.false_eq_true, if_false, Player.join]

/-- No step changes the rate of a player. -/
theorem rate_step
    (deck : PlayerDeck σ)
    (step : PlayerStep) :
    (deck.step sink step).player.rate = deck.player.rate := by
  cases step with
  | play started reader =>
      cases alive : deck.player.isAlive with
      | true => simp only [PlayerDeck.step, play, Player.play, alive, if_true]
      | false =>
          rw [PlayerDeck.step, play_of_idle alive]
  | move move =>
      cases move with
      | stop => rfl
      | turn =>
          exact deck.turn_keeps.2
  | join =>
      rw [PlayerDeck.step, join]
      split <;> rfl

/-- A player keeps the rate that it was created with. -/
theorem rate_run
    (deck : PlayerDeck σ)
    (steps : List PlayerStep) :
    (deck.run sink steps).player.rate = deck.player.rate := by
  induction steps generalizing deck with
  | nil => rfl
  | cons step steps inductionHypothesis =>
      exact (inductionHypothesis (deck.step sink step)).trans (deck.rate_step step)

/-! ## Every play -/

theorem moves_append
    (deck : PlayerDeck σ)
    (first second : List PlaybackMove) :
    deck.moves sink (first ++ second) = (deck.moves sink first).moves sink second :=
  List.foldl_append

/-- How a playback has gone that a deck began, after some moves. -/
structure PlaysOut
    (sink : PacketSink σ)
    (deck : PlayerDeck σ)
    (rate : Float)
    (started : Instant)
    (reader : RecordingReader)
    (moves : List PlaybackMove)
    (entries : List RecordedEntry)
    (fault : Option ReadFault)
    (playback : Playback) :
    Prop where
  current : ((deck.play started reader).moves sink moves).player.playback = some playback
  /-- It has not ended, or it has ended in one way and has reported that. -/
  outcome : playback.Underway rate started entries ∨ playback.Ending rate started entries fault
  /-- What it has offered are the first entries, in their order. -/
  first : playback.offered.map Playback.contentOf <+: entries.map RecordedEntry.content
  numbered : ∀ kind, Consecutive kind playback.offered
  /-- The sink was offered these packets and no others, whatever it answered. -/
  received : ((deck.play started reader).moves sink moves).state =
    (sink.acceptAll deck.state playback.offered).1
  reported : ((deck.play started reader).moves sink moves).player.notifications =
    deck.player.notifications ++ playback.notifications
  /-- A playback is cancelled only by those who stop it while it is under way. -/
  told : playback.state = .cancelled → .stop ∈ moves
  /-- Each entry takes four turns at most, and the end two. -/
  ends : 4 * entries.length + 2 ≤ moves.count .turn → playback.state.isTerminal = true
  /-- A playback that was told to stop takes two turns at most. -/
  stops : ∀ before after, moves = before ++ .stop :: after → 2 ≤ after.count .turn →
    playback.state.isTerminal = true
  /-- Once it has ended it stays as it is, and offers nothing more. -/
  stays : playback.state.isTerminal = true → ∀ more,
    ((deck.play started reader).moves sink (moves ++ more)).player.playback = some playback ∧
    ((deck.play started reader).moves sink (moves ++ more)).state =
      ((deck.play started reader).moves sink moves).state
  /-- Its owner gets the state in which it has ended. -/
  joined : playback.state.isTerminal = true →
    ((deck.play started reader).moves sink moves).join.player.state = playback.state ∧
    ((deck.play started reader).moves sink moves).join.player.notifications =
      deck.player.notifications ++ playback.notifications
  /-- A player that has not played or been stopped before plays in the same way. -/
  alike : ∀ fresh, create rate deck.state = .ok fresh →
    ((fresh.play started reader).moves sink moves).player.playback = some playback ∧
    ((fresh.play started reader).moves sink moves).state =
      ((deck.play started reader).moves sink moves).state

/-- A player that was just created has played nothing. -/
theorem eq_of_create
    {rate : Float}
    {state : σ}
    {deck : PlayerDeck σ}
    (created : create rate state = .ok deck) :
    deck =
      { player :=
          { rate := rate
            state := .idle
            playback := none
            reports := [] }
        state := state
        cancelled := false
        cleared := false } := by
  unfold create Player.create at created
  split at created
  · cases created
  · rename_i player valid
    split at valid
    · cases valid
      cases created
      rfl
    · cases valid

section

variable {deck : PlayerDeck σ} {rate : Float} {started : Instant} {reader : RecordingReader}
  {moves : List PlaybackMove} {entries : List RecordedEntry} {fault : Option ReadFault}
  {playback : Playback}

/-- What a player has played before makes no difference to a new one. -/
theorem play_eq_withReports
    (idle : deck.player.isAlive = false)
    {fresh : PlayerDeck σ}
    (created : create deck.player.rate deck.state = .ok fresh)
    (started : Instant)
    (reader : RecordingReader) :
    fresh.play started reader = (deck.play started reader).withReports [] := by
  rw [eq_of_create created, play_of_idle idle, play_of_idle rfl]
  rfl

/-- A playback that is given enough turns ends. -/
theorem Hosts.isTerminal_of_moves
    {initial : σ}
    {reports : List Notification}
    {left turns : Nat}
    (hosts : Hosts sink initial reports playback deck)
    (course : playback.Course rate started entries fault left)
    (enough : deck.Suffices left turns)
    (taken : turns ≤ moves.count .turn)
    {last : Playback}
    (current : (deck.moves sink moves).player.playback = some last) :
    last.state.isTerminal = true := by
  obtain ⟨next, left', hostsNext, courseNext, nearer⟩ := hosts.moves course moves
  obtain rfl := Option.some.inj (hostsNext.current.symm.trans current)
  have nothing := nearer turns enough
  rw [Nat.sub_eq_zero_of_le taken] at nothing
  exact isTerminal_of_suffices courseNext nothing

/-- Joining a player reports nothing. -/
theorem notifications_join
    (player : Player) :
    player.join.notifications = player.notifications := by
  simp only [Player.join, Player.notifications, List.append_nil]

/-- Every play ends in one way, whatever the reader, the sink and those who stop it do. -/
theorem exists_playsOut
    (idle : deck.player.isAlive = false)
    (started : Instant)
    (yields : ∃ last, reader.Yields entries fault last)
    (moves : List PlaybackMove) :
    ∃ playback,
      PlaysOut sink deck deck.player.rate started reader moves entries fault playback := by
  obtain ⟨last, yields⟩ := yields
  have begun := play_of_idle idle started reader
  have hosts : Hosts sink deck.state deck.player.notifications
      (.start deck.player.rate started reader) (deck.play started reader) := by
    rw [begun]
    exact ⟨rfl, rfl, rfl, fun cancelled => by cases cancelled⟩
  have course : (Playback.start deck.player.rate started reader).Course deck.player.rate started
      entries fault (2 * entries.length + 1) :=
    Playback.course_start yields
  obtain ⟨playback, left, hostsLast, courseLast, -⟩ := hosts.moves course moves
  obtain ⟨done, isFirst, offers⟩ := courseLast.exists_offers
  have reports : ((deck.play started reader).moves sink moves).player.notifications =
      deck.player.notifications ++ playback.notifications := by
    simp only [Player.notifications, hostsLast.current, hostsLast.earlier]
  refine
    ⟨playback,
      { current := hostsLast.current
        outcome := courseLast.underway_or_ending.imp And.right id
        first := ?_
        numbered := offers.follows.consecutive
        received := hostsLast.received
        reported := reports
        told := ?_
        ends := ?_
        stops := ?_
        stays := ?_
        joined := ?_
        alike := ?_ }⟩
  · rw [offers.contents]
    exact isFirst.map _
  · intro cancelled
    rcases told_of_cancelled (hostsLast.cancelled cancelled) with before | told
    · rw [begun] at before
      cases before
    · exact told
  · intro enough
    have turns : (deck.play started reader).Suffices (2 * entries.length + 1)
        (4 * entries.length + 2) := .inr (.inl (by omega))
    exact hosts.isTerminal_of_moves course turns enough hostsLast.current
  · rintro before after rfl enough
    obtain ⟨middle, between, hostsMiddle, courseMiddle, -⟩ := hosts.moves course before
    rw [moves_append] at hostsLast
    exact hostsMiddle.told.isTerminal_of_moves courseMiddle (suffices_told _ between) enough
      hostsLast.current
  · intro terminal more
    obtain ⟨samePlayer, sameState⟩ := hostsLast.moves_of_isTerminal terminal more
    rw [moves_append, samePlayer, sameState]
    exact ⟨hostsLast.current, rfl⟩
  · intro terminal
    have gone : ((deck.play started reader).moves sink moves).player.isAlive = false := by
      rw [Player.isAlive, hostsLast.current]
      cases state : playback.state <;> simp_all [PlayerState.isTerminal]
    rw [join, gone, if_neg Bool.false_ne_true]
    refine ⟨?_, (notifications_join _).trans reports⟩
    simp only [Player.join, Player.currentState, hostsLast.current]
  · intro fresh created
    rw [play_eq_withReports idle created, moves_withReports]
    exact ⟨hostsLast.current, rfl⟩

end

/--
Whatever a player has played before and whoever has stopped it, a play of any source offers what
can be read and timed, in the order of the source, and ends in one way.
-/
theorem playback_outcome
    {rate : Float}
    {state : σ}
    {deck : PlayerDeck σ}
    (created : create rate state = .ok deck)
    (sink : PacketSink σ)
    (history : List PlayerStep)
    (idle : (deck.run sink history).player.isAlive = false)
    (started : Instant)
    (reader : RecordingReader)
    (moves : List PlaybackMove) :
    ∃ entries fault last, reader.Yields entries fault last ∧
      ∃ playback, PlaysOut sink (deck.run sink history) rate started reader moves entries fault
        playback := by
  obtain ⟨entries, fault, last, yields⟩ := reader.exists_yields
  have sameRate : (deck.run sink history).player.rate = rate := by
    rw [rate_run, eq_of_create created]
  obtain ⟨playback, plays⟩ := exists_playsOut idle started ⟨last, yields⟩ moves
  rw [sameRate] at plays
  exact ⟨entries, fault, last, yields, playback, plays⟩

/-- A sink that declines every packet and counts them. -/
def decliningSink : PacketSink Nat where
  accept := fun count _ => (count + 1, false)

/-- A reader of `RecordingReader.shortRecording`. -/
def shortReader : RecordingReader :=
  .ofSource (.scheduled
    (RecordingReader.shortRecording.flatMap RecordedEntry.encode ++ []) (fun _ => .whole) none)

/-- A play that is cancelled at once, and another stop behind it. -/
def cancelledPlay : List PlayerStep :=
  [.play ⟨0⟩ shortReader, .move .stop, .move .turn, .join, .move .stop]

/-- After a cancelled play a whole recording is offered, although the sink declines it. -/
theorem declined_recording_finishes :
    ∃ deck, create 1.0 0 = .ok deck ∧
      (deck.run decliningSink cancelledPlay).player.isAlive = false ∧
      ∃ playback,
        (((deck.run decliningSink cancelledPlay).play ⟨0⟩ shortReader).moves decliningSink
          (List.replicate 14 .turn)).player.playback = some playback ∧
        playback.state = .finished ∧
        playback.notifications = [.playbackFinished 3] ∧
        playback.offered.map Playback.contentOf =
          [(.navigation, [1, 2, 3]), (.video, []), (.navigation, [9])] := by
  have valid : Playback.isValidRate 1.0 = true := by
    decide +kernel
  have created : create 1.0 0 = .ok
      { player := { rate := 1.0, state := .idle, playback := none, reports := [] }
        state := 0
        cancelled := false
        cleared := false } := by
    simp only [create, Player.create, valid, if_true]
  refine ⟨_, created, rfl, ?_⟩
  obtain ⟨entries, fault, last, yields, playback, plays⟩ :=
    playback_outcome created decliningSink cancelledPlay rfl ⟨0⟩ shortReader
      (List.replicate 14 .turn)
  have writable : ∀ entry ∈ RecordingReader.shortRecording, entry.isWritable = true := by
    decide
  have gone : Stop.ended.Leaves [] := rfl
  obtain ⟨_, whole, -⟩ := RecordingReader.yields_scheduled writable gone (fun _ => .whole)
  obtain ⟨rfl, rfl⟩ := whole.unique yields
  have timed : ∀ entry ∈ RecordingReader.shortRecording, Playback.Timed 1.0 ⟨0⟩ entry := by
    unfold Playback.Timed
    decide +kernel
  have terminal := plays.ends (by decide)
  refine ⟨playback, plays.current, ?_⟩
  rcases plays.outcome with underway | ending
  · rw [underway.playing] at terminal
    cases terminal
  · cases ending with
    | finished state clean offers reported =>
        have contents := offers.contents
        have count := congrArg List.length contents
        rw [List.length_map, List.length_map] at count
        rw [count] at reported
        exact ⟨state, reported, contents⟩
    | unreadable failure state found => cases found
    | untimed done entry rest state parts late =>
        exact absurd (timed entry (by simp [parts])) late
    | cancelled done rest state =>
        have told := plays.told state
        simp at told

end PlayerDeck

end DroneSession
