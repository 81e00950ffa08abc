import Mathlib.Data.List.Induction
import DroneSession.Subscription.Throttle

namespace DroneSession

/-!
# What a throttle hands on

A throttle owes its subscriber at most the newest value that it was given.  So what it hands on
comes in the order of the source and never twice, each value is the newest at its time, and every
tick that is used up brings one value.  The throttle ends only behind its source, and then the last
value of the source was handed on.
-/

namespace StreamAnswer

variable {α : Type}

/-- The value of an answer that brings one. -/
def item? : StreamAnswer α → Option α
  | .item value => some value
  | .pending => none
  | .ended => none

/-- The values of a source, which has none behind its end. -/
def itemsOf : List (StreamAnswer α) → List α
  | [] => []
  | .item value :: answers => value :: itemsOf answers
  | .pending :: answers => itemsOf answers
  | .ended :: _ => []

/-- Behind its end a source has no values. -/
theorem itemsOf_append_of_ended
    {answers : List (StreamAnswer α)}
    (ended : .ended ∈ answers)
    (others : List (StreamAnswer α)) :
    itemsOf (answers ++ others) = itemsOf answers := by
  induction answers with
  | nil => cases ended
  | cons answer answers inductionHypothesis =>
      cases answer with
      | item value =>
          have later : .ended ∈ answers := by simpa using ended
          simp only [List.cons_append, itemsOf, inductionHypothesis later]
      | pending =>
          have later : .ended ∈ answers := by simpa using ended
          simp only [List.cons_append, itemsOf, inductionHypothesis later]
      | ended => rfl

theorem itemsOf_append_of_not_ended
    {answers : List (StreamAnswer α)}
    (goesOn : .ended ∉ answers)
    (others : List (StreamAnswer α)) :
    itemsOf (answers ++ others) = itemsOf answers ++ itemsOf others := by
  induction answers with
  | nil => rfl
  | cons answer answers inductionHypothesis =>
      have goesOnBehind : .ended ∉ answers := fun later => goesOn (List.mem_cons_of_mem _ later)
      cases answer with
      | item value =>
          simp only [List.cons_append, itemsOf, inductionHypothesis goesOnBehind]
      | pending =>
          simp only [List.cons_append, itemsOf, inductionHypothesis goesOnBehind]
      | ended => exact absurd List.mem_cons_self goesOn

end StreamAnswer

/-! ## Handing on the newest value -/

section Relays

variable {α : Type}

/--
Some values were given, of which those in a log were handed on, each with the number of values that
were given by then.  Nothing is owed but the newest value, unless that was handed on already.
-/
structure Relays
    (given : List α)
    (held : Option α)
    (log : List (Nat × α)) :
    Prop where
  ordered : log.Pairwise fun earlier later => earlier.1 < later.1
  newest : ∀ entry ∈ log,
    entry.1 ≤ given.length ∧ (given.take entry.1).getLast? = some entry.2
  nothingOwed : held = none → given.length = (log.getLast?.map Prod.fst).getD 0
  owed : ∀ value, held = some value →
    given.getLast? = some value ∧ ∀ entry ∈ log, entry.1 < given.length

/-- Nothing was given and nothing was handed on. -/
theorem Relays.start : Relays ([] : List α) none [] where
  ordered := .nil
  newest := by simp
  nothingOwed := fun _ => rfl
  owed := by simp

/-- What is given replaces what was owed. -/
theorem Relays.give
    {given : List α}
    {held : Option α}
    {log : List (Nat × α)}
    (relays : Relays given held log)
    (values : List α) :
    Relays (given ++ values) (values.getLast?.or held) log := by
  cases last : values.getLast? with
  | none =>
      obtain rfl := List.getLast?_eq_none_iff.mp last
      rw [List.append_nil, Option.none_or]
      exact relays
  | some newest =>
      have nonempty : 0 < values.length := by
        rw [List.length_pos_iff]
        rintro rfl
        cases last
      refine ⟨relays.ordered, ?_, by simp, ?_⟩
      · intro entry member
        obtain ⟨within, value⟩ := relays.newest entry member
        rw [List.take_append_of_le_length within, List.length_append]
        exact ⟨Nat.le_add_right_of_le within, value⟩
      · intro value same
        rw [Option.some_or] at same
        refine ⟨?_, ?_⟩
        · rw [List.getLast?_append, last, Option.some_or, same]
        · intro entry member
          have within := (relays.newest entry member).1
          rw [List.length_append]
          omega

/-- Handing on what is owed leaves nothing owed. -/
theorem Relays.hand
    {given : List α}
    {value : α}
    {log : List (Nat × α)}
    (relays : Relays given (some value) log) :
    Relays given none (log ++ [(given.length, value)]) := by
  obtain ⟨newest, earlier⟩ := relays.owed value rfl
  refine ⟨?_, ?_, ?_, by simp⟩
  · refine List.pairwise_append.mpr ⟨relays.ordered, List.pairwise_singleton _ _, ?_⟩
    intro entry member other last
    rw [List.mem_singleton.mp last]
    exact earlier entry member
  · intro entry member
    rcases List.mem_append.mp member with before | last
    · exact relays.newest entry before
    · rw [List.mem_singleton.mp last, List.take_length]
      exact ⟨Nat.le_refl _, newest⟩
  · intro _
    rw [List.getLast?_concat]
    rfl

/-- Values at growing positions come in the order of the list. -/
theorem sublist_of_positions
    {given : List α}
    {log : List (Nat × α)}
    (ordered : log.Pairwise fun earlier later => earlier.1 < later.1)
    (newest : ∀ entry ∈ log,
      entry.1 ≤ given.length ∧ (given.take entry.1).getLast? = some entry.2) :
    (log.map Prod.snd).Sublist given := by
  induction log using List.reverseRecOn generalizing given with
  | nil => exact List.nil_sublist given
  | append_singleton log entry inductionHypothesis =>
      obtain ⟨orderedFront, -, before⟩ := List.pairwise_append.mp ordered
      obtain ⟨within, last⟩ := newest entry (by simp)
      obtain ⟨front, parts⟩ := List.getLast?_eq_some_iff.mp last
      have size := congrArg List.length parts
      rw [List.length_take, Nat.min_eq_left within, List.length_append, List.length_singleton]
        at size
      -- The values of the earlier positions lie in front of the last one.
      have inFront : (log.map Prod.snd).Sublist front := by
        refine inductionHypothesis orderedFront ?_
        intro earlier member
        obtain ⟨-, value⟩ := newest earlier (List.mem_append_left _ member)
        have position := before earlier member entry (List.mem_singleton_self entry)
        have inside : earlier.1 ≤ front.length := by
          omega
        refine ⟨inside, ?_⟩
        rw [← value, ← List.take_append_of_le_length inside, ← parts, List.take_take,
          Nat.min_eq_left (Nat.le_of_lt position)]
      rw [List.map_append, List.map_singleton]
      refine (inFront.append (List.Sublist.refl [entry.2])).trans ?_
      rw [← parts]
      exact List.take_sublist entry.1 given

/-- If nothing is owed, the value that was handed on last is the last that was given. -/
theorem Relays.last
    {given : List α}
    {log : List (Nat × α)}
    (relays : Relays given none log) :
    (log.map Prod.snd).getLast? = given.getLast? := by
  have position := relays.nothingOwed rfl
  cases last : log.getLast? with
  | none =>
      rw [last] at position
      obtain rfl := List.length_eq_zero_iff.mp position
      rw [List.getLast?_map, last]
      rfl
  | some entry =>
      rw [last] at position
      obtain ⟨-, newest⟩ := relays.newest entry (List.mem_of_getLast? last)
      have whole : given.take entry.1 = given := List.take_of_length_le (Nat.le_of_eq position)
      rw [whole] at newest
      rw [List.getLast?_map, last, newest]
      rfl

end Relays

/-! ## One poll -/

namespace Throttle

variable {α : Type}

/-- What a throttle takes in: the answers up to the next pause or the end of its source. -/
theorem exists_drained
    (throttle : Throttle α)
    (script : List (StreamAnswer α)) :
    ∃ used : List (StreamAnswer α),
      script = used ++ (throttle.drain script).2 ∧
      (throttle.drain script).1.held = (StreamAnswer.itemsOf used).getLast?.or throttle.held ∧
      ((throttle.drain script).1.sourceEnded = true ↔
        throttle.sourceEnded = true ∨ .ended ∈ used) := by
  induction script generalizing throttle with
  | nil => exact ⟨[], rfl, rfl, by simp [drain]⟩
  | cons answer script inductionHypothesis =>
      cases answer with
      | item value =>
          obtain ⟨used, parts, held, ended⟩ := inductionHypothesis { throttle with held := some value }
          refine ⟨.item value :: used, congrArg (_ :: ·) parts, ?_, ?_⟩
          · rw [drain, held, StreamAnswer.itemsOf]
            cases last : (StreamAnswer.itemsOf used).getLast? <;> simp [List.getLast?_cons, last]
          · rw [drain, ended]
            simp
      | pending => exact ⟨[.pending], rfl, rfl, by simp [drain]⟩
      | ended => exact ⟨[.ended], rfl, rfl, by simp [drain]⟩

/-- What a poll takes in; a source that has ended is not asked again. -/
theorem exists_absorbed
    (throttle : Throttle α)
    (script : List (StreamAnswer α)) :
    ∃ used : List (StreamAnswer α),
      script = used ++ (throttle.absorb script).2 ∧
      (throttle.absorb script).1.held = (StreamAnswer.itemsOf used).getLast?.or throttle.held ∧
      ((throttle.absorb script).1.sourceEnded = true ↔
        throttle.sourceEnded = true ∨ .ended ∈ used) ∧
      (throttle.sourceEnded = true → used = []) := by
  unfold absorb
  cases ended : throttle.sourceEnded with
  | true => exact ⟨[], rfl, rfl, by simp [ended], fun _ => rfl⟩
  | false =>
      obtain ⟨used, parts, held, endedNow⟩ := throttle.exists_drained script
      rw [ended] at endedNow
      exact ⟨used, parts, held, endedNow, by simp⟩

/-- Behind the end of its source a throttle takes in nothing. -/
theorem absorb_of_ended
    {throttle : Throttle α}
    (ended : throttle.sourceEnded = true)
    {script : List (StreamAnswer α)} :
    throttle.absorb script = (throttle, script) := by
  rw [absorb, if_pos ended]

/-- Everything that a poll can come to, once the throttle has taken in what its source has. -/
inductive PollCase
    (absorbed : Throttle α)
    (rest : List (StreamAnswer α))
    (tickReady : Bool) :
    Polled α → Prop where
  | idle
      (nothing : absorbed.held = none)
      (goesOn : absorbed.sourceEnded = false) :
      PollCase absorbed rest tickReady ⟨absorbed, rest, .pending⟩
  | finished
      (nothing : absorbed.held = none)
      (ended : absorbed.sourceEnded = true) :
      PollCase absorbed rest tickReady ⟨absorbed, rest, .ended⟩
  | handed
      (value : α)
      (held : absorbed.held = some value)
      (ready : tickReady = true) :
      PollCase absorbed rest tickReady ⟨{ absorbed with held := none }, rest, .item value⟩
  | waiting
      (value : α)
      (held : absorbed.held = some value)
      (early : tickReady = false) :
      PollCase absorbed rest tickReady ⟨absorbed, rest, .pending⟩

/-- Every poll is one of the cases of what it can come to. -/
theorem pollCase
    (throttle : Throttle α)
    (tickReady : Bool)
    (script : List (StreamAnswer α)) :
    PollCase (throttle.absorb script).1 (throttle.absorb script).2 tickReady
      (throttle.poll tickReady script) := by
  unfold poll
  generalize throttle.absorb script = absorption
  obtain ⟨absorbed, rest⟩ := absorption
  cases held : absorbed.held with
  | none =>
      cases ended : absorbed.sourceEnded with
      | true =>
          simp only [held, ended, if_true]
          exact .finished held ended
      | false =>
          simp only [held, ended, Bool.false_eq_true, if_false]
          exact .idle held ended
  | some value =>
      cases tickReady with
      | true =>
          simp only [held, if_true]
          exact .handed value held rfl
      | false =>
          simp only [held, Bool.false_eq_true, if_false]
          exact .waiting value held rfl

/-- No case of a poll takes in anything more, or forgets that the source has ended. -/
theorem PollCase.kept
    {absorbed : Throttle α}
    {rest : List (StreamAnswer α)}
    {tickReady : Bool}
    {polled : Polled α}
    (outcome : PollCase absorbed rest tickReady polled) :
    polled.script = rest ∧ polled.throttle.sourceEnded = absorbed.sourceEnded := by
  cases outcome <;> exact ⟨rfl, rfl⟩

/-- The end is answered exactly if the source has ended and nothing is owed. -/
theorem PollCase.ended_iff
    {absorbed : Throttle α}
    {rest : List (StreamAnswer α)}
    {tickReady : Bool}
    {polled : Polled α}
    (outcome : PollCase absorbed rest tickReady polled) :
    polled.answer = .ended ↔ absorbed.held = none ∧ absorbed.sourceEnded = true := by
  cases outcome with
  | idle nothing goesOn => simp [goesOn]
  | finished nothing ended => simp [nothing, ended]
  | handed value held ready => simp [held]
  | waiting value held early => simp [held]

/-- A value is handed on exactly if one is owed and the ticker is ready. -/
theorem PollCase.item_iff
    {absorbed : Throttle α}
    {rest : List (StreamAnswer α)}
    {tickReady : Bool}
    {polled : Polled α}
    (outcome : PollCase absorbed rest tickReady polled)
    {value : α} :
    polled.answer = .item value ↔ absorbed.held = some value ∧ tickReady = true := by
  cases outcome with
  | idle nothing goesOn => simp [nothing]
  | finished nothing ended => simp [nothing]
  | handed other held ready => simp [held, ready]
  | waiting other held early => simp [early]

/-- A value that was handed on is owed no more. -/
theorem PollCase.held_of_item
    {absorbed : Throttle α}
    {rest : List (StreamAnswer α)}
    {tickReady : Bool}
    {polled : Polled α}
    (outcome : PollCase absorbed rest tickReady polled)
    {value : α}
    (handed : polled.answer = .item value) :
    polled.throttle.held = none := by
  cases outcome with
  | idle nothing goesOn => exact nothing
  | finished nothing ended => exact nothing
  | handed other held ready => rfl
  | waiting other held early => cases handed

/-- The entry of an answer in a log, if it hands on a value. -/
def entryOf?
    (given : List α)
    (answer : StreamAnswer α) :
    Option (Nat × α) :=
  answer.item?.map fun value => (given.length, value)

/-- A poll hands on the newest value or still owes it. -/
theorem PollCase.relays
    {absorbed : Throttle α}
    {rest : List (StreamAnswer α)}
    {tickReady : Bool}
    {polled : Polled α}
    (outcome : PollCase absorbed rest tickReady polled)
    {given : List α}
    {log : List (Nat × α)}
    (relays : Relays given absorbed.held log) :
    Relays given polled.throttle.held (log ++ (entryOf? given polled.answer).toList) := by
  cases outcome with
  | idle nothing goesOn => simpa [entryOf?, StreamAnswer.item?] using relays
  | finished nothing ended => simpa [entryOf?, StreamAnswer.item?] using relays
  | waiting value held early => simpa [entryOf?, StreamAnswer.item?] using relays
  | handed value held ready =>
      rw [held] at relays
      exact relays.hand

end Throttle

/-! ## Many polls -/

/-- A throttle, the answers that its source will give and those that its ticker will give. -/
structure Throttling (α : Type) where
  throttle : Throttle α
  script : List (StreamAnswer α)
  /-- Whether the ticker is ready, for each time that it is asked. -/
  ticks : List Bool

namespace Throttling

variable {α : Type}

/-- A throttle before its first poll. -/
def start
    (script : List (StreamAnswer α))
    (ticks : List Bool) :
    Throttling α where
  throttle := .start
  script := script
  ticks := ticks

/-- Whether a poll asks the ticker: only if a value waits for it. -/
def asksTicker (throttling : Throttling α) : Bool :=
  (throttling.throttle.absorb throttling.script).1.held.isSome

/-- What a poll comes to; a ticker that has nothing more to say is not ready. -/
def polled (throttling : Throttling α) : Polled α :=
  throttling.throttle.poll (throttling.ticks.headD false) throttling.script

/-- What is left after one poll. -/
def next (throttling : Throttling α) : Throttling α where
  throttle := throttling.polled.throttle
  script := throttling.polled.script
  ticks := if throttling.asksTicker then throttling.ticks.drop 1 else throttling.ticks

/-- What is left after some polls. -/
def after (throttling : Throttling α) : (polls : Nat) → Throttling α
  | 0 => throttling
  | polls + 1 => (throttling.after polls).next

/-- The answer to a poll; the first has the number zero. -/
def answer
    (throttling : Throttling α)
    (poll : Nat) :
    StreamAnswer α :=
  (throttling.after poll).polled.answer

/-- The answers that the source has given in some polls. -/
def asked
    (throttling : Throttling α)
    (polls : Nat) :
    List (StreamAnswer α) :=
  throttling.script.take (throttling.script.length - (throttling.after polls).script.length)

/-- The values that the source has delivered in some polls. -/
def delivered
    (throttling : Throttling α)
    (polls : Nat) :
    List α :=
  StreamAnswer.itemsOf (throttling.asked polls)

/-- The values that some polls hand on, each with the number of values delivered by then. -/
def handedOn (throttling : Throttling α) : (polls : Nat) → List (Nat × α)
  | 0 => []
  | polls + 1 =>
      throttling.handedOn polls
        ++ (Throttle.entryOf? (throttling.delivered (polls + 1)) (throttling.answer polls)).toList

/-- The ticks that some polls use up. -/
def ticksUsed
    (throttling : Throttling α)
    (polls : Nat) :
    Nat :=
  (throttling.ticks.take
    (throttling.ticks.length - (throttling.after polls).ticks.length)).count true

/-- What a throttle has done in some polls. -/
structure Progress
    (throttling : Throttling α)
    (polls : Nat) :
    Prop where
  parts : throttling.script = throttling.asked polls ++ (throttling.after polls).script
  ended : (throttling.after polls).throttle.sourceEnded = true ↔ .ended ∈ throttling.asked polls
  relays : Relays (throttling.delivered polls) (throttling.after polls).throttle.held
    (throttling.handedOn polls)

/-- The answers that were asked for are those that are gone from the source. -/
theorem asked_eq
    {throttling : Throttling α}
    {polls : Nat}
    {used : List (StreamAnswer α)}
    (parts : throttling.script = used ++ (throttling.after polls).script) :
    throttling.asked polls = used := by
  have size := congrArg List.length parts
  rw [List.length_append] at size
  have count : throttling.script.length - (throttling.after polls).script.length = used.length := by
    omega
  rw [asked, count, parts, List.take_left' rfl]

/-- Before the first poll nothing was taken in or handed on. -/
theorem progress_start
    (script : List (StreamAnswer α))
    (ticks : List Bool) :
    (start script ticks).Progress 0 := by
  have nothing : (start script ticks).asked 0 = [] := asked_eq rfl
  refine ⟨by rw [nothing]; rfl, by rw [nothing]; simp [after, start, Throttle.start], ?_⟩
  rw [delivered, nothing]
  exact .start

/-- What a throttle has when it has taken in the answers of one poll more. -/
structure TakesIn
    (throttling : Throttling α)
    (polls : Nat)
    (absorbed : Throttle α) :
    Prop where
  parts : throttling.script =
    throttling.asked (polls + 1) ++ (throttling.after (polls + 1)).script
  ended : absorbed.sourceEnded = true ↔ .ended ∈ throttling.asked (polls + 1)
  relays : Relays (throttling.delivered (polls + 1)) absorbed.held (throttling.handedOn polls)

/-- A poll takes in what its source has. -/
theorem Progress.takesIn
    {throttling : Throttling α}
    {polls : Nat}
    (progress : throttling.Progress polls) :
    throttling.TakesIn polls
      ((throttling.after polls).throttle.absorb (throttling.after polls).script).1 := by
  obtain ⟨used, parts, held, ended, still⟩ :=
    (throttling.after polls).throttle.exists_absorbed (throttling.after polls).script
  have rest : (throttling.after (polls + 1)).script =
      ((throttling.after polls).throttle.absorb (throttling.after polls).script).2 :=
    ((throttling.after polls).throttle.pollCase _ _).kept.1
  have whole : throttling.script =
      (throttling.asked polls ++ used) ++ (throttling.after (polls + 1)).script := by
    rw [rest, List.append_assoc, ← parts]
    exact progress.parts
  have asked := asked_eq whole
  have delivered : throttling.delivered (polls + 1) =
      throttling.delivered polls ++ StreamAnswer.itemsOf used := by
    rw [Throttling.delivered, asked]
    by_cases endedBefore : .ended ∈ throttling.asked polls
    · rw [still (progress.ended.mpr endedBefore), List.append_nil]
      exact (List.append_nil _).symm
    · exact StreamAnswer.itemsOf_append_of_not_ended endedBefore used
  refine ⟨?_, ?_, ?_⟩
  · rw [asked]
    exact whole
  · rw [ended, progress.ended, asked, List.mem_append]
  · rw [delivered, held]
    exact progress.relays.give (StreamAnswer.itemsOf used)

/-- A poll that has taken in its source makes progress by one. -/
theorem TakesIn.progress
    {throttling : Throttling α}
    {polls : Nat}
    (takesIn : throttling.TakesIn polls
      ((throttling.after polls).throttle.absorb (throttling.after polls).script).1) :
    throttling.Progress (polls + 1) := by
  have outcome := (throttling.after polls).throttle.pollCase
    ((throttling.after polls).ticks.headD false) (throttling.after polls).script
  refine ⟨takesIn.parts, ?_, outcome.relays takesIn.relays⟩
  rw [← takesIn.ended, ← outcome.kept.2]
  rfl

/-- However many polls were made, the throttle has made progress by as many. -/
theorem progress
    (script : List (StreamAnswer α))
    (ticks : List Bool)
    (polls : Nat) :
    (start script ticks).Progress polls := by
  induction polls with
  | zero => exact progress_start script ticks
  | succ polls inductionHypothesis => exact inductionHypothesis.takesIn.progress

/-- One poll takes a tick exactly if it hands on a value. -/
theorem exists_taken
    (throttling : Throttling α)
    (given : List α) :
    ∃ taken, throttling.ticks = taken ++ throttling.next.ticks ∧
      taken.count true =
        (Throttle.entryOf? given throttling.polled.answer).toList.length := by
  have outcome := throttling.throttle.pollCase (throttling.ticks.headD false) throttling.script
  have asks : throttling.asksTicker =
      (throttling.throttle.absorb throttling.script).1.held.isSome := rfl
  rw [polled, next, asks]
  generalize throttling.throttle.poll (throttling.ticks.headD false) throttling.script = polled
    at outcome
  cases outcome with
  | idle nothing goesOn => exact ⟨[], by simp [nothing], rfl⟩
  | finished nothing ended => exact ⟨[], by simp [nothing], rfl⟩
  | handed value held ready =>
      cases waiting : throttling.ticks with
      | nil => simp [waiting] at ready
      | cons tick ticks =>
          rw [waiting, List.headD_cons] at ready
          exact ⟨[tick], by simp [held], by simp [ready, Throttle.entryOf?, StreamAnswer.item?]⟩
  | waiting value held early =>
      cases waiting : throttling.ticks with
      | nil => exact ⟨[], by simp, rfl⟩
      | cons tick ticks =>
          rw [waiting, List.headD_cons] at early
          exact ⟨[tick], by simp [held], by simp [early, Throttle.entryOf?, StreamAnswer.item?]⟩

/-- Every tick that is used up brings one value. -/
theorem exists_ticksUsed
    (throttling : Throttling α)
    (polls : Nat) :
    ∃ used, throttling.ticks = used ++ (throttling.after polls).ticks ∧
      used.count true = (throttling.handedOn polls).length := by
  induction polls with
  | zero => exact ⟨[], rfl, rfl⟩
  | succ polls inductionHypothesis =>
      obtain ⟨used, parts, count⟩ := inductionHypothesis
      obtain ⟨taken, rest, brought⟩ := (throttling.after polls).exists_taken
        (throttling.delivered (polls + 1))
      refine ⟨used ++ taken, ?_, ?_⟩
      · rw [List.append_assoc, after, ← rest]
        exact parts
      · rw [List.count_append, count, brought, handedOn, List.length_append]
        rfl

end Throttling

/-- How a throttle treats the values of a source, whatever the source and the ticker answer. -/
structure LatestWins
    {α : Type}
    (script : List (StreamAnswer α))
    (ticks : List Bool) :
    Prop where
  /-- What is handed on stands at growing positions of the source. -/
  ordered : ∀ polls, ((Throttling.start script ticks).handedOn polls).Pairwise
    fun earlier later => earlier.1 < later.1
  subsequence : ∀ polls, (((Throttling.start script ticks).handedOn polls).map Prod.snd).Sublist
    (StreamAnswer.itemsOf script)
  /-- What a poll hands on is the newest value that the source had delivered by then. -/
  newest : ∀ poll value, (Throttling.start script ticks).answer poll = .item value →
    ((Throttling.start script ticks).delivered (poll + 1)).getLast? = some value
  /-- Every value takes one tick, and no tick is used up otherwise. -/
  ticked : ∀ polls, (Throttling.start script ticks).ticksUsed polls =
    ((Throttling.start script ticks).handedOn polls).length
  /-- The end comes only behind the end of the source. -/
  goesOn : ∀ poll, (Throttling.start script ticks).answer poll = .ended →
    .ended ∈ (Throttling.start script ticks).asked (poll + 1)
  /-- Before the end comes the last value of the source. -/
  complete : ∀ poll, (Throttling.start script ticks).answer poll = .ended →
    (((Throttling.start script ticks).handedOn poll).map Prod.snd).getLast? =
      (StreamAnswer.itemsOf script).getLast?
  /-- Once the source has ended, the next tick brings the end or the value in front of it. -/
  ends : ∀ polls, .ended ∈ (Throttling.start script ticks).asked polls →
    ((Throttling.start script ticks).after polls).ticks.head? = some true →
    (Throttling.start script ticks).answer polls = .ended ∨
      (Throttling.start script ticks).answer (polls + 1) = .ended

namespace Throttling

variable {α : Type}

/-- A throttle uses up one tick for each value that it hands on. -/
theorem ticksUsed_eq
    (throttling : Throttling α)
    (polls : Nat) :
    throttling.ticksUsed polls = (throttling.handedOn polls).length := by
  obtain ⟨used, parts, count⟩ := throttling.exists_ticksUsed polls
  have size := congrArg List.length parts
  rw [List.length_append] at size
  have taken : throttling.ticks.length - (throttling.after polls).ticks.length = used.length := by
    omega
  rw [ticksUsed, taken, ← count]
  refine congrArg (List.count true) ?_
  rw [parts]
  exact List.take_left' rfl

/-- What the source has delivered are its first values. -/
theorem Progress.isPrefix_delivered
    {throttling : Throttling α}
    {polls : Nat}
    (progress : throttling.Progress polls) :
    throttling.delivered polls <+: StreamAnswer.itemsOf throttling.script := by
  rw [progress.parts]
  by_cases ended : .ended ∈ throttling.asked polls
  · rw [StreamAnswer.itemsOf_append_of_ended ended]
    exact List.prefix_refl _
  · rw [StreamAnswer.itemsOf_append_of_not_ended ended]
    exact List.prefix_append _ _

/-- Once the source has ended, a tick brings the value that is owed, and then the end. -/
theorem ended_of_ready
    {throttling : Throttling α}
    {polls : Nat}
    (ended : (throttling.after polls).throttle.sourceEnded = true)
    (ready : (throttling.after polls).ticks.head? = some true) :
    throttling.answer polls = .ended ∨ throttling.answer (polls + 1) = .ended := by
  have tick : (throttling.after polls).ticks.headD false = true := by
    rw [List.headD_eq_head?_getD, ready]
    rfl
  have outcome := (throttling.after polls).throttle.pollCase
    ((throttling.after polls).ticks.headD false) (throttling.after polls).script
  rw [Throttle.absorb_of_ended ended] at outcome
  cases held : (throttling.after polls).throttle.held with
  | none => exact .inl (outcome.ended_iff.mpr ⟨held, ended⟩)
  | some value =>
      right
      have handed := outcome.item_iff.mpr ⟨held, tick⟩
      have endedStill : (throttling.after (polls + 1)).throttle.sourceEnded = true :=
        outcome.kept.2.trans ended
      have outcomeNext := (throttling.after (polls + 1)).throttle.pollCase
        ((throttling.after (polls + 1)).ticks.headD false) (throttling.after (polls + 1)).script
      rw [Throttle.absorb_of_ended endedStill] at outcomeNext
      exact outcomeNext.ended_iff.mpr ⟨outcome.held_of_item handed, endedStill⟩

/-- A throttle hands on the newest value of its source, and at last the last one. -/
theorem latestWins
    (script : List (StreamAnswer α))
    (ticks : List Bool) :
    LatestWins script ticks := by
  have progress := progress script ticks
  have outcome : ∀ polls, Throttle.PollCase
      (((start script ticks).after polls).throttle.absorb
        ((start script ticks).after polls).script).1 _ _ ((start script ticks).after polls).polled :=
    fun polls => Throttle.pollCase _ _ _
  refine ⟨?_, ?_, ?_, ticksUsed_eq _, ?_, ?_, ?_⟩
  · exact fun polls => (progress polls).relays.ordered
  · intro polls
    exact (sublist_of_positions (progress polls).relays.ordered (progress polls).relays.newest).trans
      (progress polls).isPrefix_delivered.sublist
  · intro poll value answered
    have held := ((outcome poll).item_iff.mp answered).1
    exact ((progress poll).takesIn.relays.owed value held).1
  · intro poll answered
    exact (progress poll).takesIn.ended.mp ((outcome poll).ended_iff.mp answered).2
  · intro poll answered
    obtain ⟨nothing, ended⟩ := (outcome poll).ended_iff.mp answered
    have takesIn := (progress poll).takesIn
    have relays := takesIn.relays
    rw [nothing] at relays
    have all : StreamAnswer.itemsOf script = (start script ticks).delivered (poll + 1) :=
      (congrArg StreamAnswer.itemsOf takesIn.parts).trans
        (StreamAnswer.itemsOf_append_of_ended (takesIn.ended.mp ended) _)
    rw [relays.last, all]
  · intro polls ended ready
    exact ended_of_ready ((progress polls).ended.mpr ended) ready

/-- Of a burst only the newest value comes through, at the tick behind it. -/
example :
    ((start [.item 1, .item 2, .pending, .item 3, .ended] [false, true, true]).handedOn 4) =
      [(3, 3)] := by
  decide

end Throttling

end DroneSession
