import DroneSession.Proofs.Subscription.Throttling
import DroneSession.Subscription.Basic

namespace DroneSession

/-!
# What a subscriber sees of a slot

A slot answers a reader with the newest value that the reader has not seen.  So a subscriber, with a
throttle or without, gets values in the order in which they were published and none twice, each the
newest at its time, and once the writer is gone it gets the last value and then the end.
-/

/-- What can happen to a slot and a subscriber of it. -/
inductive SlotEvent (α : Type) where
  | publish (value : α)
  /-- The writer goes, and nothing is published any more. -/
  | close
  /-- The subscriber asks for a value. -/
  | poll (tickReady : Bool)
  deriving Repr, DecidableEq

/-- A slot, one subscriber of it and what the subscriber has got. -/
structure Subscriber (α : Type) where
  slot : Slot α
  closed : Bool
  subscription : Subscription α
  /-- The values that the subscriber got, each with the number of values published by then. -/
  received : List (Nat × α)
  /-- Whether the subscriber was told that there is nothing more. -/
  ended : Bool

namespace Subscriber

variable {α : Type}

/-- A subscriber of a slot that may hold some values already. -/
def start
    (rate : UpdateRate)
    (sourceHertz : Float)
    (slot : Slot α) :
    Subscriber α where
  slot := slot
  closed := false
  subscription := .start rate sourceHertz
  received := []
  ended := false

/-- What a subscriber has once a poll has answered. -/
def hear
    (subscriber : Subscriber α)
    (subscription : Subscription α)
    (answer : StreamAnswer α) :
    Subscriber α :=
  { subscriber with
    subscription := subscription
    received :=
      subscriber.received ++ (Throttle.entryOf? subscriber.slot.published answer).toList
    ended := subscriber.ended || (answer matches .ended) }

/-- What an event makes of a slot and its subscriber. -/
def undergo (subscriber : Subscriber α) : SlotEvent α → Subscriber α
  | .publish value =>
      if subscriber.closed then
        subscriber
      else
        { subscriber with slot := subscriber.slot.publish value }
  | .close => { subscriber with closed := true }
  | .poll tickReady =>
      let (subscription, answer) :=
        subscriber.subscription.poll subscriber.slot subscriber.closed tickReady
      subscriber.hear subscription answer

/-- A slot and its subscriber after some events. -/
def run
    (subscriber : Subscriber α)
    (events : List (SlotEvent α)) :
    Subscriber α :=
  events.foldl undergo subscriber

end Subscriber

namespace Subscription

variable {α : Type}

/-- A slot answers with the newest of the values that were not seen. -/
theorem sourceAnswer_eq
    (slot : Slot α)
    (closed : Bool)
    (seen : Nat) :
    sourceAnswer slot closed seen =
      match (slot.published.drop seen).getLast? with
      | some newest => .item newest
      | none => if closed then .ended else .pending := by
  unfold sourceAnswer
  cases history : slot.history with
  | nil => simp [Slot.published, history]
  | cons newest older =>
      have published : slot.published = older.reverse ++ [newest] := by
        rw [Slot.published, history, List.reverse_cons]
      dsimp only
      by_cases unseen : seen ≤ older.length
      · rw [if_pos unseen, published, List.drop_append_of_le_length (by simpa using unseen),
          List.getLast?_concat]
      · have all : slot.published.drop seen = [] := by
          rw [List.drop_eq_nil_iff, published, List.length_append, List.length_reverse,
            List.length_singleton]
          omega
        rw [if_neg unseen, all]
        rfl

/-- The value that a subscription has taken from its slot and not handed on. -/
def held (subscription : Subscription α) : Option α :=
  subscription.throttle.bind Throttle.held

/-- The newest value that a subscriber of a slot is owed. -/
def owed?
    (subscription : Subscription α)
    (slot : Slot α) :
    Option α :=
  (slot.published.drop subscription.seen).getLast?.or subscription.held

/-- A subscriber that has seen everything and holds nothing is owed nothing. -/
theorem owed?_of_seen
    {subscription : Subscription α}
    {slot : Slot α}
    (seen : subscription.seen = slot.published.length)
    (held : subscription.held = none) :
    subscription.owed? slot = none := by
  rw [owed?, seen, List.drop_length, held]
  rfl

/-- A throttle whose source has ended has taken in everything from a slot without a writer. -/
def IsTimely
    (subscription : Subscription α)
    (slot : Slot α)
    (closed : Bool) :
    Prop :=
  subscription.seen ≤ slot.published.length ∧
    ∀ throttle, subscription.throttle = some throttle → throttle.sourceEnded = true →
      closed = true ∧ subscription.seen = slot.published.length

/-- A poll has seen everything that was published. -/
theorem IsTimely.max_seen
    {subscription : Subscription α}
    {slot : Slot α}
    {closed : Bool}
    (timely : subscription.IsTimely slot closed) :
    max subscription.seen slot.history.length = slot.published.length := by
  rw [← slot.length_published, Nat.max_eq_right timely.1]

/-- What a poll comes to: the newest value is handed on or still owed. -/
structure Polls
    (subscription : Subscription α)
    (slot : Slot α)
    (closed tickReady : Bool)
    (next : Subscription α)
    (answer : StreamAnswer α) :
    Prop where
  seen : next.seen = slot.published.length
  timely : next.IsTimely slot closed
  nothing : subscription.owed? slot = none →
    answer = (if closed then .ended else .pending) ∧ next.held = none
  value : ∀ value, subscription.owed? slot = some value →
    answer = .item value ∧ next.held = none ∨
      answer = .pending ∧ next.held = some value ∧ tickReady = false

/-- The end is answered only by a slot without a writer, of which everything was handed on. -/
theorem Polls.finished
    {subscription next : Subscription α}
    {slot : Slot α}
    {closed tickReady : Bool}
    (polls : subscription.Polls slot closed tickReady next .ended) :
    closed = true ∧ subscription.owed? slot = none := by
  cases owed : subscription.owed? slot with
  | none =>
      have answered := (polls.nothing owed).1
      cases closed with
      | true => exact ⟨rfl, rfl⟩
      | false => cases answered
  | some value =>
      rcases polls.value value owed with ⟨handed, -⟩ | ⟨waits, -⟩
      · cases handed
      · cases waits

/--
What a throttle takes in from a slot: the newest value, and the end of a slot without a writer.
-/
theorem absorb_answers
    {throttle : Throttle α}
    {slot : Slot α}
    {closed : Bool}
    {seen : Nat}
    (timely : throttle.sourceEnded = true → closed = true ∧ seen = slot.published.length) :
    ((throttle.absorb [sourceAnswer slot closed seen,
        sourceAnswer slot closed slot.history.length]).1.held =
      (slot.published.drop seen).getLast?.or throttle.held) ∧
    (throttle.absorb [sourceAnswer slot closed seen,
        sourceAnswer slot closed slot.history.length]).1.sourceEnded = closed := by
  have all : slot.published.drop slot.history.length = [] := by
    rw [← slot.length_published, List.drop_length]
  rw [sourceAnswer_eq, sourceAnswer_eq, all]
  cases ended : throttle.sourceEnded with
  | true =>
      obtain ⟨rfl, rfl⟩ := timely ended
      rw [Throttle.absorb_of_ended ended, List.drop_length]
      exact ⟨rfl, ended⟩
  | false =>
      cases newest : (slot.published.drop seen).getLast? <;> cases closed <;>
        simp [Throttle.absorb, Throttle.drain, ended]

/-- A subscription without a throttle hands on what it is owed at once. -/
theorem polls_of_native
    {subscription : Subscription α}
    (native : subscription.throttle = none)
    {slot : Slot α}
    {closed : Bool}
    (timely : subscription.IsTimely slot closed)
    (tickReady : Bool) :
    subscription.Polls slot closed tickReady (subscription.poll slot closed tickReady).1
      (subscription.poll slot closed tickReady).2 := by
  have owed : subscription.owed? slot = (slot.published.drop subscription.seen).getLast? := by
    rw [owed?, held, native]
    exact Option.or_none
  have polled : subscription.poll slot closed tickReady =
      ({ subscription with seen := slot.published.length },
        sourceAnswer slot closed subscription.seen) := by
    rw [poll, native, ← timely.max_seen]
  have heldNext : held { subscription with seen := slot.published.length } = none := by
    rw [held, native]
    rfl
  rw [polled, sourceAnswer_eq]
  refine ⟨rfl, ⟨Nat.le_refl _, ?_⟩, ?_, ?_⟩
  · intro throttle throttled
    rw [native] at throttled
    cases throttled
  · intro nothing
    rw [← owed, nothing]
    exact ⟨rfl, heldNext⟩
  · intro value some
    rw [← owed, some]
    exact .inl ⟨rfl, heldNext⟩

/-- A throttle hands on what it is owed at a tick, and keeps it until then. -/
theorem polls_of_throttled
    {subscription : Subscription α}
    {throttle : Throttle α}
    (throttled : subscription.throttle = some throttle)
    {slot : Slot α}
    {closed : Bool}
    (timely : subscription.IsTimely slot closed)
    (tickReady : Bool) :
    subscription.Polls slot closed tickReady (subscription.poll slot closed tickReady).1
      (subscription.poll slot closed tickReady).2 := by
  obtain ⟨held, ended⟩ := absorb_answers (timely.2 throttle throttled)
  have owed : subscription.owed? slot =
      (slot.published.drop subscription.seen).getLast?.or throttle.held := by
    rw [owed?, Subscription.held, throttled]
    rfl
  rw [← owed] at held
  have outcome := throttle.pollCase tickReady
    [sourceAnswer slot closed subscription.seen, sourceAnswer slot closed slot.history.length]
  rw [poll, throttled]
  dsimp only
  rw [timely.max_seen]
  generalize throttle.absorb _ = absorption at held ended outcome
  generalize throttle.poll _ _ = polled at outcome
  have keepsEnd := outcome.kept.2.trans ended
  refine ⟨rfl, ⟨Nat.le_refl _, ?_⟩, ?_, ?_⟩
  · rintro _ ⟨⟩ endedNow
    exact ⟨keepsEnd.symm.trans endedNow, rfl⟩
  · intro nothing
    rw [nothing] at held
    cases outcome with
    | idle _ goesOn =>
        rw [ended] at goesOn
        exact ⟨by simp [goesOn], held⟩
    | finished _ endedNow =>
        rw [ended] at endedNow
        exact ⟨by simp [endedNow], held⟩
    | handed value owes ready => simp [held] at owes
    | waiting value owes early => simp [held] at owes
  · intro value some
    rw [some] at held
    cases outcome with
    | idle nothing goesOn => simp [held] at nothing
    | finished nothing endedNow => simp [held] at nothing
    | handed other owes ready =>
        obtain rfl := Option.some.inj (held.symm.trans owes)
        exact .inl ⟨rfl, rfl⟩
    | waiting other owes early => exact .inr ⟨rfl, held, early⟩

/-- A poll hands on the newest value or still owes it. -/
theorem polls
    {subscription : Subscription α}
    {slot : Slot α}
    {closed : Bool}
    (timely : subscription.IsTimely slot closed)
    (tickReady : Bool) :
    subscription.Polls slot closed tickReady (subscription.poll slot closed tickReady).1
      (subscription.poll slot closed tickReady).2 := by
  cases throttled : subscription.throttle with
  | none => exact polls_of_native throttled timely tickReady
  | some throttle => exact polls_of_throttled throttled timely tickReady

end Subscription

namespace Subscriber

variable {α : Type}

theorem undergo_poll
    (subscriber : Subscriber α)
    (tickReady : Bool) :
    subscriber.undergo (.poll tickReady) =
      subscriber.hear (subscriber.subscription.poll subscriber.slot subscriber.closed tickReady).1
        (subscriber.subscription.poll subscriber.slot subscriber.closed tickReady).2 :=
  rfl

/-! ## Any number of events -/

/-- A subscriber was given what it has seen, and it is told of an end behind everything. -/
structure Follows (subscriber : Subscriber α) : Prop where
  timely : subscriber.subscription.IsTimely subscriber.slot subscriber.closed
  relays : Relays (subscriber.slot.published.take subscriber.subscription.seen)
    subscriber.subscription.held subscriber.received
  ended : subscriber.ended = true →
    subscriber.closed = true ∧
      subscriber.subscription.seen = subscriber.slot.published.length ∧
      subscriber.subscription.held = none

/-- A subscriber of a slot is owed the newest of the values that the slot holds at the start. -/
theorem follows_start
    (rate : UpdateRate)
    (sourceHertz : Float)
    (slot : Slot α) :
    (start rate sourceHertz slot).Follows := by
  have held : (Subscription.start rate sourceHertz : Subscription α).held = none := by
    rw [Subscription.held, Subscription.start]
    cases rate.interval? sourceHertz <;> rfl
  refine ⟨⟨Nat.zero_le _, ?_⟩, ?_, nofun⟩
  · intro throttle throttled ended
    obtain ⟨_, -, rfl⟩ := Option.map_eq_some_iff.mp throttled
    cases ended
  · change Relays [] (Subscription.start rate sourceHertz).held []
    rw [held]
    exact .start

/-- A value that is published is the newest that is owed. -/
theorem Follows.publish
    {subscriber : Subscriber α}
    (follows : subscriber.Follows)
    (value : α) :
    (subscriber.undergo (.publish value)).Follows := by
  unfold undergo
  cases closed : subscriber.closed with
  | true => exact follows
  | false =>
      have notEnded : ∀ throttle, subscriber.subscription.throttle = some throttle →
          throttle.sourceEnded ≠ true := by
        intro throttle throttled ended
        have gone := (follows.timely.2 throttle throttled ended).1
        rw [closed] at gone
        cases gone
      have within := follows.timely.1
      simp only [Bool.false_eq_true, if_false]
      refine ⟨⟨?_, ?_⟩, ?_, ?_⟩
      · rw [Slot.published_publish, List.length_append]
        exact Nat.le_add_right_of_le within
      · intro throttle throttled ended
        exact absurd ended (notEnded throttle throttled)
      · rw [Slot.published_publish, List.take_append_of_le_length within]
        exact follows.relays
      · intro ended
        have gone := (follows.ended ended).1
        rw [closed] at gone
        cases gone

/-- Closing the slot changes nothing of what is owed. -/
theorem Follows.close
    {subscriber : Subscriber α}
    (follows : subscriber.Follows) :
    (subscriber.undergo .close).Follows where
  timely := ⟨follows.timely.1, fun throttle throttled ended =>
    ⟨rfl, (follows.timely.2 throttle throttled ended).2⟩⟩
  relays := follows.relays
  ended := fun ended => ⟨rfl, (follows.ended ended).2⟩

/-- A subscriber that was told of the end is owed nothing. -/
theorem Follows.finished
    {subscriber : Subscriber α}
    (follows : subscriber.Follows)
    (ended : subscriber.ended = true) :
    subscriber.closed = true ∧ subscriber.subscription.owed? subscriber.slot = none := by
  obtain ⟨closed, seen, held⟩ := follows.ended ended
  exact ⟨closed, Subscription.owed?_of_seen seen held⟩

/-- What a poll brings is what the subscriber was owed. -/
theorem Follows.hear
    {subscriber : Subscriber α}
    (follows : subscriber.Follows)
    {tickReady : Bool}
    {next : Subscription α}
    {answer : StreamAnswer α}
    (polls : subscriber.subscription.Polls subscriber.slot subscriber.closed tickReady next answer) :
    (subscriber.hear next answer).Follows := by
  have relays := follows.relays.give
    (subscriber.slot.published.drop subscriber.subscription.seen)
  rw [List.take_append_drop] at relays
  change Relays _ (subscriber.subscription.owed? subscriber.slot) _ at relays
  refine ⟨polls.timely, ?_, ?_⟩
  · change Relays (subscriber.slot.published.take next.seen) next.held (_ ++ _)
    rw [polls.seen, List.take_length]
    cases owed : subscriber.subscription.owed? subscriber.slot with
    | none =>
        obtain ⟨rfl, held⟩ := polls.nothing owed
        have nothing : Throttle.entryOf? subscriber.slot.published
            (if subscriber.closed then .ended else .pending) = none := by
          cases subscriber.closed <;> rfl
        rw [nothing, Option.toList_none, List.append_nil, held, ← owed]
        exact relays
    | some value =>
        rw [owed] at relays
        rcases polls.value value owed with ⟨rfl, held⟩ | ⟨rfl, held, -⟩
        · rw [held]
          exact relays.hand
        · rw [held]
          exact (List.append_nil subscriber.received).symm ▸ relays
  · intro ended
    have finished : subscriber.closed = true ∧
        subscriber.subscription.owed? subscriber.slot = none := by
      rcases Bool.or_eq_true_iff.mp ended with before | now
      · exact follows.finished before
      · cases answer with
        | item value => cases now
        | pending => cases now
        | ended => exact polls.finished
    exact ⟨finished.1, polls.seen, (polls.nothing finished.2).2⟩

/-- A poll leaves the subscriber with what it has seen so far. -/
theorem Follows.poll
    {subscriber : Subscriber α}
    (follows : subscriber.Follows)
    (tickReady : Bool) :
    (subscriber.undergo (.poll tickReady)).Follows :=
  follows.hear (Subscription.polls follows.timely tickReady)

/-- However many events follow, a subscriber follows its slot. -/
theorem follows_run
    {subscriber : Subscriber α}
    (follows : subscriber.Follows)
    (events : List (SlotEvent α)) :
    (subscriber.run events).Follows := by
  induction events generalizing subscriber with
  | nil => exact follows
  | cons event events inductionHypothesis =>
      cases event with
      | publish value => exact inductionHypothesis (follows.publish value)
      | close => exact inductionHypothesis follows.close
      | poll tickReady => exact inductionHypothesis (follows.poll tickReady)

/-- A subscriber that is owed nothing by a closed slot is told of the end. -/
theorem Follows.ended_of_nothing
    {subscriber : Subscriber α}
    (follows : subscriber.Follows)
    (closed : subscriber.closed = true)
    (nothing : subscriber.subscription.owed? subscriber.slot = none)
    (tickReady : Bool) :
    (subscriber.undergo (.poll tickReady)).ended = true := by
  have answered := ((Subscription.polls follows.timely tickReady).nothing nothing).1.trans
    (if_pos closed)
  rw [undergo_poll, answered]
  exact Bool.or_true _

/-- Once the writer is gone, two ticks bring the last value and the end. -/
theorem Follows.ends
    {subscriber : Subscriber α}
    (follows : subscriber.Follows)
    (closed : subscriber.closed = true) :
    (subscriber.run [.poll true, .poll true]).ended = true := by
  have polls := Subscription.polls follows.timely true
  cases owed : subscriber.subscription.owed? subscriber.slot with
  | none =>
      have ended := follows.ended_of_nothing closed owed true
      exact (congrArg (· || _) ended).trans (Bool.true_or _)
  | some value =>
      -- The first tick cannot pass without the value that is owed.
      obtain ⟨-, held⟩ | ⟨-, -, early⟩ := polls.value value owed
      · exact (follows.poll true).ended_of_nothing closed
          (Subscription.owed?_of_seen polls.seen held) true
      · cases early

/-- What a subscriber gets from a slot, whatever happens to the two. -/
structure SeesLatest
    (rate : UpdateRate)
    (sourceHertz : Float)
    (slot : Slot α)
    (events : List (SlotEvent α)) :
    Prop where
  /-- No value comes twice. -/
  ordered : ((start rate sourceHertz slot).run events).received.Pairwise
    fun earlier later => earlier.1 < later.1
  subsequence : (((start rate sourceHertz slot).run events).received.map Prod.snd).Sublist
    ((start rate sourceHertz slot).run events).slot.published
  /-- Every value was the newest at its time. -/
  newest : ∀ entry ∈ ((start rate sourceHertz slot).run events).received,
    entry.1 ≤ ((start rate sourceHertz slot).run events).slot.published.length ∧
      (((start rate sourceHertz slot).run events).slot.published.take entry.1).getLast? =
        some entry.2
  /-- The end comes only once the writer is gone, and behind its last value. -/
  complete : ((start rate sourceHertz slot).run events).ended = true →
    ((start rate sourceHertz slot).run events).closed = true ∧
      (((start rate sourceHertz slot).run events).received.map Prod.snd).getLast? =
        ((start rate sourceHertz slot).run events).slot.latest?
  ends : ((start rate sourceHertz slot).run events).closed = true →
    ((start rate sourceHertz slot).run (events ++ [.poll true, .poll true])).ended = true

/-- A throttle hands on the newest value of its source, and so does a subscription of a slot. -/
theorem subscription_is_latest_wins
    (script : List (StreamAnswer α))
    (ticks : List Bool)
    (rate : UpdateRate)
    (sourceHertz : Float)
    (slot : Slot α)
    (events : List (SlotEvent α)) :
    LatestWins script ticks ∧ SeesLatest rate sourceHertz slot events := by
  have follows := follows_run (follows_start rate sourceHertz slot) events
  refine ⟨Throttling.latestWins script ticks, ?_, ?_, ?_, ?_, ?_⟩
  · exact follows.relays.ordered
  · exact (sublist_of_positions follows.relays.ordered follows.relays.newest).trans
      (List.take_sublist _ _)
  · intro entry member
    obtain ⟨within, newest⟩ := follows.relays.newest entry member
    rw [List.length_take] at within
    rw [List.take_take, Nat.min_eq_left (by omega)] at newest
    exact ⟨by omega, newest⟩
  · intro ended
    obtain ⟨closed, seen, held⟩ := follows.ended ended
    have relays := follows.relays
    rw [seen, List.take_length, held] at relays
    rw [Slot.latest?_eq_getLast?]
    exact ⟨closed, relays.last⟩
  · intro closed
    rw [run, List.foldl_append]
    exact follows.ends closed

end Subscriber

end DroneSession
