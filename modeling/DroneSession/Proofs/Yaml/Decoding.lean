import DroneSession.Yaml.Decoder

namespace DroneSession

/-!
# Decoders and the aliases before them

A decoder counts the aliases that it follows and gives up where there were too many.  So what it
answers behind another decoder it also answers alone, and a part of a mapping can be read without
the other parts.
-/

namespace Yaml.Decoder

variable {α β : Type} {scope : Scope} {count later : Nat}

/-- Two decoders answer if the second answers what the first has given it. -/
theorem bind_eq_some_iff
    {first : Decoder α}
    {second : α → Decoder β}
    {value : β} :
    (first >>= second) scope count = some (value, later) ↔
      ∃ given middle,
        first scope count = some (given, middle) ∧
        second given scope middle = some (value, later) := by
  have unfolded :
      (first >>= second) scope count =
        (first scope count).bind fun given => second given.1 scope given.2 :=
    rfl
  rw [unfolded, Option.bind_eq_some_iff]
  constructor
  · rintro ⟨⟨given, middle⟩, read, rest⟩
    exact ⟨given, middle, read, rest⟩
  · rintro ⟨given, middle, read, rest⟩
    exact ⟨(given, middle), read, rest⟩

theorem pure_eq_some_iff
    {given value : α} :
    (pure given : Decoder α) scope count = some (value, later) ↔
      given = value ∧ count = later := by
  have unfolded : (pure given : Decoder α) scope count = some (given, count) :=
    rfl
  rw [unfolded, Option.some.injEq, Prod.mk.injEq]

/-- A decoder that answers the same behind fewer aliases, and never undoes the count of them. -/
structure Counts (decode : Decoder α) : Prop where
  grows :
    ∀ {scope count value later},
      decode scope count = some (value, later) →
      count ≤ later
  answers :
    ∀ {scope count value later},
      decode scope count = some (value, later) →
      ∀ fewer ≤ count, ∃ last ≤ later, decode scope fewer = some (value, last)

namespace Counts

/-- A decoder that always answers the same counts no alias. -/
theorem pure (given : α) : Counts (pure given : Decoder α) where
  grows := by
    intro scope count value later read
    exact Nat.le_of_eq (pure_eq_some_iff.mp read).2
  answers := by
    intro scope count value later read fewer bound
    obtain ⟨rfl, rfl⟩ := pure_eq_some_iff.mp read
    exact ⟨fewer, bound, rfl⟩

/-- A decoder that gives no answer has none to count. -/
theorem refuse : Counts (refuse : Decoder α) where
  grows := by
    intro scope count value later read
    cases read
  answers := by
    intro scope count value later read
    cases read

theorem require (given : Option α) : Counts (require given) := by
  cases given with
  | none => exact refuse
  | some value => exact pure value

/-- Decoders that count aliases still do so one after another. -/
theorem bind
    {first : Decoder α}
    {second : α → Decoder β}
    (firstCounts : Counts first)
    (secondCounts : ∀ given, Counts (second given)) :
    Counts (first >>= second) where
  grows := by
    intro scope count value later read
    obtain ⟨given, middle, firstRead, secondRead⟩ := bind_eq_some_iff.mp read
    exact Nat.le_trans (firstCounts.grows firstRead) ((secondCounts given).grows secondRead)
  answers := by
    intro scope count value later read fewer bound
    obtain ⟨given, middle, firstRead, secondRead⟩ := bind_eq_some_iff.mp read
    obtain ⟨between, betweenBound, firstAgain⟩ := firstCounts.answers firstRead fewer bound
    obtain ⟨last, lastBound, secondAgain⟩ :=
      (secondCounts given).answers secondRead between betweenBound
    exact ⟨last, lastBound, bind_eq_some_iff.mpr ⟨given, between, firstAgain, secondAgain⟩⟩

/-- Following an alias is where the count grows and where too great a count is refused. -/
theorem follow (node : Node) : Counts (follow node) := by
  cases node with
  | scalar | sequence | mapping =>
      exact pure _
  | «alias» anchor =>
      have followed :
          ∀ (scope : Scope) (count : Nat),
            Decoder.follow (.alias anchor) scope count =
              if count < scope.aliasLimit then
                Decoder.require (scope.document.target? anchor) scope (count + 1)
              else
                none := by
        intro scope count
        change
          (if count < scope.aliasLimit then
            (do set (count + 1); Decoder.require (scope.document.target? anchor) : Decoder Node)
          else
            Decoder.refuse) scope count = _
        split <;> rfl
      constructor
      · intro scope count value later read
        rw [followed] at read
        split at read
        · exact Nat.le_trans (Nat.le_succ count) ((require _).grows read)
        · cases read
      · intro scope count value later read fewer bound
        rw [followed] at read ⊢
        split at read
        case isTrue below =>
          rw [if_pos (Nat.lt_of_le_of_lt bound below)]
          exact (require _).answers read (fewer + 1) (Nat.succ_le_succ bound)
        case isFalse =>
          cases read

/-- Reading a text of a type counts the alias that the text may be behind. -/
theorem typedText
    (tag : Tag)
    (node : Node) :
    Counts (typedText tag node) := by
  refine (follow node).bind ?_
  intro followed
  split
  · exact pure _
  · split
    · exact pure _
    · exact refuse
  · exact refuse

theorem single (node : Node) : Counts (single node) := by
  refine bind ?_ fun _ => pure _
  exact (typedText Tag.real node).bind fun _ => require _

/-- Looking for a field follows no alias. -/
theorem namedEntry
    (name : String)
    (entries : Entries) :
    Counts ( entry? name entries) := by
  unfold entry?
  split
  · exact pure _
  · exact pure _
  · exact refuse

/-- A field counts the aliases that its value counts. -/
theorem field
    {decode : Node → Decoder α}
    (counts : ∀ node, Counts (decode node))
    (name : String)
    (entries : Entries) :
    Counts (field name decode entries) := by
  refine (namedEntry name entries).bind ?_
  intro found
  exact (require found).bind counts

end Counts

/-- Wherever one decoder answers, another one answers with a portion of that. -/
def Contains
    (whole : Decoder α)
    (part : Decoder β)
    (portion : α → β) :
    Prop :=
  ∀ scope count value later,
    whole scope count = some (value, later) →
    ∃ last, part scope count = some (portion value, last)

section

variable {γ : Type} {portion : α → β}

/-- What is read first makes no difference to what a portion is of the whole. -/
theorem Contains.behind
    {whole : γ → Decoder α}
    {part : γ → Decoder β}
    (contains : ∀ given, (whole given).Contains (part given) portion)
    (before : Decoder γ) :
    (before >>= whole).Contains (before >>= part) portion := by
  intro scope count value later read
  obtain ⟨given, middle, beforeRead, wholeRead⟩ := bind_eq_some_iff.mp read
  obtain ⟨last, partRead⟩ := contains given scope middle value later wholeRead
  exact ⟨last, bind_eq_some_iff.mpr ⟨given, middle, beforeRead, partRead⟩⟩

/-- A portion of what stands in a collection is the same portion outside of it. -/
theorem Contains.enter
    {whole : Decoder α}
    {part : Decoder β}
    (contains : whole.Contains part portion) :
    (enter whole).Contains (enter part) portion := by
  intro ⟨document, aliasLimit, depth⟩ count value later read
  cases depth with
  | zero => cases read
  | succ depth => exact contains _ count value later read

/-- A portion that can be read from the entries of a mapping can be read from the mapping. -/
theorem Contains.record
    {whole : Entries → Decoder α}
    {part : Entries → Decoder β}
    (contains : ∀ entries, (whole entries).Contains (part entries) portion)
    (node : Node) :
    (record whole node).Contains (record part node) portion := by
  refine behind ?_ (follow node)
  intro followed scope count value later read
  split at read
  · exact enter (behind contains _) scope count value later read
  · exact contains [] scope count value later read
  · cases read

/-- A document in which the whole can be read can be read for the portion alone. -/
theorem Contains.read?_eq_some
    {whole : Node → Decoder α}
    {part : Node → Decoder β}
    (contains : ∀ node, (whole node).Contains (part node) portion)
    {text : String}
    {value : α}
    (read : Yaml.read? whole text = some value) :
    Yaml.read? part text = some (portion value) := by
  obtain ⟨document, parsed, decoded⟩ := Option.bind_eq_some_iff.mp read
  obtain ⟨⟨given, later⟩, ran, rfl⟩ := Option.map_eq_some_iff.mp decoded
  obtain ⟨last, partRead⟩ := contains document.root _ 0 given later ran
  exact Option.bind_eq_some_iff.mpr
    ⟨document, parsed, Option.map_eq_some_iff.mpr ⟨(portion given, last), partRead, rfl⟩⟩

end

end Yaml.Decoder

end DroneSession
