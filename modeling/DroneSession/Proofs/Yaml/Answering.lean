import Mathlib.Data.List.Forall2
import DroneSession.Proofs.Yaml.Decoding
import DroneSession.Proofs.Yaml.Legible
import DroneSession.Yaml.Value

namespace DroneSession

/-!
# Answers of decoders

A decoder answers a value if it does so wherever collections may be entered deep enough.  In a
document without aliases this is all that a decoder depends on, so the answer of a mapping follows
from the answers of its entries.
-/

namespace Yaml.Decoder

/-- A decoder answers a value, follows no alias and enters at most so many collections. -/
structure Answers
    {α : Type}
    (decode : Decoder α)
    (depth : Nat)
    (value : α) :
    Prop where
  run :
    ∀ {scope : Scope} {count : Nat},
      depth ≤ scope.depth →
      decode scope count = some (value, count)

namespace Answers

variable {α β : Type} {depth : Nat}

theorem pure (value : α) : Answers (pure value : Decoder α) depth value :=
  ⟨fun _ => rfl⟩

/-- A value that is required and there is the answer. -/
theorem require (value : α) : Answers (require (some value)) depth value :=
  ⟨fun _ => rfl⟩

/-- Decoders that answer one after another answer together, each at the same depth. -/
theorem bind
    {first : Decoder α}
    {second : α → Decoder β}
    {given : α}
    {value : β}
    (firstAnswers : Answers first depth given)
    (secondAnswers : Answers (second given) depth value) :
    Answers (first >>= second) depth value := by
  constructor
  intro scope count deep
  exact bind_eq_some_iff.mpr ⟨given, count, firstAnswers.run deep, secondAnswers.run deep⟩

/-- Inside a collection there is one level less to go. -/
theorem enter
    {inner : Decoder α}
    {value : α}
    (answers : Answers inner depth value) :
    Answers (enter inner) (depth + 1) value := by
  constructor
  intro scope count deep
  obtain ⟨document, aliasLimit, available⟩ := scope
  cases available with
  | zero => cases deep
  | succ available => exact answers.run (Nat.le_of_succ_le_succ deep)

/-- Decoders of the items of a list answer the values of the items. -/
theorem forall₂
    {Item : Type}
    {decode : Item → Decoder α}
    {items : List Item}
    {values : List α}
    (answers : List.Forall₂ (fun item value => Answers (decode item) depth value) items values) :
    Answers (items.mapM decode) depth values := by
  induction answers with
  | nil => exact pure []
  | cons first others inductionHypothesis =>
      rw [List.mapM_cons]
      exact first.bind (inductionHypothesis.bind (pure _))

/-- What was written for the items of a list is answered with the values they were written for. -/
theorem mapM
    {Source Item : Type}
    {decode : Item → Decoder α}
    {sources : List Source}
    {write : Source → Item}
    {value : Source → α}
    (answers : ∀ source ∈ sources, Answers (decode (write source)) depth (value source)) :
    Answers ((sources.map write).mapM decode) depth (sources.map value) := by
  apply forall₂
  rw [List.forall₂_map_left_iff, List.forall₂_map_right_iff, List.forall₂_same]
  exact answers

end Answers

section

variable {α : Type} {depth : Nat}

/-- A node that is no alias stands for itself. -/
theorem answers_follow
    {node : Node}
    (present : ∀ anchor, node ≠ .alias anchor) :
    Answers (follow node) depth node := by
  cases node with
  | «alias» anchor => exact absurd rfl (present anchor)
  | _ => exact .pure _

/-- A document without aliases has its answer if it is not too deep. -/
theorem run?_of_answers
    {decode : Node → Decoder α}
    {root : Node}
    {value : α}
    (answers : Answers (decode root) depth value)
    (shallow : depth ≤ greatestDepth) :
    run? decode ⟨root, []⟩ = some value := by
  change (decode root _ 0).map Prod.fst = _
  rw [answers.run shallow]
  rfl

/-! ## Scalars -/

section

variable {tag : Option Tag} {style : ScalarStyle} {written : String}

/-- Every scalar is a text, whatever its style and tag. -/
theorem answers_text : Answers (text (.scalar tag style written)) depth written :=
  (answers_follow (by simp)).bind (.pure written)

theorem answers_typedText
    (type : Tag) :
    Answers (typedText type (.scalar none .plain written)) depth written :=
  (answers_follow (by simp)).bind (.pure written)

/-- A plain scalar that names a truth value answers it. -/
theorem answers_truth
    {value : Bool}
    (read : truth? written = some value) :
    Answers (truth (.scalar none .plain written)) depth value :=
  (answers_typedText Tag.truth).bind (read ▸ .require value)

/-- A plain scalar that is a whole number of 64 bits answers it. -/
theorem answers_unsigned64
    {value : UInt64}
    (read : unsigned64? written = some value) :
    Answers (unsigned64 (.scalar none .plain written)) depth value :=
  (answers_typedText Tag.whole).bind (read ▸ .require value)

/-- A plain scalar that is a whole number of 32 bits answers it. -/
theorem answers_unsigned32
    {value : UInt32}
    (read : unsigned64? written = some value.toUInt64) :
    Answers (unsigned32 (.scalar none .plain written)) depth value := by
  have fits : value.toUInt64.toNat < UInt32.size := by
    rw [UInt32.toNat_toUInt64]
    exact value.toNat_lt
  refine (answers_unsigned64 read).bind ?_
  rw [if_pos fits, UInt32.toUInt32_toUInt64]
  exact .pure value

/-- A plain scalar that is a number answers its nearest double. -/
theorem answers_double
    {value : Float}
    (read : real? written = some value) :
    Answers (double (.scalar none .plain written)) depth value :=
  (answers_typedText Tag.real).bind (read ▸ .require value)

/-- A scalar without a tag names an alternative by its text. -/
theorem answers_alternative :
    Answers (alternative (.scalar none style written)) depth (.named written) :=
  (answers_follow (by simp)).bind (.pure _)

/-- A scalar that names a value of a table answers it. -/
theorem answers_choice
    {values : List (String × α)}
    {value : α}
    (found : (values.find? fun entry => entry.1 == written).map Prod.snd = some value) :
    Answers (choice values (.scalar none style written)) depth value := by
  refine answers_alternative.bind ?_
  dsimp only
  rw [found]
  exact .require value

/-- A name is read as the value that a table has for it, also where a number could stand. -/
theorem answers_choiceOrNumber
    {values : List (String × α)}
    {value : α}
    {name : String}
    {number : Node → Decoder α}
    (found : (values.find? fun entry => entry.1 == written).map Prod.snd = some value) :
    Answers (choiceOrNumber values name number (.scalar none style written)) depth value :=
  (answers_follow (by simp)).bind (answers_alternative.bind (answers_choice found))

/-- A number behind its tag is read as a number, also where a name could stand. -/
theorem answers_choiceOrNumber_tagged
    {values : List (String × α)}
    {value : α}
    {name : String}
    {number : Node → Decoder α}
    (answers : Answers (number (.scalar none .plain written)) depth value) :
    Answers
      (choiceOrNumber values name number (.scalar (some (.ofName name)) .plain written)) depth
      value := by
  have named : (some (Tag.ofName name)).bind Tag.name? = some name := by
    simp [Tag.ofName, Tag.name?, Tag.text]
  have alternative :
      Answers (alternative (.scalar (some (.ofName name)) .plain written)) depth
        (.tagged name (.scalar none .plain written)) := by
    refine (answers_follow (by simp)).bind ?_
    dsimp only
    rw [named]
    exact .pure _
  refine (answers_follow (by simp)).bind (alternative.bind ?_)
  dsimp only
  rwa [if_pos rfl]

/-- A text that stands for itself is there. -/
theorem answers_optional
    {decode : Node → Decoder α}
    {value : α}
    (something : ¬ (style = .plain ∧ (written.isEmpty || isNull written) = true))
    (answers : Answers (decode (.scalar none style written)) depth value) :
    Answers (optional decode (.scalar none style written)) depth (some value) := by
  have there : Answers (isNothing (.scalar none style written)) depth false := by
    cases style with
    | plain =>
        have there : (written.isEmpty || isNull written) = false := by
          simpa using something
        rw [isNothing, there]
        exact .pure false
    | _ => exact .pure false
  exact (answers_follow (by simp)).bind (there.bind (answers.bind (.pure _)))

end

/-! ## Collections -/

/-- A list answers what its items answer, one level further in. -/
theorem answers_list
    {decode : Node → Decoder α}
    {write : α → Node}
    {values : List α}
    (answers : ∀ value ∈ values, Answers (decode (write value)) depth value) :
    Answers (list decode (.sequence none (values.map write))) (depth + 1) values := by
  have items := Answers.mapM answers
  rw [List.map_id'] at items
  exact (answers_follow (by simp)).bind (.enter items)

/-- A mapping with plain keys answers what its entries answer, one level further in. -/
theorem answers_record
    {decode : Entries → Decoder α}
    {entries : List (String × Node)}
    {value : α}
    (answers : Answers (decode entries) depth value) :
    Answers (record decode (.record entries)) (depth + 1) value := by
  have named :
      ∀ entry : String × Node,
        Answers
          (do return (← text (Node.ofPlain entry.1), entry.2) : Decoder (String × Node)) depth
          entry :=
    fun entry => answers_text.bind (.pure entry)
  have namedAll :
      Answers
        ((entries.map fun entry => (Node.ofPlain entry.1, entry.2)).mapM
          fun entry => (do return (← text entry.1, entry.2) : Decoder (String × Node)))
        depth (entries.map id) :=
    .mapM fun entry _ => named entry
  rw [List.map_id] at namedAll
  exact (answers_follow (by simp [Node.record])).bind (.enter (namedAll.bind answers))

/-- The entries of a mapping that are there. -/
def present (fields : List (String × Option Node)) : Entries :=
  fields.filterMap fun field => field.2.map fun node => (field.1, node)

/-- All entries of a mapping without fields that may be left out are there. -/
theorem present_map_some (entries : Entries) :
    present (entries.map fun entry => (entry.1, some entry.2)) = entries := by
  rw [present, List.filterMap_map]
  exact List.filterMap_some

section

variable {fields : List (String × Option Node)} (distinct : (fields.map Prod.fst).Nodup)
variable {name : String}

include distinct

/-- Of fields with different names at most one is there under each name. -/
theorem filter_present
    {found : Option Node}
    (member : (name, found) ∈ fields) :
    ((present fields).filter fun entry => entry.1 == name) =
      found.toList.map fun node => (name, node) := by
  have nowhere :
      ∀ {fields : List (String × Option Node)},
        name ∉ fields.map Prod.fst →
        ((present fields).filter fun entry => entry.1 == name) = [] := by
    intro fields missing
    rw [List.filter_eq_nil_iff]
    intro entry inFields
    obtain ⟨field, inside, given⟩ := List.mem_filterMap.mp inFields
    obtain ⟨node, _, rfl⟩ := Option.map_eq_some_iff.mp given
    rintro same
    exact missing (beq_iff_eq.mp same ▸ List.mem_map_of_mem inside)
  induction fields with
  | nil => cases member
  | cons field fields inductionHypothesis =>
      rw [List.map_cons, List.nodup_cons] at distinct
      have divided :
          present (field :: fields) =
            (field.2.toList.map fun node => (field.1, node)) ++ present fields := by
        cases given : field.2 <;> simp [present, given]
      rw [divided, List.filter_append]
      rcases List.mem_cons.mp member with rfl | later
      · rw [nowhere distinct.1, List.append_nil]
        cases found <;> simp
      · have other : field.1 ≠ name := by
          rintro same
          exact distinct.1 (same ▸ List.mem_map_of_mem later)
        rw [inductionHypothesis distinct.2 later]
        cases field.2 <;> simp [other]

/-- Looking for a field finds what was written under its name, if anything was. -/
theorem answers_namedEntry
    {found : Option Node}
    (member : (name, found) ∈ fields) :
    Answers ( entry? name (present fields)) depth found := by
  rw [ entry?, filter_present distinct member]
  cases found <;> exact .pure _

/-- A field that has to be there answers what was written for it. -/
theorem answers_field
    {decode : Node → Decoder α}
    {value : α}
    {node : Node}
    (member : (name, some node) ∈ fields)
    (answers : Answers (decode node) depth value) :
    Answers (field name decode (present fields)) depth value :=
  (answers_namedEntry distinct member).bind ((Answers.require node).bind answers)

/-- A field that may be left out answers its standard value or what was written for it. -/
theorem answers_fieldOr
    {decode : Node → Decoder α}
    {standard value : α}
    {found : Option Node}
    (member : (name, found) ∈ fields)
    (absent : found = none → standard = value)
    (answers : ∀ node ∈ found, Answers (decode node) depth value) :
    Answers (fieldOr name standard decode (present fields)) depth value := by
  refine (answers_namedEntry distinct member).bind ?_
  cases found with
  | none => exact absent rfl ▸ .pure standard
  | some node => exact answers node rfl

/-- A field that may be left out and is there answers what was written for it. -/
theorem answers_fieldOr_some
    {decode : Node → Decoder α}
    {standard value : α}
    {node : Node}
    (member : (name, some node) ∈ fields)
    (answers : Answers (decode node) depth value) :
    Answers (fieldOr name standard decode (present fields)) depth value :=
  (answers_namedEntry distinct member).bind answers

/-- A field that is there exactly if there is a value. -/
theorem answers_fieldOr_none
    {decode : Node → Decoder (Option α)}
    {write : α → Node}
    {value : Option α}
    (member : (name, value.map write) ∈ fields)
    (answers : ∀ given ∈ value, Answers (decode (write given)) depth (some given)) :
    Answers (fieldOr name none decode (present fields)) depth value := by
  refine answers_fieldOr distinct member ?_ ?_
  · intro absent
    exact (Option.map_eq_none_iff.mp absent).symm
  · intro node there
    obtain ⟨given, rfl, rfl⟩ := Option.map_eq_some_iff.mp there
    exact answers given rfl

end

end

end Yaml.Decoder

end DroneSession
