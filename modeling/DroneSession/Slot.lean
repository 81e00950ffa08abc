namespace DroneSession

/-!
# Latest values

A slot has one writer, which replaces the value as a whole.  Readers see the newest value; the slot
also keeps what was published before it, newest first.
-/

/-- The values that one writer has published, newest first. -/
structure Slot (α : Type) where
  history : List α
  deriving Repr, DecidableEq

namespace Slot

variable {α : Type}

/-- A slot that nothing has been written to. -/
def empty : Slot α where
  history := []

instance : Inhabited (Slot α) :=
  ⟨empty⟩

/-- Publish a value, which is the latest from then on. -/
def publish
    (slot : Slot α)
    (value : α) :
    Slot α where
  history := value :: slot.history

/-- The newest value, if any was published. -/
def latest? (slot : Slot α) : Option α :=
  slot.history.head?

/-- All values in the order in which they were published. -/
def published (slot : Slot α) : List α :=
  slot.history.reverse

@[simp] theorem latest?_publish
    (slot : Slot α)
    (value : α) :
    (slot.publish value).latest? = some value :=
  rfl

/-- The newest value is the last that was published. -/
theorem latest?_eq_getLast?
    (slot : Slot α) :
    slot.latest? = slot.published.getLast? := by
  simp [latest?, published]

/-- The value that is published stands behind the earlier ones. -/
@[simp] theorem published_publish
    (slot : Slot α)
    (value : α) :
    (slot.publish value).published = slot.published ++ [value] := by
  simp [published, publish]

/-- A slot has published as many values as its history holds. -/
theorem length_published
    (slot : Slot α) :
    slot.published.length = slot.history.length :=
  List.length_reverse

end Slot

end DroneSession
