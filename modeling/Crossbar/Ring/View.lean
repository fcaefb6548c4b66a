import Crossbar.Ring.Basic

/-! A ring seen as a queue: the values held, oldest first, read from the reader's cursor on.
The view walks the slots by position alone and so does not repeat how the ring is torn down.
-/

namespace Crossbar.Ring

variable {α : Type}

/-- The position `offset` slots past the reader's cursor, around the end. -/
def readPosition (ring : Ring α) (offset : Nat) : Nat :=
  (ring.readAt + offset) % ring.capacity

/-- The values held, oldest first. -/
def toList (ring : Ring α) : List α :=
  (List.range ring.size).filterMap fun offset => ring.slotAt (ring.readPosition offset)

@[simp] theorem size_empty (capacity : Nat) (start : Counter)
    : (empty capacity start : Ring α).size = 0 :=
  Counter.lead_self start

@[simp] theorem toList_empty (capacity : Nat) (start : Counter)
    : (empty capacity start : Ring α).toList = [] := by
  simp [toList]

end Crossbar.Ring
