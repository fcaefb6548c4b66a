import Crossbar.Counter
import Crossbar.Gather
import Crossbar.Offer

/-! A bounded queue between one writer and one reader. Each end keeps its own total and cursor
and an old copy of the other end's total, which it renews only when the copy leaves no way on.
-/

namespace Crossbar

/-- The state of a ring: the totals that both ends publish, what each end has last seen of the
other, the two cursors, and the slots between them.
-/
structure Ring (α : Type) where
  capacity : Nat
  pushed : Counter
  popped : Counter
  seenPopped : Counter
  seenPushed : Counter
  writeAt : Nat
  readAt : Nat
  slots : Array (Option α)
deriving Repr, DecidableEq

namespace Ring

variable {α : Type}

/-- Capacities from here on, 2^62 and more, can never be allocated: a buffer has fewer than 2^63
bytes, and a slot is assumed to take at least two of them. For every capacity below, memory is
assumed to be found, although wide slots run out of it earlier.
-/
def allocationLimit : Nat := 0x4000000000000000

/-- An empty ring whose totals all begin at `start`. -/
def empty (capacity : Nat) (start : Counter) : Ring α where
  capacity := capacity
  pushed := start
  popped := start
  seenPopped := start
  seenPushed := start
  writeAt := 0
  readAt := 0
  slots := Array.replicate capacity none

/-- A new ring, unless no memory could hold its slots. -/
def allocate? (capacity : Nat) : Option (Ring α) :=
  if capacity < allocationLimit then some (empty capacity 0) else none

/-- The slot that follows `cursor`: the first one again at the end. -/
def after (ring : Ring α) (cursor : Nat) : Nat :=
  if cursor + 1 = ring.capacity then 0 else cursor + 1

/-- What the slot at `cursor` holds. -/
def slotAt (ring : Ring α) (cursor : Nat) : Option α :=
  ring.slots[cursor]?.join

/-- Number of values held now. -/
def size (ring : Ring α) : Nat :=
  Counter.lead ring.pushed ring.popped

/-! ### The writer's accesses -/

/-- No room, as far as the writer has seen. -/
def looksFull (ring : Ring α) : Bool :=
  decide (ring.capacity ≤ Counter.lead ring.pushed ring.seenPopped)

/-- The writer looks at the reader's total. -/
def refreshPopped (ring : Ring α) : Ring α :=
  { ring with seenPopped := ring.popped }

/-- The writer fills the slot under its cursor and moves on, before the value is published. -/
def store (ring : Ring α) (value : α) : Ring α :=
  { ring with
    slots := ring.slots.setIfInBounds ring.writeAt (some value)
    writeAt := ring.after ring.writeAt }

/-- The writer publishes one more value. -/
def publishPush (ring : Ring α) : Ring α :=
  { ring with pushed := ring.pushed + 1 }

/-- Offers a value: refused only if the ring is full by the reader's latest total. -/
def push (ring : Ring α) (value : α) : Offer α × Ring α :=
  let ring := if ring.looksFull then ring.refreshPopped else ring
  if ring.looksFull then
    (.rejected value, ring)
  else
    (.accepted, (ring.store value).publishPush)

/-! ### The reader's accesses -/

/-- Nothing to take, as far as the reader has seen. -/
def looksEmpty (ring : Ring α) : Bool :=
  ring.seenPushed == ring.popped

/-- The reader looks at the writer's total. -/
def refreshPushed (ring : Ring α) : Ring α :=
  { ring with seenPushed := ring.pushed }

/-- The value under the reader's cursor. -/
def front? (ring : Ring α) : Option α :=
  ring.slotAt ring.readAt

/-- The reader leaves the slot under its cursor empty. -/
def vacate (ring : Ring α) : Ring α :=
  { ring with slots := ring.slots.setIfInBounds ring.readAt none }

/-- The reader gives the slot back to the writer. -/
def publishPop (ring : Ring α) : Ring α :=
  { ring with popped := ring.popped + 1 }

/-- The reader moves its cursor on. -/
def advanceReader (ring : Ring α) : Ring α :=
  { ring with readAt := ring.after ring.readAt }

/-- Takes the oldest value, or nothing if the ring is empty by the writer's latest total. -/
def pop (ring : Ring α) : Option α × Ring α :=
  let ring := if ring.looksEmpty then ring.refreshPushed else ring
  if ring.looksEmpty then
    (none, ring)
  else
    (ring.front?, ring.vacate.publishPop.advanceReader)

/-- Takes up to `limit` values, oldest first, and stops early at the first pop without one. -/
def popUpTo (limit : Nat) (ring : Ring α) : List α × Ring α :=
  gather pop limit ring

/-- What a ring gives up when it is torn down, in the order in which it does so: slot by slot from
the reader's cursor on, as many as the totals are apart.
-/
def release (ring : Ring α) : List α :=
  (gather (fun cursor => (ring.slotAt cursor, ring.after cursor)) ring.size ring.readAt).1

end Ring

end Crossbar
