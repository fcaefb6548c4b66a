import Crossbar.Ring.Basic

/-! The path from one producer slot to one consumer slot. Values written before the stale mark
belong to an earlier occupant of the slot, and the reader discards them on its way.
-/

namespace Crossbar

/-- A ring and the total up to which what was written into it is stale. -/
structure Link (α : Type) where
  ring : Ring α
  staleUntil : Counter
deriving Repr, DecidableEq

namespace Link

variable {α : Type}

/-- What holds the place of a link that is being worked on. -/
def blank : Link α where
  ring := .empty 0 0
  staleUntil := 0

/-- A new link in which nothing is stale, unless its ring cannot be allocated. -/
def allocate? (capacity : Nat) : Option (Link α) :=
  (Ring.allocate? capacity).map fun ring => ⟨ring, 0⟩

/-- How many values the reader is to discard before the next live one: the distance to the mark
as long as the reader's total is behind it.
-/
def staleCount (link : Link α) : Nat :=
  if Counter.isBehind link.ring.popped link.staleUntil then
    Counter.lead link.staleUntil link.ring.popped
  else
    0

def push (link : Link α) (value : α) : Offer α × Link α :=
  let (offer, ring) := link.ring.push value
  (offer, { link with ring := ring })

/-- What a reader got out of a link, or out of several: the value returned, if any, and the stale
values discarded on the way, oldest first.
-/
structure Draw (α : Type) where
  value : Option α
  discarded : List α
deriving Repr, DecidableEq

/-- Discards what is stale and takes the oldest live value. -/
def pop (link : Link α) : Draw α × Link α :=
  let (discarded, ring) := link.ring.popUpTo link.staleCount
  let (value, ring) := ring.pop
  (⟨value, discarded⟩, { link with ring := ring })

/-- Marks all that is held as stale, and says how many values that covers. -/
def retire (link : Link α) : Nat × Link α :=
  (link.ring.size, { link with staleUntil := link.ring.pushed })

end Link

end Crossbar
