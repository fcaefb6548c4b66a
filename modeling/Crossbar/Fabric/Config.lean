import Crossbar.Fault

/-! How a fabric is sized and set up. -/

namespace Crossbar

/-- The most slots that a fabric ever has on each side. -/
structure Shape where
  maxProducers : Nat := 16384
  maxConsumers : Nat := 1024
deriving Repr, DecidableEq

/-- The capacity of every link, and whether the values left behind in a slot are discarded when
the slot is issued again.
-/
structure Config where
  channelCapacity : Nat := 1024
  drainOnReclaim : Bool := false
deriving Repr, DecidableEq

end Crossbar
