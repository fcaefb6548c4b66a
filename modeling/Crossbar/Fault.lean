/-! What can go wrong in a fabric, by cause: a configuration that is refused, a misuse of a handle
that is reported, and a failure that ends the call it happens in.
-/

namespace Crossbar

/-- Why a fabric cannot be configured. -/
inductive ConfigFault where
  | zeroCapacity
deriving Repr, DecidableEq

def ConfigFault.message : ConfigFault → String
  | .zeroCapacity => "channel capacity must be greater than 0"

/-- Why a registration cannot be ended. -/
inductive UsageFault where
  /-- The handle was issued by another fabric. -/
  | foreignHandle (slot : Nat)
  /-- The registration of the handle has already ended. -/
  | alreadyUnregistered (slot : Nat)
deriving Repr, DecidableEq

/-- The producer slot of the handle at fault. -/
def UsageFault.slot : UsageFault → Nat
  | .foreignHandle slot => slot
  | .alreadyUnregistered slot => slot

def UsageFault.message : UsageFault → String
  | .foreignHandle slot =>
      "output handle for producer slot " ++ toString slot ++ " does not belong to this matrix"
  | .alreadyUnregistered slot =>
      "output handle for producer slot " ++ toString slot ++ " is already unregistered"

/-- Why a call ends without an answer. -/
inductive Failure where
  /-- A push through a handle whose registration has ended. -/
  | unregisteredPush (slot : Nat)
  /-- A ring too large for any memory. -/
  | capacityOverflow
deriving Repr, DecidableEq

def Failure.message : Failure → String
  | .unregisteredPush slot =>
      "push through unregistered output handle (producer slot " ++ toString slot ++ ")"
  | .capacityOverflow => "capacity overflow"

end Crossbar
