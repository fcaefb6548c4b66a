/-! The answer to a value offered without waiting. A refused value is handed back to whoever
offered it, so nothing is lost on the way.
-/

namespace Crossbar

/-- Whether an offered value was taken or is handed back. -/
inductive Offer (α : Type) where
  | accepted
  | rejected (value : α)
deriving Repr, DecidableEq

end Crossbar
