/-! Repeating one operation on a state and collecting what it yields, up to a limit and no further
than the first time it yields nothing. The loop keeps what it has found in an array, so that its
length costs no depth.
-/

namespace Crossbar

variable {σ β : Type}

/-- The loop, with what has been found so far. -/
def gatherOnto (take : σ → Option β × σ) : Nat → Array β → σ → Array β × σ
  | 0, found, state => (found, state)
  | limit + 1, found, state =>
      match take state with
      | (none, state) => (found, state)
      | (some item, state) => gatherOnto take limit (found.push item) state

/-- What up to `limit` operations yield, in order, and the state after them. The first operation
without a yield is the last one.
-/
def gather (take : σ → Option β × σ) (limit : Nat) (state : σ) : List β × σ :=
  let (found, state) := gatherOnto take limit #[] state
  (found.toList, state)

/-- What has been found before stays in front, because the loop only adds at the end. -/
theorem gatherOnto_eq (take : σ → Option β × σ) (limit : Nat) (found : Array β) (state : σ)
    : gatherOnto take limit found state
        = (found ++ (gather take limit state).1.toArray, (gather take limit state).2) := by
  induction limit generalizing found state with
  | zero => simp [gather, gatherOnto]
  | succ limit ih =>
      simp only [gather, gatherOnto]
      split
      · simp
      · next item next _ =>
          rw [ih (found.push item), ih (#[].push item)]
          simp

/-- One operation, and then the rest if it yields something. -/
theorem gather_succ (take : σ → Option β × σ) (limit : Nat) (state : σ)
    : gather take (limit + 1) state
        = match take state with
          | (none, state) => ([], state)
          | (some item, state) =>
              (item :: (gather take limit state).1, (gather take limit state).2) := by
  rw [gather, gatherOnto]
  cases take state with
  | mk taken next =>
      cases taken with
      | none => rfl
      | some item => simp [gatherOnto_eq]

end Crossbar
