import Crossbar.Proofs.OperationHistory

/-! Every link is a queue, whatever happens around it. What was accepted into a link through the
handles of its producer slot leaves it in the same order, one way or the other, and the rest is
still held there.
-/

namespace Crossbar

open Motion
open Passage (onLink)

variable {α : Type}

/-- What entered a link has left it or is held in it, in one order. A pair without a link has seen
nothing enter.
-/
theorem Fabric.Follows.entered_eq {config : Config} {fabric : Fabric α}
    {history : List (Passage α)} (follows : fabric.Follows config history)
    (producer consumer : Nat)
    : entered (onLink producer consumer history)
        = departed (onLink producer consumer history) ++ fabric.held producer consumer := by
  rw [Fabric.held]
  cases hlink : fabric.link? producer consumer with
  | some link => exact (follows.link hlink).entered_eq
  | none =>
      have hquiet := follows.untouched hlink
      rw [entered_of_untouched hquiet, departed_of_untouched hquiet]
      rfl

/-- Every value that left a link was the oldest one there and went the way that the stale mark
said.
-/
theorem Fabric.Follows.ruled {config : Config} {fabric : Fabric α}
    {history : List (Passage α)} (follows : fabric.Follows config history)
    (producer consumer : Nat)
    : Ruled config.drainOnReclaim (onLink producer consumer history) := by
  cases hlink : fabric.link? producer consumer with
  | some link => exact (follows.link hlink).ruled
  | none => exact ruled_of_untouched (follows.untouched hlink) _

namespace Session

variable {configs : List Config} {session : Session α} {histories : Nat → List (Passage α)}

/-- The values held in a link of the fabric of a number, oldest first. -/
def held (session : Session α) (number producer consumer : Nat) : List α :=
  match session.fabric? number with
  | some fabric => fabric.held producer consumer
  | none => []

/-- The history of a number without a fabric means nothing for any link. -/
theorem Follows.onLink_of_absent (follows : session.Follows configs histories) {number : Nat}
    (gap : session.fabric? number = none) (producer consumer : Nat)
    : onLink producer consumer (histories number) = [] := by
  rw [follows.absent gap]
  rfl

theorem Follows.entered_eq (follows : session.Follows configs histories)
    (number producer consumer : Nat)
    : entered (onLink producer consumer (histories number))
        = departed (onLink producer consumer (histories number))
          ++ session.held number producer consumer := by
  rw [held]
  cases hfabric : session.fabric? number with
  | none =>
      rw [follows.onLink_of_absent hfabric]
      rfl
  | some fabric =>
      obtain ⟨config, _, hf⟩ := follows.fabric hfabric
      exact hf.entered_eq producer consumer

/-- Whether reissues drain or not, a value that leaves a link is the oldest one there. -/
theorem Follows.oldest?_eq (follows : session.Follows configs histories)
    (number producer consumer : Nat) {before after : List (Motion α)} {motion : Motion α}
    {value : α}
    (split
      : onLink producer consumer (histories number) = before ++ motion :: after)
    (left : motion.departed? = some value)
    : oldest? before = some value := by
  cases hfabric : session.fabric? number with
  | none =>
      rw [follows.onLink_of_absent hfabric] at split
      simp at split
  | some fabric =>
      obtain ⟨config, _, hf⟩ := follows.fabric hfabric
      have hdue := hf.ruled producer consumer before motion after split
      cases motion with
      | delivered taken | discarded taken =>
          obtain rfl : taken = value := Option.some.inj left
          exact hdue.1
      | accepted | reissued => cases left

/-- Per-link order over every run of operations: the values accepted into a link through the
successive handles of its producer slot are those that have left it, in the order in which they
left, followed by those it holds. Each value that left had been accepted before and was the oldest
one still there.
-/
theorem entered_eq_departed_append_held (shape : Shape) (configs : List Config) (now : Nat)
    (operations : List (Operation α)) (number producer consumer : Nat)
    : let motions :=
        onLink producer consumer (history now number operations (start shape configs))
      let final := (start shape configs).after now operations
      entered motions = departed motions ++ final.held number producer consumer
      ∧ ∀ before motion rest value,
          motions = before ++ motion :: rest
          → motion.departed? = some value
          → oldest? before = some value := by
  have hfollows := follows_after_start shape configs now operations
  refine ⟨hfollows.entered_eq number producer consumer, ?_⟩
  intro before motion rest value split left
  exact hfollows.oldest?_eq number producer consumer split left

end Session

end Crossbar
