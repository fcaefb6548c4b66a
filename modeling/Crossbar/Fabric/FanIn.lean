import Crossbar.Fabric.Basic

/-! How a consumer takes values from the producers: from the one that served it last, for a bounded
number of pops in a row, and otherwise from the next one in turn that has a live value.
-/

namespace Crossbar

/-- The most pops in a row that one producer serves before the others get their turn. -/
def maxStickyReads : Nat := 32

/-- A value with the producer slot it came through. -/
structure Sourced (α : Type) where
  producer : Nat
  value : α
deriving Repr, DecidableEq

/-- What a pop returned, if anything, and the stale values it discarded on the way, in order. -/
structure Intake (α : Type) where
  taken : Option (Sourced α)
  discarded : List (Sourced α)
deriving Repr, DecidableEq

/-- The value returned. -/
def Intake.value {α : Type} (intake : Intake α) : Option α :=
  intake.taken.map Sourced.value

namespace Fabric

variable {α : Type}

/-- Takes the oldest live value out of one entry, discarding what is stale. -/
def draw (fabric : Fabric α) (wire : Wire) : Intake α × Fabric α :=
  match takeOut fabric.links wire.link .blank with
  | (none, links) => (⟨none, []⟩, { fabric with links := links })
  | (some held, links) =>
      let (drawn, held) := held.pop
      (⟨drawn.value.map (⟨wire.position, ·⟩), drawn.discarded.map (⟨wire.position, ·⟩)⟩,
        { fabric with links := links.setIfInBounds wire.link held })

/-- Draws from each wired entry in turn until one yields a value. -/
def drawAlong : List Wire → Fabric α → Intake α × Fabric α
  | [], fabric => (⟨none, []⟩, fabric)
  | wire :: rest, fabric =>
      match fabric.draw wire with
      | (⟨some taken, discarded⟩, fabric) => (⟨some taken, discarded⟩, fabric)
      | (⟨none, discarded⟩, fabric) =>
          let (intake, fabric) := drawAlong rest fabric
          (⟨intake.taken, discarded ++ intake.discarded⟩, fabric)

/-- Draws along a walk of a row, without listing the entries behind the one that yields a value. -/
def drawRun (row : Row) (first : Nat) : Nat → Fabric α → Intake α × Fabric α
  | 0, fabric => (⟨none, []⟩, fabric)
  | count + 1, fabric =>
      match row.link? first with
      | none => (⟨none, []⟩, fabric)
      | some link =>
          match fabric.draw ⟨first, link⟩ with
          | (⟨some taken, discarded⟩, fabric) => (⟨some taken, discarded⟩, fabric)
          | (⟨none, discarded⟩, fabric) =>
              let (intake, fabric) := drawRun row (first + 1) count fabric
              (⟨intake.taken, discarded ++ intake.discarded⟩, fabric)

/-- Draws along a sweep of a row. -/
def drawSweep (row : Row) (cursor : Nat) (fabric : Fabric α) : Intake α × Fabric α :=
  let start := min cursor row.width
  match drawRun row start (row.width - start) fabric with
  | (⟨some taken, discarded⟩, fabric) => (⟨some taken, discarded⟩, fabric)
  | (⟨none, discarded⟩, fabric) =>
      let (intake, fabric) := drawRun row 0 start fabric
      (⟨intake.taken, discarded ++ intake.discarded⟩, fabric)

theorem drawRun_eq (row : Row) (first count : Nat) (fabric : Fabric α)
    : drawRun row first count fabric = drawAlong (row.run first count) fabric := by
  induction count generalizing first fabric with
  | zero => rfl
  | succ count ih =>
      rw [drawRun, Row.run]
      cases row.link? first with
      | none => rfl
      | some link => simp only [drawAlong, ih]

/-- Where one list of entries yields no value, the next goes on, after what was discarded. -/
theorem drawAlong_append (front back : List Wire) (fabric : Fabric α)
    : drawAlong (front ++ back) fabric
        = match drawAlong front fabric with
          | (⟨some taken, discarded⟩, fabric) => (⟨some taken, discarded⟩, fabric)
          | (⟨none, discarded⟩, fabric) =>
              let (intake, fabric) := drawAlong back fabric
              (⟨intake.taken, discarded ++ intake.discarded⟩, fabric) := by
  induction front generalizing fabric with
  | nil => rfl
  | cons wire rest ih =>
      rw [List.cons_append, drawAlong, drawAlong]
      split
      · rfl
      · next discarded next _ =>
          rw [ih]
          rcases drawAlong rest next with ⟨⟨taken, more⟩, last⟩
          cases taken <;> simp

/-- A sweep draws from the entries that it lists, in that order. -/
theorem drawSweep_eq (row : Row) (cursor : Nat) (fabric : Fabric α)
    : drawSweep row cursor fabric = drawAlong (row.sweep cursor) fabric := by
  rw [Row.sweep, drawAlong_append, drawSweep]
  simp only [drawRun_eq]

/-- The entry that served the last pop, as long as it may serve another. -/
def stickyWire (fabric : Fabric α) (receiver : Receiver) : List Wire :=
  if 0 < receiver.streak ∧ receiver.streak < maxStickyReads then
    match (fabric.consumerRow receiver.slot).link? (receiver.cursor - 1) with
    | some link => [⟨receiver.cursor - 1, link⟩]
    | none => []
  else
    []

/-- Draws from each wired entry in turn, starting just after the one that served last. -/
def scan (fabric : Fabric α) (receiver : Receiver) : Intake α × Receiver × Fabric α :=
  match drawSweep (fabric.consumerRow receiver.slot) receiver.cursor fabric with
  | (⟨some taken, discarded⟩, fabric) =>
      (⟨some taken, discarded⟩,
        { receiver with cursor := taken.producer + 1, streak := 1 }, fabric)
  | (⟨none, discarded⟩, fabric) => (⟨none, discarded⟩, { receiver with streak := 0 }, fabric)

/-- Takes the next value: from the producer that served last while its streak lasts, else from the
next one in turn.
-/
def pop (fabric : Fabric α) (receiver : Receiver) : Intake α × Receiver × Fabric α :=
  match drawAlong (fabric.stickyWire receiver) fabric with
  | (⟨some taken, discarded⟩, fabric) =>
      (⟨some taken, discarded⟩, { receiver with streak := receiver.streak + 1 }, fabric)
  | (⟨none, discarded⟩, fabric) =>
      let (intake, receiver, fabric) := fabric.scan { receiver with streak := 0 }
      (⟨intake.taken, discarded ++ intake.discarded⟩, receiver, fabric)

end Fabric

end Crossbar
