import Crossbar.Fabric.FanIn
import Crossbar.Fabric.FanOut
import Crossbar.Wait

/-! A receiver at work on its fabric: single pops, several in a row, and waiting for a value. Pops
without a value are not free of effect, as they discard what is stale and end the receiver's
streak, so the work carries what has been discarded so far.
-/

namespace Crossbar

/-- A receiver at work on its fabric, with the stale values it has discarded, in order. -/
structure Reading (α : Type) where
  fabric : Fabric α
  receiver : Receiver
  discarded : Array (Sourced α)

/-- The time between two attempts of a waiting receiver, in microseconds. -/
def pollMicros : Nat := 1000

namespace Reading

variable {α : Type}

/-- One pop. -/
def pop (reading : Reading α) : Intake α × Reading α :=
  let (intake, receiver, fabric) := reading.fabric.pop reading.receiver
  (intake, ⟨fabric, receiver, reading.discarded ++ intake.discarded⟩)

/-- A number of pops in a row, whether or not they have a value. -/
def popMany (count : Nat) (reading : Reading α) : List (Intake α) × Reading α :=
  gather
    (fun reading =>
      let (intake, reading) := reading.pop
      (some intake, reading))
    count reading

/-- Pops until the first pop without a value, at most `limit` times. -/
def popUpTo (limit : Nat) (reading : Reading α) : List (Sourced α) × Reading α :=
  gather
    (fun reading =>
      let (intake, reading) := reading.pop
      (intake.taken, reading))
    limit reading

/-- Pops until the first pop without a value. Every pop with one leaves less in the fabric, so one
pop more than there are values is enough.
-/
def popAll (reading : Reading α) : List (Sourced α) × Reading α :=
  reading.popUpTo (reading.fabric.backlog + 1)

/-! ### Waiting -/

/-- One attempt of a wait. -/
def attempt (_ : Unit) (reading : Reading α) : Except Unit (Sourced α) × Reading α :=
  match reading.pop with
  | (⟨some taken, _⟩, reading) => (.ok taken, reading)
  | (⟨none, _⟩, reading) => (.error (), reading)

/-- Pops as soon as there is a value, or gives up once the deadline is reached. -/
def popWait (timeout : Timeout) (start : Nat) (turns : List (Turn (Reading α)))
    (reading : Reading α)
    : Waited Unit (Sourced α) × Reading α :=
  await .untilReached (timeout.deadline start) attempt turns () reading

/-- Another party pushes a value through a handle of its own on the same fabric. -/
def besidePush (sender : Sender) (value : α) (reading : Reading α)
    : (PushAnswer α × Sender) × Reading α :=
  let (answer, sender, fabric) := reading.fabric.push sender value
  ((answer, sender), { reading with fabric := fabric })

/-- Waits for a value while another party pushes one, `delay` after the start. -/
def popWaitBesidePush (timeout : Timeout) (start delay : Nat) (sender : Sender) (value : α)
    (reading : Reading α)
    : Waited Unit (Sourced α) × (PushAnswer α × Sender) × Reading α :=
  awaitBeside .untilReached timeout start delay attempt (besidePush sender value) () reading

end Reading

end Crossbar
