import Crossbar.Ring.Basic
import Crossbar.Wait

/-! A ring with two ends that can be closed independently. The values still held are released
when the second end closes, and not before.
-/

namespace Crossbar

/-- A ring together with which of its ends are still open. -/
structure Channel (α : Type) where
  ring : Ring α
  writerOpen : Bool
  readerOpen : Bool
deriving Repr, DecidableEq

namespace Channel

variable {α : Type}

/-- A new channel with both ends open, unless its ring cannot be allocated. -/
def allocate? (capacity : Nat) : Option (Channel α) :=
  (Ring.allocate? capacity).map fun ring => ⟨ring, true, true⟩

def push (channel : Channel α) (value : α) : Offer α × Channel α :=
  let (offer, ring) := channel.ring.push value
  (offer, { channel with ring := ring })

def pop (channel : Channel α) : Option α × Channel α :=
  let (value, ring) := channel.ring.pop
  (value, { channel with ring := ring })

/-- Number of values held. -/
def size (channel : Channel α) : Nat :=
  channel.ring.size

def isEmpty (channel : Channel α) : Bool :=
  channel.size == 0

/-- Ends the life of the ring: its values are released and nothing is left in it. -/
def dispose (channel : Channel α) : List α × Channel α :=
  (channel.ring.release, { channel with ring := .empty channel.ring.capacity 0 })

/-- Closes the writer's end. If it was the last one open, the values held are released. -/
def closeWriter (channel : Channel α) : List α × Channel α :=
  if !channel.writerOpen then
    ([], channel)
  else if channel.readerOpen then
    ([], { channel with writerOpen := false })
  else
    { channel with writerOpen := false }.dispose

/-- Closes the reader's end. If it was the last one open, the values held are released. -/
def closeReader (channel : Channel α) : List α × Channel α :=
  if !channel.readerOpen then
    ([], channel)
  else if channel.writerOpen then
    ([], { channel with readerOpen := false })
  else
    { channel with readerOpen := false }.dispose

/-! ### Waiting at an end -/

/-- One attempt to push, which hands the value back if there is no room. -/
def pushAttempt (value : α) (channel : Channel α) : Except α Unit × Channel α :=
  match channel.push value with
  | (.accepted, channel) => (.ok (), channel)
  | (.rejected value, channel) => (.error value, channel)

/-- One attempt to pop. -/
def popAttempt (_ : Unit) (channel : Channel α) : Except Unit α × Channel α :=
  match channel.pop with
  | (some value, channel) => (.ok value, channel)
  | (none, channel) => (.error (), channel)

/-- Pushes as soon as there is room, or gives up with the value after the deadline. -/
def pushWait (timeout : Timeout) (start : Nat) (turns : List (Turn (Channel α))) (value : α)
    (channel : Channel α)
    : Waited α Unit × Channel α :=
  await .untilPassed (timeout.deadline start) pushAttempt turns value channel

/-- Pops as soon as there is a value, or gives up after the deadline. -/
def popWait (timeout : Timeout) (start : Nat) (turns : List (Turn (Channel α)))
    (channel : Channel α)
    : Waited Unit α × Channel α :=
  await .untilPassed (timeout.deadline start) popAttempt turns () channel

end Channel

end Crossbar
