import Crossbar.Event
import Crossbar.Link
import Crossbar.Row
import Crossbar.TakeOut
import Crossbar.Ticket

/-! A fabric joins every producer slot with every consumer slot by a link of its own. Links live
in one store and are named by their place in it, so that the row of a producer and the row of a
consumer can share one.
-/

namespace Crossbar

/-- A producer slot: its registration state, the cursor its last occupant left, and its links. -/
structure ProducerSlot where
  ticket : Ticket
  cursor : Nat
  row : Row
deriving Repr, DecidableEq

/-- What holds the place of a producer slot that is being worked on. -/
def ProducerSlot.blank : ProducerSlot where
  ticket := .first
  cursor := 0
  row := ⟨#[]⟩

/-- The state of a fabric. Its slots of either side are numbered by their place, and `freed` lists
the producer slots open for reuse, the one freed last in front. The links ever begun are counted by
a word that wraps, because one that cannot be allocated is counted all the same.
-/
structure Fabric (α : Type) where
  id : Nat
  shape : Shape
  config : Config
  links : Array (Link α)
  linkCount : Counter
  producers : Array ProducerSlot
  consumers : Array Row
  freed : List Nat
deriving Repr, DecidableEq

/-- A producer's handle: the slot it was issued for, the ticket of its registration, and where its
next fan-out scan starts.
-/
structure Sender where
  fabric : Nat
  slot : Nat
  ticket : Ticket
  cursor : Nat
deriving Repr, DecidableEq

/-- A consumer's handle: its slot, where its next scan starts, and how many pops in a row the link
before the cursor has served.
-/
structure Receiver where
  fabric : Nat
  slot : Nat
  cursor : Nat
  streak : Nat
deriving Repr, DecidableEq

/-- How much there is of a fabric: producer slots ever allocated, consumers registered, and links
ever begun as far as their counter tells.
-/
structure Counts where
  producers : Nat
  consumers : Nat
  links : Nat
deriving Repr, DecidableEq

namespace Fabric

variable {α : Type}

/-- An empty fabric, with the event that reports it. -/
def create (id : Nat) (shape : Shape) (config : Config)
    : Except ConfigFault (Fabric α × Event) :=
  if config.channelCapacity = 0 then
    .error .zeroCapacity
  else
    .ok (
      { id := id, shape := shape, config := config, links := #[], linkCount := 0,
        producers := #[], consumers := #[], freed := [] },
      .created shape config)

/-- Number of producer slots ever allocated. -/
def producerCount (fabric : Fabric α) : Nat :=
  fabric.producers.size

/-- Number of consumers registered. -/
def consumerCount (fabric : Fabric α) : Nat :=
  fabric.consumers.size

/-- The counts that a fabric reports. -/
def counts (fabric : Fabric α) : Counts where
  producers := fabric.producerCount
  consumers := fabric.consumerCount
  links := fabric.linkCount.toNat

/-- The row of a producer slot. -/
def producerRow (fabric : Fabric α) (producer : Nat) : Row :=
  (fabric.producers[producer]?.map ProducerSlot.row).getD ⟨#[]⟩

/-- The row of a consumer slot. -/
def consumerRow (fabric : Fabric α) (consumer : Nat) : Row :=
  fabric.consumers[consumer]?.getD ⟨#[]⟩

/-- The link from a producer slot to a consumer slot. -/
def link? (fabric : Fabric α) (producer consumer : Nat) : Option (Link α) :=
  ((fabric.producerRow producer).link? consumer).bind fun link => fabric.links[link]?

/-- Number of values held in all links. -/
def backlog (fabric : Fabric α) : Nat :=
  fabric.links.foldl (fun total link => total + link.ring.size) 0

/-- Whether a handle's registration is the current one of its slot. -/
def isRegistered (fabric : Fabric α) (sender : Sender) : Bool :=
  match fabric.producers[sender.slot]? with
  | some slot => slot.ticket == sender.ticket
  | none => false

/-- What a fabric gives up when it is torn down: consumer by consumer, within that producer slot by
producer slot, oldest first.
-/
def release (fabric : Fabric α) : List α :=
  fabric.consumers.toList.flatMap fun row =>
    row.links.flatMap fun link =>
      match fabric.links[link]? with
      | some link => link.ring.release
      | none => []

end Fabric

end Crossbar
