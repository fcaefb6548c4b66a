import Crossbar.Fabric.Basic

/-! How slots are issued and given back. A party that registers is linked with every slot of the
other side, so each pair gets its link when the later of the two arrives; a slot that is issued
again keeps the links it has.
-/

namespace Crossbar

/-- The answer to a registration: a handle, a refusal because no slot is left, or a failure. -/
inductive Registration (η : Type) where
  | issued (handle : η)
  | refused
  | failed (failure : Failure)
deriving Repr, DecidableEq

/-- An operation on the slots of a fabric: its answer, what it logged, and the fabric after it. -/
structure Enrolment (β α : Type) where
  answer : β
  log : List Event
  fabric : Fabric α

namespace Fabric

variable {α : Type}

/-- Adds links for `count` pairs, and says where they begin. If the first cannot be allocated, it
has still been counted.
-/
def addLinks (fabric : Fabric α) (count : Nat) : Except (Fabric α) (Nat × Fabric α) :=
  let base := fabric.links.size
  if count = 0 then
    .ok (base, fabric)
  else
    match Link.allocate? fabric.config.channelCapacity with
    | none => .error { fabric with linkCount := fabric.linkCount + 1 }
    | some link =>
        .ok (
          base,
          { fabric with
            links := fabric.links ++ Array.replicate count link
            linkCount := fabric.linkCount + .ofNat count })

/-- Registers a consumer, linked with every producer slot allocated so far, registered or not. -/
def registerConsumer (fabric : Fabric α) : Enrolment (Registration Receiver) α :=
  let consumer := fabric.consumerCount
  if fabric.shape.maxConsumers ≤ consumer then
    ⟨.refused, [.consumersExhausted fabric.shape.maxConsumers], fabric⟩
  else
    match fabric.addLinks fabric.producerCount with
    | .error fabric => ⟨.failed .capacityOverflow, [], fabric⟩
    | .ok (base, fabric) =>
        let row := Row.numbered fabric.shape.maxProducers fabric.producerCount base
        { answer := .issued ⟨fabric.id, consumer, 0, 0⟩
          log := [.consumerRegistered consumer]
          fabric :=
            { fabric with
              consumers := fabric.consumers.push row
              producers :=
                fabric.producers
                |> updateEach .blank fun producer slot =>
                    { slot with row := slot.row.wire consumer (base + producer) } } }

/-- Allocates a producer slot that has never been used, linked with every consumer. -/
def registerFresh (fabric : Fabric α) : Enrolment (Registration Sender) α :=
  let producer := fabric.producerCount
  if fabric.shape.maxProducers ≤ producer then
    ⟨.refused, [.producersExhausted fabric.shape.maxProducers], fabric⟩
  else
    match fabric.addLinks fabric.consumerCount with
    | .error fabric => ⟨.failed .capacityOverflow, [], fabric⟩
    | .ok (base, fabric) =>
        let row := Row.numbered fabric.shape.maxConsumers fabric.consumerCount base
        { answer := .issued ⟨fabric.id, producer, .first, 0⟩
          log := [.producerRegistered producer]
          fabric :=
            { fabric with
              producers := fabric.producers.push ⟨.first, 0, row⟩
              consumers :=
                fabric.consumers
                |> updateEach ⟨#[]⟩ fun consumer row =>
                    row.wire producer (base + consumer) } }

/-- Marks all that one link holds as stale, and says how many values that covers. -/
def retireLink (fabric : Fabric α) (link : Nat) : Nat × Fabric α :=
  match takeOut fabric.links link .blank with
  | (none, links) => (0, { fabric with links := links })
  | (some held, links) =>
      let (count, held) := held.retire
      (count, { fabric with links := links.setIfInBounds link held })

/-- Marks all that a list of links holds as stale, and says how many values that covers. -/
def retireAlong : List Wire → Fabric α → Nat × Fabric α
  | [], fabric => (0, fabric)
  | wire :: rest, fabric =>
      let (count, fabric) := fabric.retireLink wire.link
      let (more, fabric) := retireAlong rest fabric
      (count + more, fabric)

/-- Issues a freed slot again, under a new ticket and with the links and the cursor it has. -/
def reclaim (fabric : Fabric α) (producer : Nat) (slot : ProducerSlot)
    : Enrolment (Registration Sender) α :=
  let ticket := slot.ticket.next
  let (discarded, fabric) :=
    if fabric.config.drainOnReclaim then
      retireAlong slot.row.front fabric
    else
      (0, fabric)
  { answer := .issued ⟨fabric.id, producer, ticket, slot.cursor⟩
    log :=
      (if 0 < discarded then [.staleMarked producer discarded] else [])
        ++ [.producerReclaimed producer]
    fabric :=
      { fabric with
        producers := fabric.producers.setIfInBounds producer { slot with ticket := ticket } } }

/-- Registers a producer: in the slot freed last, or in a fresh one if none is free. -/
def registerProducer (fabric : Fabric α) : Enrolment (Registration Sender) α :=
  match fabric.freed with
  | [] => fabric.registerFresh
  | producer :: rest =>
      let fabric := { fabric with freed := rest }
      match fabric.producers[producer]? with
      | none => fabric.registerFresh
      | some slot => fabric.reclaim producer slot

/-- Ends the registration of a handle and frees its slot, which takes over the handle's cursor. -/
def unregister (fabric : Fabric α) (sender : Sender) : Enrolment (Except UsageFault Unit) α :=
  if sender.fabric ≠ fabric.id then
    ⟨.error (.foreignHandle sender.slot), [], fabric⟩
  else
    match fabric.producers[sender.slot]? with
    | none => ⟨.error (.foreignHandle sender.slot), [], fabric⟩
    | some slot =>
        if slot.ticket ≠ sender.ticket then
          ⟨.error (.alreadyUnregistered sender.slot), [], fabric⟩
        else
          let slot := { slot with ticket := sender.ticket.ended, cursor := sender.cursor }
          { answer := .ok ()
            log := [.producerUnregistered sender.slot]
            fabric :=
              { fabric with
                producers := fabric.producers.setIfInBounds sender.slot slot
                freed := sender.slot :: fabric.freed } }

end Fabric

end Crossbar
