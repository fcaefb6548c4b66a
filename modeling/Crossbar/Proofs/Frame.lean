import Crossbar.Proofs.Enrolment

/-! What each operation of a fabric leaves alone. Pushes and pops work on the contents of links and
on nothing else, and an operation on the slots is one of a few changes that are listed here in full.
-/

namespace Crossbar.Fabric

variable {α : Type}

/-- The fabrics differ in the contents of their links at most. -/
def OnlyLinks (before after : Fabric α) : Prop :=
  ∃ links : Array (Link α),
    links.size = before.links.size ∧ after = { before with links := links }

theorem OnlyLinks.refl (fabric : Fabric α) : OnlyLinks fabric fabric :=
  ⟨fabric.links, rfl, rfl⟩

theorem OnlyLinks.trans {first second third : Fabric α} (hf : OnlyLinks first second)
    (hs : OnlyLinks second third)
    : OnlyLinks first third := by
  obtain ⟨links, hsize, rfl⟩ := hf
  obtain ⟨links', hsize', rfl⟩ := hs
  exact ⟨links', hsize'.trans hsize, rfl⟩

theorem OnlyLinks.sameWiring {before after : Fabric α} (only : OnlyLinks before after)
    : SameWiring before after := by
  obtain ⟨links, hsize, rfl⟩ := only
  exact ⟨rfl, rfl, rfl, rfl, fun _ => rfl, rfl, hsize⟩

/-- What a fabric counts and which slots it has freed is no part of its grid. -/
theorem sameWiring_records (fabric : Fabric α) (total : Counter) (freed : List Nat)
    : SameWiring fabric { fabric with linkCount := total, freed := freed } :=
  ⟨rfl, rfl, rfl, rfl, fun _ => rfl, rfl, rfl⟩

-----------------------------------------------------------------------------------------
-- Pushes and pops change links alone
-----------------------------------------------------------------------------------------

theorem onlyLinks_offer (fabric : Fabric α) (name : Nat) (value : α)
    : OnlyLinks fabric (fabric.offer name value).2 := by
  simp only [offer, takeOut]
  cases fabric.links[name]? with
  | none => exact ⟨_, Array.size_setIfInBounds, rfl⟩
  | some link =>
      refine ⟨_, ?_, rfl⟩
      simp only [Array.size_setIfInBounds]

/-- Offers along a list of entries change links alone, by induction on the list. -/
theorem onlyLinks_offerAlong (wires : List Wire) (fabric : Fabric α) (value : α)
    : OnlyLinks fabric (offerAlong wires fabric value).2 := by
  induction wires generalizing fabric value with
  | nil => exact .refl fabric
  | cons wire rest ih =>
      have hoffer := fabric.onlyLinks_offer wire.link value
      rcases hresult : fabric.offer wire.link value with ⟨_ | returned, next⟩
      · simpa only [offerAlong, hresult] using hoffer
      · simp only [offerAlong, hresult] at hoffer ⊢
        exact hoffer.trans (ih next returned)

theorem onlyLinks_push (fabric : Fabric α) (sender : Sender) (value : α)
    : OnlyLinks fabric (fabric.push sender value).2.2 := by
  rw [push, offerSweep_eq]
  split
  · have hoffers := onlyLinks_offerAlong
      ((fabric.producerRow sender.slot).sweep sender.cursor) fabric value
    split
    · next hresult => simpa only [hresult] using hoffers
    · next hresult => simpa only [hresult] using hoffers
  · exact .refl fabric

theorem onlyLinks_pushTo (fabric : Fabric α) (sender : Sender) (consumer : Nat) (value : α)
    : OnlyLinks fabric (fabric.pushTo sender consumer value).2 := by
  rw [pushTo]
  split
  · split
    · exact .refl fabric
    · next name _ =>
        have hoffer := fabric.onlyLinks_offer name value
        split
        · next hresult => simpa only [hresult] using hoffer
        · next hresult => simpa only [hresult] using hoffer
  · exact .refl fabric

theorem onlyLinks_draw (fabric : Fabric α) (wire : Wire)
    : OnlyLinks fabric (fabric.draw wire).2 := by
  simp only [draw, takeOut]
  cases fabric.links[wire.link]? with
  | none => exact ⟨_, Array.size_setIfInBounds, rfl⟩
  | some link =>
      refine ⟨_, ?_, rfl⟩
      simp only [Array.size_setIfInBounds]

/-- Draws along a list of entries change links alone, by induction on the list. -/
theorem onlyLinks_drawAlong (wires : List Wire) (fabric : Fabric α)
    : OnlyLinks fabric (drawAlong wires fabric).2 := by
  induction wires generalizing fabric with
  | nil => exact .refl fabric
  | cons wire rest ih =>
      have hdraw := fabric.onlyLinks_draw wire
      rcases hresult : fabric.draw wire with ⟨⟨_ | taken, discarded⟩, next⟩
      · simp only [drawAlong, hresult] at hdraw ⊢
        exact hdraw.trans (ih next)
      · simpa only [drawAlong, hresult] using hdraw

theorem onlyLinks_scan (fabric : Fabric α) (receiver : Receiver)
    : OnlyLinks fabric (fabric.scan receiver).2.2 := by
  have hdraws := onlyLinks_drawAlong
    ((fabric.consumerRow receiver.slot).sweep receiver.cursor) fabric
  rw [scan, drawSweep_eq]
  split
  · next hresult => simpa only [hresult] using hdraws
  · next hresult => simpa only [hresult] using hdraws

theorem onlyLinks_pop (fabric : Fabric α) (receiver : Receiver)
    : OnlyLinks fabric (fabric.pop receiver).2.2 := by
  have hsticky := onlyLinks_drawAlong (fabric.stickyWire receiver) fabric
  rw [pop]
  split
  · next hresult => simpa only [hresult] using hsticky
  · next next hresult =>
      simp only [hresult] at hsticky
      exact hsticky.trans (onlyLinks_scan next _)

theorem onlyLinks_retireLink (fabric : Fabric α) (name : Nat)
    : OnlyLinks fabric (fabric.retireLink name).2 := by
  simp only [retireLink, takeOut]
  cases fabric.links[name]? with
  | none => exact ⟨_, Array.size_setIfInBounds, rfl⟩
  | some link =>
      refine ⟨_, ?_, rfl⟩
      simp only [Array.size_setIfInBounds]

theorem onlyLinks_retireAlong (wires : List Wire) (fabric : Fabric α)
    : OnlyLinks fabric (retireAlong wires fabric).2 := by
  induction wires generalizing fabric with
  | nil => exact .refl fabric
  | cons wire rest ih => exact (fabric.onlyLinks_retireLink wire.link).trans (ih _)

-----------------------------------------------------------------------------------------
-- An operation on the slots is one of a few changes
-----------------------------------------------------------------------------------------

/-- A fabric whose slot at one place is replaced. -/
def setSlot (fabric : Fabric α) (producer : Nat) (slot : ProducerSlot) : Fabric α :=
  { fabric with producers := fabric.producers.setIfInBounds producer slot }

/-- What a registration of a consumer does: it is refused, it fails and counts a link all the same,
or it adds a consumer with a link to each producer slot.
-/
inductive ConsumerEnrolled (fabric : Fabric α) : Enrolment (Registration Receiver) α → Prop
  | refused (full : fabric.shape.maxConsumers ≤ fabric.consumerCount)
    : ConsumerEnrolled fabric
        ⟨.refused, [.consumersExhausted fabric.shape.maxConsumers], fabric⟩
  | failed (room : fabric.consumerCount < fabric.shape.maxConsumers)
    (paired : 0 < fabric.producerCount)
    (large : Ring.allocationLimit ≤ fabric.config.channelCapacity)
    : ConsumerEnrolled fabric
        ⟨.failed .capacityOverflow, [], { fabric with linkCount := fabric.linkCount + 1 }⟩
  | issued (room : fabric.consumerCount < fabric.shape.maxConsumers)
    (small
      : 0 < fabric.producerCount → fabric.config.channelCapacity < Ring.allocationLimit)
    : ConsumerEnrolled fabric
        ⟨.issued ⟨fabric.id, fabric.consumerCount, 0, 0⟩,
          [.consumerRegistered fabric.consumerCount],
          fabric.addConsumer (fabric.linkCount + .ofNat fabric.producerCount)⟩

/-- What a registration in a fresh slot does: it is refused, it fails and counts a link all the
same, or it adds a slot with a link to each consumer.
-/
inductive FreshEnrolled (fabric : Fabric α) : Enrolment (Registration Sender) α → Prop
  | refused (full : fabric.shape.maxProducers ≤ fabric.producerCount)
    : FreshEnrolled fabric
        ⟨.refused, [.producersExhausted fabric.shape.maxProducers], fabric⟩
  | failed (room : fabric.producerCount < fabric.shape.maxProducers)
    (paired : 0 < fabric.consumerCount)
    (large : Ring.allocationLimit ≤ fabric.config.channelCapacity)
    : FreshEnrolled fabric
        ⟨.failed .capacityOverflow, [], { fabric with linkCount := fabric.linkCount + 1 }⟩
  | issued (room : fabric.producerCount < fabric.shape.maxProducers)
    (small
      : 0 < fabric.consumerCount → fabric.config.channelCapacity < Ring.allocationLimit)
    : FreshEnrolled fabric
        ⟨.issued ⟨fabric.id, fabric.producerCount, .first, 0⟩,
          [.producerRegistered fabric.producerCount],
          fabric.addProducer (fabric.linkCount + .ofNat fabric.consumerCount)⟩

/-- What a registration of a producer does: it issues the slot freed last again, or it takes a fresh
one if no slot was freed or the one freed last is not there.
-/
inductive ProducerEnrolled (fabric : Fabric α) : Enrolment (Registration Sender) α → Prop
  | reissued {producer stale : Nat} {rest : List Nat} {slot : ProducerSlot}
    {links : Array (Link α)} (freed : fabric.freed = producer :: rest)
    (found : fabric.producers[producer]? = some slot) (size : links.size = fabric.links.size)
    : ProducerEnrolled fabric
        ⟨.issued ⟨fabric.id, producer, slot.ticket.next, slot.cursor⟩,
          reissueLog producer stale,
          { fabric with links := links, freed := rest }.setSlot producer
            { slot with ticket := slot.ticket.next }⟩
  | fresh {enrolled : Enrolment (Registration Sender) α}
    (spent : ∀ producer ∈ fabric.freed.head?, fabric.producers[producer]? = none)
    (taken : FreshEnrolled { fabric with freed := fabric.freed.tail } enrolled)
    : ProducerEnrolled fabric enrolled

/-- What an attempt to end a registration does: it reports a misuse, or it ends the registration and
frees its slot.
-/
inductive Ended (fabric : Fabric α) (sender : Sender)
    : Enrolment (Except UsageFault Unit) α → Prop
  | misused {fault : UsageFault}
    (stale
      : sender.fabric ≠ fabric.id
        ∨ ∀ slot, fabric.producers[sender.slot]? = some slot → slot.ticket ≠ sender.ticket)
    : Ended fabric sender ⟨.error fault, [], fabric⟩
  | ended {slot : ProducerSlot} (own : sender.fabric = fabric.id)
    (found : fabric.producers[sender.slot]? = some slot) (current : slot.ticket = sender.ticket)
    : Ended fabric sender
        ⟨.ok (), [.producerUnregistered sender.slot],
          { fabric with freed := sender.slot :: fabric.freed }.setSlot sender.slot
            { slot with ticket := sender.ticket.ended, cursor := sender.cursor }⟩

/-- Links are added at the end of the store and counted, unless there are some to add and none can
be allocated.
-/
theorem addLinks_eq (fabric : Fabric α) (count : Nat)
    : fabric.addLinks count
        = if 0 < count ∧ Ring.allocationLimit ≤ fabric.config.channelCapacity then
            .error { fabric with linkCount := fabric.linkCount + 1 }
          else
            .ok (
              fabric.links.size,
              { fabric with
                links := fabric.links ++ Array.replicate count fabric.freshLink
                linkCount := fabric.linkCount + .ofNat count }) := by
  rw [addLinks]
  rcases Nat.eq_zero_or_pos count with rfl | positive
  · simp
  · by_cases large : Ring.allocationLimit ≤ fabric.config.channelCapacity
    · simp [Nat.ne_of_gt positive, positive, large, Link.allocate?, Ring.allocate?,
        Nat.not_lt.mpr large]
    · simp [Nat.ne_of_gt positive, large, Link.allocate?, Ring.allocate?,
        Nat.lt_of_not_le large, freshLink]

theorem consumerEnrolled (fabric : Fabric α)
    : fabric.ConsumerEnrolled fabric.registerConsumer := by
  rw [registerConsumer]
  split
  · next full => exact .refused full
  · next room =>
      have hroom := Nat.lt_of_not_le room
      rw [addLinks_eq]
      by_cases overflow : 0 < fabric.producerCount
          ∧ Ring.allocationLimit ≤ fabric.config.channelCapacity
      · rw [if_pos overflow]
        exact .failed hroom overflow.1 overflow.2
      · rw [if_neg overflow]
        exact .issued hroom fun paired => Nat.lt_of_not_le fun large => overflow ⟨paired, large⟩

/-- A receiver is issued for the next consumer slot and starts at the first producer. -/
theorem ConsumerEnrolled.issued_eq {fabric : Fabric α}
    {enrolled : Enrolment (Registration Receiver) α} (enrols : fabric.ConsumerEnrolled enrolled)
    {receiver : Receiver} (issued : enrolled.answer = .issued receiver)
    : receiver = ⟨fabric.id, fabric.consumerCount, 0, 0⟩ := by
  cases enrols with
  | refused | failed => cases issued
  | issued => exact (Registration.issued.inj issued).symm

theorem freshEnrolled (fabric : Fabric α) : fabric.FreshEnrolled fabric.registerFresh := by
  rw [registerFresh]
  split
  · next full => exact .refused full
  · next room =>
      have hroom := Nat.lt_of_not_le room
      rw [addLinks_eq]
      by_cases overflow : 0 < fabric.consumerCount
          ∧ Ring.allocationLimit ≤ fabric.config.channelCapacity
      · rw [if_pos overflow]
        exact .failed hroom overflow.1 overflow.2
      · rw [if_neg overflow]
        exact .issued hroom fun paired => Nat.lt_of_not_le fun large => overflow ⟨paired, large⟩

/-- A reissue works on links and gives the slot its next ticket. -/
theorem reclaim_eq (fabric : Fabric α) (producer : Nat) (slot : ProducerSlot)
    : ∃ links : Array (Link α),
        links.size = fabric.links.size
        ∧ fabric.reclaim producer slot
          = ⟨.issued ⟨fabric.id, producer, slot.ticket.next, slot.cursor⟩,
              (fabric.reclaim producer slot).log,
              { fabric with links := links }.setSlot producer
                { slot with ticket := slot.ticket.next }⟩ := by
  obtain ⟨links, hsize, hretired⟩ := onlyLinks_retireAlong slot.row.front fabric
  cases hdrain : fabric.config.drainOnReclaim
  · refine ⟨fabric.links, rfl, ?_⟩
    simp only [reclaim, hdrain, Bool.false_eq_true, if_false]
    rfl
  · refine ⟨links, hsize, ?_⟩
    simp only [reclaim, hdrain, if_true, hretired]
    rfl

theorem producerEnrolled (fabric : Fabric α)
    : fabric.ProducerEnrolled fabric.registerProducer := by
  rw [registerProducer]
  split
  · next freed =>
      have hsame : { fabric with freed := fabric.freed.tail } = fabric := by
        rw [freed, List.tail_nil, ← freed]
      refine .fresh (by simp [freed]) ?_
      rw [hsame]
      exact freshEnrolled fabric
  · next producer rest freed =>
      dsimp only
      split
      · next missing =>
          refine .fresh (by simpa [freed] using missing) ?_
          rw [freed]
          exact freshEnrolled _
      · next slot found =>
          obtain ⟨links, hsize, hreclaim⟩ :=
            reclaim_eq { fabric with freed := rest } producer slot
          rw [hreclaim, reclaim_log]
          exact .reissued freed found hsize

theorem ended (fabric : Fabric α) (sender : Sender)
    : fabric.Ended sender (fabric.unregister sender) := by
  rw [unregister]
  split
  · next foreign => exact .misused (.inl foreign)
  · next own =>
      split
      · next missing =>
          exact .misused (.inr fun slot found => by simp [missing] at found)
      · next slot found =>
          split
          · next other =>
              refine .misused (.inr fun slot' found' => ?_)
              obtain rfl := Option.some.inj (found.symm.trans found')
              exact other
          · next current =>
              exact .ended (not_not.mp own) found (not_not.mp current)

end Crossbar.Fabric
