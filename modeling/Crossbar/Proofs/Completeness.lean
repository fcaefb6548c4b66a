import Crossbar.Proofs.Transition

/-! The grid of a fabric is complete at every moment of every run: each producer slot ever allocated
and each consumer share one link, however they came and whoever has left since. Once it is there the
link of a pair stays the same one for good.
-/

namespace Crossbar

namespace Fabric

variable {α : Type}

-----------------------------------------------------------------------------------------
-- What the moves of a fabric keep
-----------------------------------------------------------------------------------------

/-- A later fabric has all slots and all wired entries of an earlier one. -/
structure Extends (before after : Fabric α) : Prop where
  id : after.id = before.id
  shape : after.shape = before.shape
  config : after.config = before.config
  producers_le : before.producerCount ≤ after.producerCount
  consumers_le : before.consumerCount ≤ after.consumerCount
  name?
    : ∀ {producer consumer name},
        before.name? producer consumer = some name → after.name? producer consumer = some name

theorem Extends.refl (fabric : Fabric α) : Extends fabric fabric :=
  ⟨rfl, rfl, rfl, Nat.le_refl _, Nat.le_refl _, fun named => named⟩

theorem Extends.trans {first second third : Fabric α} (hf : Extends first second)
    (hs : Extends second third)
    : Extends first third where
  id := hs.id.trans hf.id
  shape := hs.shape.trans hf.shape
  config := hs.config.trans hf.config
  producers_le := Nat.le_trans hf.producers_le hs.producers_le
  consumers_le := Nat.le_trans hf.consumers_le hs.consumers_le
  name? := fun named => hs.name? (hf.name? named)

theorem SameWiring.extends {before after : Fabric α} (same : SameWiring before after)
    : Extends before after where
  id := same.id
  shape := same.shape
  config := same.config
  producers_le := Nat.le_of_eq same.producers.symm
  consumers_le := Nat.le_of_eq (congrArg Array.size same.consumers).symm
  name? := fun named => (same.name? _ _).trans named

/-- There is one link for every pair of a producer slot and a consumer. -/
def Stocked (fabric : Fabric α) : Prop :=
  fabric.links.size = fabric.producerCount * fabric.consumerCount

/-- The links that there are have been counted, as far as a word counts, and no others. -/
def Tallied (fabric : Fabric α) : Prop :=
  fabric.linkCount = .ofNat fabric.links.size

/-- What a fabric is and remains: it has its number, its shape and its configuration, its grid is
wired, and there are as many links as pairs. As long as links can be allocated, their count is that
of the links that there are.
-/
structure Installed (number : Nat) (shape : Shape) (config : Config) (fabric : Fabric α)
    : Prop where
  id_eq : fabric.id = number
  shape_eq : fabric.shape = shape
  config_eq : fabric.config = config
  wired : fabric.Wired
  stocked : fabric.Stocked
  tallied : config.channelCapacity < Ring.allocationLimit → fabric.Tallied

variable {number : Nat} {shape : Shape} {config : Config} {fabric : Fabric α}

/-- A change that leaves the grid and the count of links as they are keeps a fabric installed. -/
theorem Installed.of_sameWiring {after : Fabric α}
    (installed : fabric.Installed number shape config) (same : SameWiring fabric after)
    (count : after.linkCount = fabric.linkCount)
    : after.Installed number shape config where
  id_eq := same.id.trans installed.id_eq
  shape_eq := same.shape.trans installed.shape_eq
  config_eq := same.config.trans installed.config_eq
  wired := same.wired installed.wired
  stocked := by
    have hconsumers : after.consumerCount = fabric.consumerCount :=
      congrArg Array.size same.consumers
    rw [Stocked, same.links_size, same.producers, hconsumers]
    exact installed.stocked
  tallied := by
    intro small
    rw [Tallied, count, same.links_size]
    exact installed.tallied small

/-- A registration that fails counts a link, which can only happen if no link can be allocated. -/
theorem Installed.miscounted (installed : fabric.Installed number shape config)
    (large : Ring.allocationLimit ≤ fabric.config.channelCapacity)
    : { fabric with linkCount := fabric.linkCount + 1 }.Installed number shape config where
  id_eq := installed.id_eq
  shape_eq := installed.shape_eq
  config_eq := installed.config_eq
  wired := (fabric.sameWiring_records _ _).wired installed.wired
  stocked := installed.stocked
  tallied := fun small =>
    absurd (installed.config_eq ▸ large) (Nat.not_le.mpr small)

/-- One more consumer adds as many links as there are producer slots. -/
theorem Installed.addConsumer (installed : fabric.Installed number shape config)
    (room : fabric.consumerCount < fabric.shape.maxConsumers)
    : (fabric.addConsumer (fabric.linkCount + .ofNat fabric.producerCount)).Installed number shape
        config
    where
  id_eq := installed.id_eq
  shape_eq := installed.shape_eq
  config_eq := installed.config_eq
  wired := installed.wired.addConsumer _ room
  stocked := by
    rw [Stocked, links_size_addConsumer, producerCount_addConsumer, consumerCount_addConsumer,
      installed.stocked, Nat.mul_succ]
  tallied := by
    intro small
    rw [Tallied, links_size_addConsumer, UInt64.ofNat_add, ← installed.tallied small]
    rfl

/-- One more producer slot adds as many links as there are consumers. -/
theorem Installed.addProducer (installed : fabric.Installed number shape config)
    (room : fabric.producerCount < fabric.shape.maxProducers)
    : (fabric.addProducer (fabric.linkCount + .ofNat fabric.consumerCount)).Installed number shape
        config
    where
  id_eq := installed.id_eq
  shape_eq := installed.shape_eq
  config_eq := installed.config_eq
  wired := installed.wired.addProducer _ room
  stocked := by
    rw [Stocked, links_size_addProducer, producerCount_addProducer, consumerCount_addProducer,
      installed.stocked, Nat.succ_mul]
  tallied := by
    intro small
    rw [Tallied, links_size_addProducer, UInt64.ofNat_add, ← installed.tallied small]
    rfl

/-- A new consumer leaves every wired entry as it is, because only gaps are wired. -/
theorem Wired.extends_addConsumer (wired : fabric.Wired)
    (room : fabric.consumerCount < fabric.shape.maxConsumers) (total : Counter)
    : Extends fabric (fabric.addConsumer total) where
  id := rfl
  shape := rfl
  config := rfl
  producers_le := Nat.le_of_eq (producerCount_addConsumer total).symm
  consumers_le := (consumerCount_addConsumer total).symm ▸ Nat.le_succ _
  name? := by
    intro producer consumer name named
    have hwithin := (wired.grid.wired_iff producer consumer).mp (by simp [named])
    rw [wired.name?_addConsumer total room, if_neg (by omega)]
    exact named

/-- A new producer slot leaves every wired entry as it is. -/
theorem Wired.extends_addProducer (wired : fabric.Wired) (total : Counter)
    : Extends fabric (fabric.addProducer total) where
  id := rfl
  shape := rfl
  config := rfl
  producers_le := (producerCount_addProducer total).symm ▸ Nat.le_succ _
  consumers_le := Nat.le_of_eq (consumerCount_addProducer total).symm
  name? := by
    intro producer consumer name named
    have hwithin := (wired.grid.wired_iff producer consumer).mp (by simp [named])
    rw [wired.name?_addProducer total, if_neg (by omega)]
    exact named

/-- Replacing what a slot says about its registration leaves the grid as it is. -/
theorem sameWiring_updateSlot {producer : Nat} {slot : ProducerSlot}
    (found : fabric.producers[producer]? = some slot) (changed : ProducerSlot)
    (row : changed.row = slot.row) {links : Array (Link α)}
    (size : links.size = fabric.links.size) (freed : List Nat)
    : SameWiring fabric
        ({ fabric with links := links, freed := freed }.setSlot producer changed) := by
  have honly : SameWiring fabric { fabric with links := links, freed := freed } :=
    ⟨rfl, rfl, rfl, rfl, fun _ => rfl, rfl, size⟩
  refine honly.trans (sameWiring_setSlot _ producer changed ?_ freed)
  simp [producerRow, found, row]

/-- Every move keeps a fabric installed, with all that was wired before. -/
theorem Move.installed {after : Fabric α} (move : fabric.Move after)
    (installed : fabric.Installed number shape config)
    : after.Installed number shape config ∧ Extends fabric after := by
  cases move with
  | worked only =>
      have hsame := only.sameWiring
      obtain ⟨links, _, rfl⟩ := only
      exact ⟨installed.of_sameWiring hsame rfl, hsame.extends⟩
  | consumer enrols =>
      cases enrols with
      | refused => exact ⟨installed, .refl fabric⟩
      | failed _ _ large =>
          exact ⟨installed.miscounted large, (fabric.sameWiring_records _ _).extends⟩
      | issued room =>
          exact ⟨installed.addConsumer room, installed.wired.extends_addConsumer room _⟩
  | producer enrols =>
      cases enrols with
      | @reissued producer _ rest slot links _ found size =>
          have hsame :=
            sameWiring_updateSlot found { slot with ticket := slot.ticket.next } rfl size rest
          exact ⟨installed.of_sameWiring hsame rfl, hsame.extends⟩
      | fresh spent taken =>
          have hspent := fabric.sameWiring_records fabric.linkCount fabric.freed.tail
          have hinstalled := installed.of_sameWiring hspent rfl
          cases taken with
          | refused => exact ⟨hinstalled, hspent.extends⟩
          | failed _ _ large =>
              exact ⟨hinstalled.miscounted large, (fabric.sameWiring_records _ _).extends⟩
          | issued room =>
              exact ⟨hinstalled.addProducer room,
                hspent.extends.trans (hinstalled.wired.extends_addProducer _)⟩
  | @unregistered sender _ ends =>
      cases ends with
      | misused => exact ⟨installed, .refl fabric⟩
      | @ended slot _ found =>
          have hsame :=
            sameWiring_updateSlot found
              { slot with ticket := sender.ticket.ended, cursor := sender.cursor }
              rfl rfl (sender.slot :: fabric.freed)
          exact ⟨installed.of_sameWiring hsame rfl, hsame.extends⟩

/-- A registration issues a sender for a slot that the fabric then has. -/
theorem ProducerEnrolled.issued_within {enrolled : Enrolment (Registration Sender) α}
    (enrols : fabric.ProducerEnrolled enrolled) {sender : Sender}
    (issued : enrolled.answer = .issued sender)
    : sender.fabric = fabric.id ∧ sender.slot < enrolled.fabric.producerCount := by
  cases enrols with
  | reissued freed found =>
      obtain rfl := Registration.issued.inj issued
      obtain ⟨within, _⟩ := Array.getElem?_eq_some_iff.mp found
      exact ⟨rfl, by simpa [producerCount, setSlot] using within⟩
  | fresh spent taken =>
      cases taken with
      | refused | failed => cases issued
      | issued room =>
          obtain rfl := Registration.issued.inj issued
          refine ⟨rfl, ?_⟩
          rw [producerCount_addProducer]
          exact Nat.lt_succ_self _

/-- A registration issues a receiver for a slot that the fabric then has. -/
theorem ConsumerEnrolled.issued_within {enrolled : Enrolment (Registration Receiver) α}
    (enrols : fabric.ConsumerEnrolled enrolled) {receiver : Receiver}
    (issued : enrolled.answer = .issued receiver)
    : receiver.fabric = fabric.id ∧ receiver.slot < enrolled.fabric.consumerCount := by
  cases enrols with
  | refused | failed => cases issued
  | issued room =>
      obtain rfl := Registration.issued.inj issued
      refine ⟨rfl, ?_⟩
      rw [consumerCount_addConsumer]
      exact Nat.lt_succ_self _

-----------------------------------------------------------------------------------------
-- A complete grid
-----------------------------------------------------------------------------------------

/-- A fabric without any slots. -/
def bare (id : Nat) (shape : Shape) (config : Config) : Fabric α where
  id := id
  shape := shape
  config := config
  links := #[]
  linkCount := 0
  producers := #[]
  consumers := #[]
  freed := []

/-- Every producer slot and every consumer name one link for each other, no other pair names it, and
there are as many links as pairs. The count of links is that number as a word: exactly that number,
unless there are more links than a word can count.
-/
structure Complete (fabric : Fabric α) : Prop where
  producer_wired
    : ∀ producer < fabric.producerCount,
        ∀ consumer,
          ((fabric.producerRow producer).link? consumer).isSome
            ↔ consumer < fabric.consumerCount
  consumer_wired
    : ∀ consumer < fabric.consumerCount,
        ∀ producer,
          ((fabric.consumerRow consumer).link? producer).isSome
            ↔ producer < fabric.producerCount
  shared
    : ∀ producer consumer,
        (fabric.consumerRow consumer).link? producer
          = (fabric.producerRow producer).link? consumer
  stored
    : ∀ {producer consumer name},
        (fabric.producerRow producer).link? consumer = some name → name < fabric.links.size
  single
    : ∀ {producer consumer producer' consumer' name},
        (fabric.producerRow producer).link? consumer = some name
        → (fabric.producerRow producer').link? consumer' = some name
        → producer = producer' ∧ consumer = consumer'
  links_size : fabric.links.size = fabric.producerCount * fabric.consumerCount
  linkCount_eq : fabric.linkCount = .ofNat (fabric.producerCount * fabric.consumerCount)
  counts_eq
    : fabric.links.size < 0x10000000000000000
      → fabric.counts
        = ⟨fabric.producerCount, fabric.consumerCount,
            fabric.producerCount * fabric.consumerCount⟩
  producers_le : fabric.producerCount ≤ fabric.shape.maxProducers
  consumers_le : fabric.consumerCount ≤ fabric.shape.maxConsumers

/-- The counter tells the number of links exactly if a word can count them. -/
theorem Tallied.links_eq (tallied : fabric.Tallied) (fits : fabric.links.size < 0x10000000000000000)
    : fabric.linkCount.toNat = fabric.links.size := by
  rw [tallied, UInt64.toNat_ofNat_of_lt' fits]

/-- An installed fabric is complete if links can be allocated. -/
theorem Installed.complete (installed : fabric.Installed number shape config)
    (small : config.channelCapacity < Ring.allocationLimit)
    : fabric.Complete where
  producer_wired := by
    intro producer within consumer
    exact (installed.wired.grid.wired_iff producer consumer).trans (and_iff_right within)
  consumer_wired := by
    intro consumer within producer
    rw [installed.wired.shared]
    exact (installed.wired.grid.wired_iff producer consumer).trans (and_iff_left within)
  shared := installed.wired.shared
  stored := installed.wired.grid.name_lt
  single := installed.wired.grid.name_inj
  links_size := installed.stocked
  linkCount_eq := (installed.tallied small).trans (congrArg UInt64.ofNat installed.stocked)
  counts_eq := fun fits => by
    rw [counts, (installed.tallied small).links_eq fits, installed.stocked]
  producers_le := installed.wired.producers_le
  consumers_le := installed.wired.consumers_le

/-- A producer slot is wired to every consumer. -/
theorem Wired.producer_wired (wired : fabric.Wired) {producer : Nat}
    (within : producer < fabric.producerCount)
    : (fabric.producerRow producer).wired = fabric.consumerCount := by
  apply Row.wired_eq
  · rw [wired.producer_width producer within]
    exact wired.consumers_le
  · intro consumer
    exact (wired.grid.wired_iff producer consumer).trans (and_iff_right within)

/-- A consumer is wired to every producer slot. -/
theorem Wired.consumer_wired (wired : fabric.Wired) {consumer : Nat}
    (within : consumer < fabric.consumerCount)
    : (fabric.consumerRow consumer).wired = fabric.producerCount := by
  apply Row.wired_eq
  · rw [wired.consumer_width consumer within]
    exact wired.producers_le
  · intro producer
    rw [wired.shared]
    exact (wired.grid.wired_iff producer consumer).trans (and_iff_left within)

end Fabric

namespace Session

variable {α : Type} {shape : Shape} {configs : List Config} {session : Session α}

-----------------------------------------------------------------------------------------
-- Sessions keep their fabrics, and handles their slots
-----------------------------------------------------------------------------------------

/-- Every fabric of a session is installed, none that was configured is missing, and every handle
was issued for a slot that its fabric has.
-/
structure Housed (shape : Shape) (configs : List Config) (session : Session α) : Prop where
  fabric
    : ∀ {number fabric},
        session.fabric? number = some fabric
        → ∃ config, configs[number]? = some config ∧ fabric.Installed number shape config
  present
    : ∀ {number config},
        configs[number]? = some config
        → 0 < config.channelCapacity
        → ∃ fabric, session.fabric? number = some fabric
  sender
    : ∀ {place badge},
        session.badge? place = some badge
        → ∃ fabric,
            session.fabric? badge.fabric = some fabric ∧ badge.slot < fabric.producerCount
  receiver
    : ∀ {place seat},
        session.seat? place = some seat
        → ∃ fabric,
            session.fabric? seat.fabric = some fabric ∧ seat.slot < fabric.consumerCount

/-- A session starts with a bare fabric for each configuration of positive capacity. -/
theorem fabric?_start (shape : Shape) (configs : List Config) (number : Nat)
    : (start shape configs : Session α).fabric? number
        = configs[number]?.bind fun config =>
            if config.channelCapacity = 0 then none else some (.bare number shape config) := by
  rw [fabric?, start, List.getElem?_toArray, List.getElem?_map, createFrom_getElem?,
    Nat.zero_add]
  cases configs[number]? with
  | none => rfl
  | some config =>
      by_cases zero : config.channelCapacity = 0 <;> simp [Fabric.create, zero, Fabric.bare]

theorem fabric?_start_of_positive (shape : Shape) {configs : List Config} {number : Nat}
    {config : Config} (configured : configs[number]? = some config)
    (positive : 0 < config.channelCapacity)
    : (start shape configs : Session α).fabric? number = some (.bare number shape config) := by
  rw [fabric?_start, configured, Option.bind_some, if_neg (Nat.ne_of_gt positive)]

theorem bare_of_start {shape : Shape} {configs : List Config} {number : Nat} {fabric : Fabric α}
    (found : (start shape configs : Session α).fabric? number = some fabric)
    : ∃ config, configs[number]? = some config ∧ fabric = .bare number shape config := by
  rw [fabric?_start, Option.bind_eq_some_iff] at found
  obtain ⟨config, configured, hput⟩ := found
  split at hput
  · cases hput
  · exact ⟨config, configured, (Option.some.inj hput).symm⟩

theorem housed_start (shape : Shape) (configs : List Config)
    : (start shape configs : Session α).Housed shape configs where
  fabric := by
    intro number fabric found
    obtain ⟨_, _, hf⟩ := (follows_start shape configs).fabric found
    obtain ⟨config, configured, rfl⟩ := bare_of_start found
    exact ⟨config, configured, rfl, rfl, rfl, hf.wired, rfl, fun _ => rfl⟩
  present := fun configured positive => ⟨_, fabric?_start_of_positive shape configured positive⟩
  sender := fun found => by cases found
  receiver := fun found => by cases found

/-- A fabric that is there stays there, installed and with all that was wired. -/
theorem Housed.transition_fabric (housed : session.Housed shape configs)
    {operation : Operation α} {outcome : Outcome α}
    (transition : session.Transition operation outcome) {number : Nat} {fabric : Fabric α}
    (found : session.fabric? number = some fabric)
    : ∃ next config,
        outcome.session.fabric? number = some next
        ∧ configs[number]? = some config
        ∧ next.Installed number shape config
        ∧ Fabric.Extends fabric next := by
  obtain ⟨config, configured, hinstalled⟩ := housed.fabric found
  rcases transition.fabric? number with ⟨gap, _⟩ | ⟨before, next, hbefore, hnext, move⟩
  · cases gap.symm.trans found
  · obtain rfl := Option.some.inj (hbefore.symm.trans found)
    obtain ⟨hnew, hextends⟩ := move.installed hinstalled
    exact ⟨next, config, hnext, configured, hnew, hextends⟩

/-- A sender that is there afterwards was there before, or it is new and its slot as well. -/
theorem Housed.transition_sender (housed : session.Housed shape configs)
    {operation : Operation α} {outcome : Outcome α}
    (transition : session.Transition operation outcome) {place : Nat} {badge : Badge}
    (issued : outcome.session.badge? place = some badge)
    : ∃ fabric,
        outcome.session.fabric? badge.fabric = some fabric
        ∧ badge.slot < fabric.producerCount := by
  have hkept (before : session.badge? place = some badge)
      : ∃ fabric,
          outcome.session.fabric? badge.fabric = some fabric
          ∧ badge.slot < fabric.producerCount := by
    obtain ⟨fabric, found, within⟩ := housed.sender before
    obtain ⟨next, _, hnext, _, _, hextends⟩ := housed.transition_fabric transition found
    exact ⟨next, hnext, Nat.lt_of_lt_of_le within hextends.producers_le⟩
  rcases transition.badge? with hsame | ⟨number, fabric, sender, _, found, hissued, hnext, hnew⟩
  · exact hkept ((hsame place).symm.trans issued)
  · rw [hnew] at issued
    split at issued
    · obtain rfl := Option.some.inj issued
      obtain ⟨_, _, hinstalled⟩ := housed.fabric found
      obtain ⟨hfabric, within⟩ := fabric.producerEnrolled.issued_within hissued
      rw [hinstalled.id_eq] at hfabric
      exact ⟨_, (congrArg outcome.session.fabric? hfabric).trans hnext, within⟩
    · exact hkept issued

/-- A receiver that is there afterwards was there before, or it is new and its slot as well. -/
theorem Housed.transition_receiver (housed : session.Housed shape configs)
    {operation : Operation α} {outcome : Outcome α}
    (transition : session.Transition operation outcome) {place : Nat} {seat : Seat}
    (issued : outcome.session.seat? place = some seat)
    : ∃ fabric,
        outcome.session.fabric? seat.fabric = some fabric
        ∧ seat.slot < fabric.consumerCount := by
  have hkept (before : session.seat? place = some seat)
      : ∃ fabric,
          outcome.session.fabric? seat.fabric = some fabric
          ∧ seat.slot < fabric.consumerCount := by
    obtain ⟨fabric, found, within⟩ := housed.receiver before
    obtain ⟨next, _, hnext, _, _, hextends⟩ := housed.transition_fabric transition found
    exact ⟨next, hnext, Nat.lt_of_lt_of_le within hextends.consumers_le⟩
  rcases transition.seat?
    with hsame | ⟨number, fabric, receiver, _, found, hissued, hnext, hnew⟩
  · exact hkept ((hsame place).symm.trans issued)
  · rw [hnew] at issued
    split at issued
    · obtain rfl := Option.some.inj issued
      obtain ⟨_, _, hinstalled⟩ := housed.fabric found
      obtain ⟨hfabric, within⟩ := fabric.consumerEnrolled.issued_within hissued
      rw [hinstalled.id_eq] at hfabric
      exact ⟨_, (congrArg outcome.session.fabric? hfabric).trans hnext, within⟩
    · exact hkept issued

/-- Every operation keeps the fabrics and the handles with their slots. -/
theorem Housed.transition (housed : session.Housed shape configs) {operation : Operation α}
    {outcome : Outcome α} (transition : session.Transition operation outcome)
    : outcome.session.Housed shape configs where
  fabric := by
    intro number fabric found
    rcases transition.fabric? number with ⟨_, gap⟩ | ⟨before, next, hbefore, _, _⟩
    · cases gap.symm.trans found
    · obtain ⟨next, config, hnext, configured, hinstalled, _⟩ :=
        housed.transition_fabric transition hbefore
      obtain rfl := Option.some.inj (hnext.symm.trans found)
      exact ⟨config, configured, hinstalled⟩
  present := by
    intro number config configured positive
    obtain ⟨fabric, found⟩ := housed.present configured positive
    obtain ⟨next, _, hnext, _⟩ := housed.transition_fabric transition found
    exact ⟨next, hnext⟩
  sender := housed.transition_sender transition
  receiver := housed.transition_receiver transition

/-- A sender's slot is one of its fabric. -/
theorem Housed.sender_within (housed : session.Housed shape configs) {number : Nat}
    {fabric : Fabric α} (found : session.fabric? number = some fabric) {issued : Issued Sender}
    (member : issued ∈ session.senders) (own : issued.handle.fabric = number)
    : issued.handle.slot < fabric.producerCount := by
  subst own
  obtain ⟨place, hplace⟩ := Array.mem_iff_getElem?.mp member
  obtain ⟨fabric', found', within⟩ :=
    housed.sender (Option.map_eq_some_iff.mpr ⟨issued, hplace, rfl⟩)
  obtain rfl : fabric = fabric' := Option.some.inj (found.symm.trans found')
  exact within

/-- A receiver's slot is one of its fabric. -/
theorem Housed.receiver_within (housed : session.Housed shape configs) {number : Nat}
    {fabric : Fabric α} (found : session.fabric? number = some fabric) {issued : Issued Receiver}
    (member : issued ∈ session.receivers) (own : issued.handle.fabric = number)
    : issued.handle.slot < fabric.consumerCount := by
  subst own
  obtain ⟨place, hplace⟩ := Array.mem_iff_getElem?.mp member
  obtain ⟨fabric', found', within⟩ :=
    housed.receiver (Option.map_eq_some_iff.mpr ⟨issued, hplace, rfl⟩)
  obtain rfl : fabric = fabric' := Option.some.inj (found.symm.trans found')
  exact within

/-- A run keeps a session housed, by induction over its operations. -/
theorem Housed.after (housed : session.Housed shape configs) (now : Nat)
    (operations : List (Operation α))
    : (session.after now operations).Housed shape configs := by
  induction operations generalizing session with
  | nil => exact housed
  | cons operation rest ih =>
      exact ih (housed.transition (step_transition now session operation))

/-- A run keeps every fabric, with all that was wired. -/
theorem Housed.extends_after (housed : session.Housed shape configs) (now : Nat)
    (operations : List (Operation α)) {number : Nat} {fabric : Fabric α}
    (found : session.fabric? number = some fabric)
    : ∃ later,
        (session.after now operations).fabric? number = some later
        ∧ Fabric.Extends fabric later := by
  induction operations generalizing session fabric with
  | nil => exact ⟨fabric, found, .refl fabric⟩
  | cons operation rest ih =>
      have hstep := step_transition now session operation
      obtain ⟨next, _, hnext, _, _, hextends⟩ := housed.transition_fabric hstep found
      obtain ⟨later, hlater, hmore⟩ := ih (housed.transition hstep) hnext
      exact ⟨later, hlater, hextends.trans hmore⟩

/-- The grid of a fabric is complete at every moment of every run, if its links can be allocated:
the row of every producer slot ever allocated is wired to all consumers and to nobody else, the row
of every consumer to all producer slots, and each pair has one link to itself. Every handle ever
issued counts the whole other side. Whatever happens next, all wired entries stay as they are.
-/
theorem grid_complete (shape : Shape) (configs : List Config) (now : Nat)
    (operations : List (Operation α)) {number : Nat} {config : Config}
    (configured : configs[number]? = some config) (positive : 0 < config.channelCapacity)
    (small : config.channelCapacity < Ring.allocationLimit)
    : let reached := (start shape configs).after now operations
      ∃ fabric,
        reached.fabric? number = some fabric
        ∧ fabric.shape = shape
        ∧ fabric.Complete
        ∧ (∀ issued ∈ reached.senders,
            issued.handle.fabric = number
            → (fabric.producerRow issued.handle.slot).wired = fabric.consumerCount)
        ∧ (∀ issued ∈ reached.receivers,
            issued.handle.fabric = number
            → (fabric.consumerRow issued.handle.slot).wired = fabric.producerCount)
        ∧ ∀ more,
            ∃ later,
              (reached.after now more).fabric? number = some later
              ∧ Fabric.Extends fabric later
              ∧ ∀ consumer producer name,
                  (fabric.consumerRow consumer).link? producer = some name
                  → (later.consumerRow consumer).link? producer = some name := by
  intro reached
  have hhoused : reached.Housed shape configs := (housed_start shape configs).after now operations
  obtain ⟨fabric, found⟩ := hhoused.present configured positive
  obtain ⟨config', configured', hinstalled⟩ := hhoused.fabric found
  obtain rfl : config = config' := Option.some.inj (configured.symm.trans configured')
  have hwired := hinstalled.wired
  refine ⟨fabric, found, hinstalled.shape_eq, hinstalled.complete small, ?_, ?_, ?_⟩
  · intro issued member own
    exact hwired.producer_wired (hhoused.sender_within found member own)
  · intro issued member own
    exact hwired.consumer_wired (hhoused.receiver_within found member own)
  · intro more
    obtain ⟨later, hlater, hextends⟩ := hhoused.extends_after now more found
    obtain ⟨_, _, hinstalled'⟩ := (hhoused.after now more).fabric hlater
    refine ⟨later, hlater, hextends, fun consumer producer name named => ?_⟩
    rw [hwired.shared] at named
    rw [hinstalled'.wired.shared]
    exact hextends.name? named

/-- Parties of both sides register in turn, one of them in a freed slot that still has values and
one beyond the ceiling, with values on their way in between.
-/
def crowd : List (Operation Nat) :=
  [.registerProducer 0, .registerConsumer 0, .push 0 5, .unregister 0, .registerProducer 0,
    .registerProducer 0, .registerProducer 0, .push 1 6, .registerConsumer 0, .pop 0, .push 2 7]

/-- A crowded grid is complete, and the first sender counts both consumers although its registration
ended before the second one came.
-/
theorem grid_complete_crowd
    : 1 < Ring.allocationLimit
      ∧ ∃ fabric,
          ((start ⟨2, 2⟩ [⟨1, true⟩]).after 0 crowd).fabric? 0 = some fabric
          ∧ fabric.Complete
          ∧ fabric.counts = ⟨2, 2, 4⟩
          ∧ fabric.isRegistered ⟨0, 0, .first, 1⟩ = false
          ∧ (fabric.producerRow 0).wired = 2 := by
  have hconfig : ([⟨1, true⟩] : List Config)[0]? = some ⟨1, true⟩ := rfl
  obtain ⟨fabric, found, _, hcomplete, hsenders, _⟩ :=
    grid_complete ⟨2, 2⟩ [⟨1, true⟩] 0 crowd hconfig Nat.one_pos (by decide)
  have hfirst
      : ((start ⟨2, 2⟩ [⟨1, true⟩]).after 0 crowd).senders[0]?
        = some ⟨⟨0, 0, .first, 1⟩, true⟩ := rfl
  have hwired := hsenders _ (Array.mem_of_getElem? hfirst) rfl
  obtain rfl := Option.some.inj found
  exact ⟨by decide, _, rfl, hcomplete, rfl, rfl, hwired⟩

end Session

end Crossbar
