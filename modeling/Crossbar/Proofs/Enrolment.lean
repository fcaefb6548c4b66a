import Mathlib.Algebra.GroupWithZero.Nat
import Crossbar.Link.Lemmas
import Crossbar.Proofs.Wiring

/-! What a registration does to a fabric. It is refused or fails and leaves the grid as it is, or it
adds a row or a column of new links, or it issues a freed slot again, which only retires the links
of that slot.
-/

namespace Crossbar.Fabric

variable {α : Type}

/-- The link that every new pair of a fabric begins with. -/
def freshLink (fabric : Fabric α) : Link α where
  ring := .empty fabric.config.channelCapacity 0
  staleUntil := 0

/-- A fabric with one more consumer and its links, `total` links having been counted in all. -/
def addConsumer (fabric : Fabric α) (total : Counter) : Fabric α :=
  { fabric with
    links := fabric.links ++ Array.replicate fabric.producerCount fabric.freshLink
    linkCount := total
    consumers :=
      fabric.consumers.push
        (.numbered fabric.shape.maxProducers fabric.producerCount fabric.links.size)
    producers :=
      fabric.producers
      |> updateEach .blank fun producer slot =>
          { slot with row := slot.row.wire fabric.consumerCount (fabric.links.size + producer) } }

/-- A fabric with one more producer slot and its links, `total` links having been counted in all. -/
def addProducer (fabric : Fabric α) (total : Counter) : Fabric α :=
  { fabric with
    links := fabric.links ++ Array.replicate fabric.consumerCount fabric.freshLink
    linkCount := total
    producers :=
      fabric.producers.push
        ⟨.first, 0,
          .numbered fabric.shape.maxConsumers fabric.consumerCount fabric.links.size⟩
    consumers :=
      fabric.consumers
      |> updateEach ⟨#[]⟩ fun consumer row =>
          row.wire fabric.producerCount (fabric.links.size + consumer) }

-----------------------------------------------------------------------------------------
-- A registration is refused, fails, or adds new links
-----------------------------------------------------------------------------------------

/-- Links are added at the end of the store, unless there are any to add and none can be
allocated.
-/
theorem addLinks_cases (fabric : Fabric α) (count : Nat)
    : fabric.addLinks count = .error { fabric with linkCount := fabric.linkCount + 1 }
      ∨ (0 < count → fabric.config.channelCapacity < Ring.allocationLimit)
        ∧ ∃ total,
            fabric.addLinks count
              = .ok (
                  fabric.links.size,
                  { fabric with
                    links := fabric.links ++ Array.replicate count fabric.freshLink
                    linkCount := total }) := by
  rw [addLinks]
  rcases Nat.eq_zero_or_pos count with rfl | hpos
  · refine .inr ⟨fun h => absurd h (Nat.lt_irrefl 0), fabric.linkCount, ?_⟩
    simp
  · rw [if_neg (Nat.ne_of_gt hpos), Link.allocate?, Ring.allocate?]
    split
    · next hlarge =>
        exact .inl rfl
    · next link hlink =>
        by_cases hsmall : fabric.config.channelCapacity < Ring.allocationLimit
        · rw [if_pos hsmall] at hlink
          obtain rfl := Option.some.inj hlink
          exact .inr ⟨fun _ => hsmall, fabric.linkCount + .ofNat count, rfl⟩
        · rw [if_neg hsmall] at hlink
          cases hlink

/-- A registration of a consumer leaves all but the count of links as it is and issues no handle,
or it adds a consumer.
-/
theorem registerConsumer_cases (fabric : Fabric α)
    : ((∀ receiver, fabric.registerConsumer.answer ≠ .issued receiver)
        ∧ ∃ total, fabric.registerConsumer.fabric = { fabric with linkCount := total })
      ∨ (fabric.consumerCount < fabric.shape.maxConsumers
        ∧ (0 < fabric.producerCount → fabric.config.channelCapacity < Ring.allocationLimit)
        ∧ fabric.registerConsumer.answer = .issued ⟨fabric.id, fabric.consumerCount, 0, 0⟩
        ∧ ∃ total, fabric.registerConsumer.fabric = fabric.addConsumer total) := by
  by_cases hfull : fabric.shape.maxConsumers ≤ fabric.consumerCount
  · simp only [registerConsumer, if_pos hfull]
    exact .inl ⟨(fun _ issued => by cases issued), fabric.linkCount, rfl⟩
  · rcases addLinks_cases fabric fabric.producerCount with herror | ⟨hsmall, total, hok⟩
    · simp only [registerConsumer, if_neg hfull, herror]
      exact .inl ⟨(fun _ issued => by cases issued), fabric.linkCount + 1, rfl⟩
    · simp only [registerConsumer, if_neg hfull, hok]
      exact .inr ⟨Nat.lt_of_not_le hfull, hsmall, trivial, total, rfl⟩

/-- A registration in a fresh slot leaves all but the count of links as it is and issues no handle,
or it adds a producer.
-/
theorem registerFresh_cases (fabric : Fabric α)
    : ((∀ sender, fabric.registerFresh.answer ≠ .issued sender)
        ∧ ∃ total, fabric.registerFresh.fabric = { fabric with linkCount := total })
      ∨ (fabric.producerCount < fabric.shape.maxProducers
        ∧ (0 < fabric.consumerCount → fabric.config.channelCapacity < Ring.allocationLimit)
        ∧ fabric.registerFresh.answer = .issued ⟨fabric.id, fabric.producerCount, .first, 0⟩
        ∧ ∃ total, fabric.registerFresh.fabric = fabric.addProducer total) := by
  by_cases hfull : fabric.shape.maxProducers ≤ fabric.producerCount
  · simp only [registerFresh, if_pos hfull]
    exact .inl ⟨(fun _ issued => by cases issued), fabric.linkCount, rfl⟩
  · rcases addLinks_cases fabric fabric.consumerCount with herror | ⟨hsmall, total, hok⟩
    · simp only [registerFresh, if_neg hfull, herror]
      exact .inl ⟨(fun _ issued => by cases issued), fabric.linkCount + 1, rfl⟩
    · simp only [registerFresh, if_neg hfull, hok]
      exact .inr ⟨Nat.lt_of_not_le hfull, hsmall, trivial, total, rfl⟩

/-- Links at the end of the store change nothing for the names that there are. -/
theorem Wired.link?_links_append {fabric : Fabric α} (wired : fabric.Wired)
    (fresh : Array (Link α)) (producer consumer : Nat)
    : ((fabric.name? producer consumer).bind fun name => (fabric.links ++ fresh)[name]?)
        = fabric.link? producer consumer := by
  rw [link?_eq]
  cases hname : fabric.name? producer consumer with
  | none => rfl
  | some name => exact Array.getElem?_append_left (wired.grid.name_lt hname)

-----------------------------------------------------------------------------------------
-- A new consumer is one more column of the grid
-----------------------------------------------------------------------------------------

section AddConsumer

variable {fabric : Fabric α} (total : Counter)

theorem producerCount_addConsumer
    : (fabric.addConsumer total).producerCount = fabric.producerCount := by
  simp [producerCount, addConsumer, updateEach_eq_mapIdx]

theorem consumerCount_addConsumer
    : (fabric.addConsumer total).consumerCount = fabric.consumerCount + 1 :=
  Array.size_push _

theorem links_size_addConsumer
    : (fabric.addConsumer total).links.size = fabric.links.size + fabric.producerCount := by
  simp [addConsumer]

/-- Every producer slot has its row wired to the new consumer. -/
theorem producerRow_addConsumer {producer : Nat} (within : producer < fabric.producerCount)
    : (fabric.addConsumer total).producerRow producer
        = (fabric.producerRow producer).wire fabric.consumerCount
            (fabric.links.size + producer) := by
  have hin : producer < fabric.producers.size := within
  simp [producerRow, addConsumer, updateEach_eq_mapIdx, hin]

/-- The new consumer has a numbered row, and the other consumers keep theirs. -/
theorem consumerRow_addConsumer (consumer : Nat)
    : (fabric.addConsumer total).consumerRow consumer
        = if consumer = fabric.consumerCount then
            .numbered fabric.shape.maxProducers fabric.producerCount fabric.links.size
          else
            fabric.consumerRow consumer := by
  simp only [consumerRow, addConsumer, Array.getElem?_push, consumerCount]
  by_cases hnew : consumer = fabric.consumers.size <;> simp [hnew]

/-- The names after a consumer was added: new ones for its pairs, and the old ones elsewhere. -/
theorem Wired.name?_addConsumer (wired : fabric.Wired)
    (room : fabric.consumerCount < fabric.shape.maxConsumers) (producer consumer : Nat)
    : (fabric.addConsumer total).name? producer consumer
        = if consumer = fabric.consumerCount ∧ producer < fabric.producerCount then
            some (fabric.links.size + producer)
          else
            fabric.name? producer consumer := by
  by_cases within : producer < fabric.producerCount
  · have hgap : (fabric.producerRow producer).link? fabric.consumerCount = none :=
      wired.grid.name_eq_none (by omega)
    rw [name?, producerRow_addConsumer total within,
      Row.link?_wire _ _ (by rw [wired.producer_width _ within]; exact room) hgap]
    simp only [within, and_true]
    rfl
  · have hout : fabric.producers.size ≤ producer := Nat.le_of_not_lt within
    have hnew : (fabric.addConsumer total).producers.size ≤ producer :=
      Nat.le_trans (Nat.le_of_eq (producerCount_addConsumer total)) hout
    simp only [within, and_false, if_false]
    rw [name?, name?, producerRow, producerRow, Array.getElem?_eq_none hout,
      Array.getElem?_eq_none hnew]

theorem Wired.addConsumer (wired : fabric.Wired)
    (room : fabric.consumerCount < fabric.shape.maxConsumers)
    : (fabric.addConsumer total).Wired where
  producers_le := by
    rw [producerCount_addConsumer]
    exact wired.producers_le
  consumers_le := by
    rw [consumerCount_addConsumer]
    exact room
  producer_width := by
    intro producer within
    rw [producerCount_addConsumer] at within
    rw [producerRow_addConsumer total within, Row.width_wire]
    exact wired.producer_width producer within
  consumer_width := by
    intro consumer within
    rw [consumerCount_addConsumer] at within
    rw [consumerRow_addConsumer]
    split
    · exact Row.width_numbered _ _ _
    · exact wired.consumer_width consumer (by omega)
  shared := by
    intro producer consumer
    rw [consumerRow_addConsumer, wired.name?_addConsumer total room]
    have hle := wired.producers_le
    split
    · next hnew =>
        rw [Row.link?_numbered]
        split
        · next hin => rw [if_pos ⟨hnew, hin.2⟩]
        · next hin =>
            rw [if_neg (by omega)]
            exact (wired.grid.name_eq_none (by omega)).symm
    · next hold =>
        rw [if_neg (fun h => hold h.1)]
        exact wired.shared producer consumer
  grid := by
    have hname : (fabric.addConsumer total).name? = _ :=
      funext fun producer => funext fun consumer =>
        wired.name?_addConsumer total room producer consumer
    rw [producerCount_addConsumer, consumerCount_addConsumer, links_size_addConsumer, hname]
    exact wired.grid.addColumn

/-- A new consumer begins with a fresh link to every producer slot, and no other link changes. -/
theorem Wired.link?_addConsumer (wired : fabric.Wired)
    (room : fabric.consumerCount < fabric.shape.maxConsumers) (producer consumer : Nat)
    : (fabric.addConsumer total).link? producer consumer
        = if consumer = fabric.consumerCount ∧ producer < fabric.producerCount then
            some fabric.freshLink
          else
            fabric.link? producer consumer := by
  rw [link?_eq, wired.name?_addConsumer total room]
  split
  · next hnew =>
      simp [Fabric.addConsumer, hnew.2]
  · exact wired.link?_links_append _ producer consumer

end AddConsumer

-----------------------------------------------------------------------------------------
-- A new producer slot is one more row of the grid
-----------------------------------------------------------------------------------------

section AddProducer

variable {fabric : Fabric α} (total : Counter)

theorem producerCount_addProducer
    : (fabric.addProducer total).producerCount = fabric.producerCount + 1 :=
  Array.size_push _

theorem consumerCount_addProducer
    : (fabric.addProducer total).consumerCount = fabric.consumerCount := by
  simp [consumerCount, addProducer, updateEach_eq_mapIdx]

theorem links_size_addProducer
    : (fabric.addProducer total).links.size = fabric.links.size + fabric.consumerCount := by
  simp [addProducer]

/-- The new slot has a numbered row, and the other slots keep theirs. -/
theorem producerRow_addProducer (producer : Nat)
    : (fabric.addProducer total).producerRow producer
        = if producer = fabric.producerCount then
            .numbered fabric.shape.maxConsumers fabric.consumerCount fabric.links.size
          else
            fabric.producerRow producer := by
  simp only [producerRow, addProducer, Array.getElem?_push, producerCount]
  by_cases hnew : producer = fabric.producers.size <;> simp [hnew]

/-- Every consumer has its row wired to the new slot. -/
theorem consumerRow_addProducer {consumer : Nat} (within : consumer < fabric.consumerCount)
    : (fabric.addProducer total).consumerRow consumer
        = (fabric.consumerRow consumer).wire fabric.producerCount
            (fabric.links.size + consumer) := by
  have hin : consumer < fabric.consumers.size := within
  simp [consumerRow, addProducer, updateEach_eq_mapIdx, hin]

/-- The names after a slot was added: new ones for its pairs, and the old ones for all others. -/
theorem Wired.name?_addProducer (wired : fabric.Wired) (producer consumer : Nat)
    : (fabric.addProducer total).name? producer consumer
        = if producer = fabric.producerCount ∧ consumer < fabric.consumerCount then
            some (fabric.links.size + consumer)
          else
            fabric.name? producer consumer := by
  have hle := wired.consumers_le
  rw [name?, producerRow_addProducer]
  by_cases hnew : producer = fabric.producerCount
  · rw [if_pos hnew, Row.link?_numbered]
    split
    · next hin => rw [if_pos ⟨hnew, hin.2⟩]
    · next hin =>
        rw [if_neg (by omega)]
        exact (wired.grid.name_eq_none (by omega)).symm
  · rw [if_neg hnew, if_neg (fun h => hnew h.1)]
    rfl

theorem Wired.addProducer (wired : fabric.Wired)
    (room : fabric.producerCount < fabric.shape.maxProducers)
    : (fabric.addProducer total).Wired where
  producers_le := by
    rw [producerCount_addProducer]
    exact room
  consumers_le := by
    rw [consumerCount_addProducer]
    exact wired.consumers_le
  producer_width := by
    intro producer within
    rw [producerCount_addProducer] at within
    rw [producerRow_addProducer]
    split
    · exact Row.width_numbered _ _ _
    · exact wired.producer_width producer (by omega)
  consumer_width := by
    intro consumer within
    rw [consumerCount_addProducer] at within
    rw [consumerRow_addProducer total within, Row.width_wire]
    exact wired.consumer_width consumer within
  shared := by
    intro producer consumer
    rw [wired.name?_addProducer]
    by_cases within : consumer < fabric.consumerCount
    · have hgap : (fabric.consumerRow consumer).link? fabric.producerCount = none := by
        rw [wired.shared]
        exact wired.grid.name_eq_none (by omega)
      rw [consumerRow_addProducer total within,
        Row.link?_wire _ _ (by rw [wired.consumer_width _ within]; exact room) hgap,
        wired.shared]
      simp only [within, and_true]
    · have hout : (fabric.addProducer total).consumers.size ≤ consumer := by
        rw [← consumerCount, consumerCount_addProducer]
        exact Nat.le_of_not_lt within
      rw [if_neg (fun h => within h.2), wired.grid.name_eq_none (fun h => within h.2),
        consumerRow, Array.getElem?_eq_none hout]
      rfl
  grid := by
    have hname : (fabric.addProducer total).name? = _ :=
      funext fun producer => funext fun consumer =>
        wired.name?_addProducer total producer consumer
    rw [producerCount_addProducer, consumerCount_addProducer, links_size_addProducer, hname]
    exact wired.grid.addRow

/-- A new slot begins with a fresh link to every consumer, and no other link changes. -/
theorem Wired.link?_addProducer (wired : fabric.Wired) (producer consumer : Nat)
    : (fabric.addProducer total).link? producer consumer
        = if producer = fabric.producerCount ∧ consumer < fabric.consumerCount then
            some fabric.freshLink
          else
            fabric.link? producer consumer := by
  rw [link?_eq, wired.name?_addProducer total]
  split
  · next hnew =>
      simp [Fabric.addProducer, hnew.2]
  · exact wired.link?_links_append _ producer consumer

end AddProducer

-----------------------------------------------------------------------------------------
-- A reissue retires the links of its slot and no others
-----------------------------------------------------------------------------------------

/-- The values held in the link of a pair, oldest first. -/
def held (fabric : Fabric α) (producer consumer : Nat) : List α :=
  ((fabric.link? producer consumer).map Link.toList).getD []

/-- Retiring the link of a pair counts what it holds. -/
theorem Wired.retireLink_eq {fabric : Fabric α} (wired : fabric.Wired)
    {producer consumer name : Nat} (named : fabric.name? producer consumer = some name)
    {link : Link α} (found : fabric.link? producer consumer = some link)
    (sound : link.ring.Sound)
    : fabric.retireLink name = (link.toList.length, fabric.setLink name link.retire.2) := by
  obtain ⟨link', hplace, hlink⟩ := wired.links_of_name named
  obtain rfl : link' = link := Option.some.inj (hlink.symm.trans found)
  rw [retireLink_of_link hplace]
  exact congrArg (·, _) (Ring.length_toList sound).symm

/-- Retiring the link of a pair leaves what is held everywhere as it was. -/
theorem Wired.held_retireLink {fabric : Fabric α} (wired : fabric.Wired)
    {producer consumer name : Nat} (named : fabric.name? producer consumer = some name)
    {link : Link α} (found : fabric.link? producer consumer = some link)
    (producer' consumer' : Nat)
    : (fabric.setLink name link.retire.2).held producer' consumer'
        = fabric.held producer' consumer' := by
  rw [held, held, wired.link?_setLink named]
  split
  · next hat =>
      rw [hat.1, hat.2, found]
      rfl
  · rfl

/-- Retiring the link of a pair leaves the links of its producer slot sound. -/
theorem Wired.sound_retireLink {fabric : Fabric α} (wired : fabric.Wired)
    {producer consumer name : Nat} (named : fabric.name? producer consumer = some name)
    {link : Link α} (found : fabric.link? producer consumer = some link)
    (sound : ∀ consumer link, fabric.link? producer consumer = some link → link.ring.Sound)
    (consumer' : Nat) (link' : Link α)
    (found' : (fabric.setLink name link.retire.2).link? producer consumer' = some link')
    : link'.ring.Sound := by
  rw [wired.link?_setLink named] at found'
  split at found'
  · obtain rfl := Option.some.inj found'
    exact sound consumer link found
  · exact sound consumer' link' found'

/-- Retiring links of one producer slot, each once, retires those links and no others, and counts
what they hold. The induction is on the list of entries.
-/
theorem Wired.retireAlong {fabric : Fabric α} (wired : fabric.Wired) {producer : Nat}
    {wires : List Wire}
    (named : ∀ wire ∈ wires, fabric.name? producer wire.position = some wire.link)
    (once : (wires.map Wire.position).Nodup)
    (sound : ∀ consumer link, fabric.link? producer consumer = some link → link.ring.Sound)
    : SameWiring fabric (retireAlong wires fabric).2
      ∧ (∀ producer' consumer,
          (retireAlong wires fabric).2.link? producer' consumer
            = if producer' = producer ∧ consumer ∈ wires.map Wire.position then
                (fabric.link? producer' consumer).map fun link => link.retire.2
              else
                fabric.link? producer' consumer)
      ∧ (retireAlong wires fabric).1
          = (wires.map fun wire => (fabric.held producer wire.position).length).sum := by
  induction wires generalizing fabric with
  | nil =>
      refine ⟨.refl fabric, ?_, rfl⟩
      intro producer' consumer
      rw [if_neg (fun h => List.not_mem_nil h.2)]
      rfl
  | cons wire rest ih =>
      have hname := named wire List.mem_cons_self
      obtain ⟨link, _, hlink⟩ := wired.links_of_name hname
      obtain ⟨hfirst, honce⟩ := List.nodup_cons.mp once
      have hsame := sameWiring_setLink fabric wire.link link.retire.2
      have hnamed : ∀ next ∈ rest,
          (fabric.setLink wire.link link.retire.2).name? producer next.position
            = some next.link := by
        intro next member
        rw [hsame.name?]
        exact named next (List.mem_cons_of_mem _ member)
      obtain ⟨hrest, hlinks, hcount⟩ :=
        ih (hsame.wired wired) hnamed honce (wired.sound_retireLink hname hlink sound)
      have hheld : fabric.held producer wire.position = link.toList := by
        simp [held, hlink]
      simp only [Fabric.retireAlong,
        wired.retireLink_eq hname hlink (sound wire.position link hlink)]
      refine ⟨hsame.trans hrest, ?_, ?_⟩
      · intro producer' consumer
        rw [hlinks, wired.link?_setLink hname]
        by_cases hat : producer' = producer ∧ consumer = wire.position
        · -- The first link is retired by the first step, and by no later one.
          obtain ⟨rfl, rfl⟩ := hat
          rw [if_neg (fun h => hfirst h.2), if_pos ⟨rfl, rfl⟩,
            if_pos ⟨rfl, List.mem_cons_self⟩, hlink]
          rfl
        · rw [if_neg hat]
          have hiff : (producer' = producer ∧ consumer ∈ rest.map Wire.position)
              ↔ (producer' = producer ∧ consumer ∈ (wire :: rest).map Wire.position) := by
            constructor
            · exact fun h => ⟨h.1, List.mem_cons_of_mem _ h.2⟩
            · exact fun h =>
                ⟨h.1, (List.mem_cons.mp h.2).resolve_left fun he => hat ⟨h.1, he⟩⟩
          simp only [hiff]
      · simp only [hcount, wired.held_retireLink hname hlink, List.map_cons, List.sum_cons, hheld]

/-- Number of values held in all links of a producer slot. -/
def heldFrom (fabric : Fabric α) (producer : Nat) : Nat :=
  ((List.range fabric.consumerCount).map fun consumer =>
    (fabric.held producer consumer).length).sum

/-- What is logged when a slot is issued again: how many values became stale, if any did, and that
the slot was reclaimed.
-/
def reissueLog (producer stale : Nat) : List Event :=
  (if 0 < stale then [.staleMarked producer stale] else []) ++ [.producerReclaimed producer]

/-- Changing what a slot says about its registration leaves its row as it is. -/
theorem sameWiring_setSlot (fabric : Fabric α) (producer : Nat) (changed : ProducerSlot)
    (row : changed.row = fabric.producerRow producer) (freed : List Nat)
    : SameWiring fabric
        { fabric with
          producers := fabric.producers.setIfInBounds producer changed
          freed := freed } where
  id := rfl
  shape := rfl
  config := rfl
  producers := Array.size_setIfInBounds
  rows := by
    intro producer'
    simp only [producerRow, Array.getElem?_setIfInBounds] at row ⊢
    split
    · next hsame =>
        subst hsame
        split
        · exact row
        · next hout => rw [Array.getElem?_eq_none (Nat.le_of_not_lt hout)]
    · rfl
  consumers := rfl
  links_size := rfl

/-- Only the store and the rows decide which link a pair has. -/
theorem SameWiring.link? {before after : Fabric α} (same : SameWiring before after)
    (links : after.links = before.links) (producer consumer : Nat)
    : after.link? producer consumer = before.link? producer consumer := by
  rw [link?_eq, link?_eq, same.name?, links]

/-- Retiring the front of a slot's row retires every link of the slot and counts all they hold. -/
theorem Wired.retireFront {fabric : Fabric α} (wired : fabric.Wired) {producer : Nat}
    (within : producer < fabric.producerCount)
    (sound : ∀ consumer link, fabric.link? producer consumer = some link → link.ring.Sound)
    : SameWiring fabric (Fabric.retireAlong (fabric.producerRow producer).front fabric).2
      ∧ (∀ producer' consumer,
          (Fabric.retireAlong (fabric.producerRow producer).front fabric).2.link?
              producer' consumer
            = if producer' = producer then
                (fabric.link? producer' consumer).map fun link => link.retire.2
              else
                fabric.link? producer' consumer)
      ∧ (Fabric.retireAlong (fabric.producerRow producer).front fabric).1
          = fabric.heldFrom producer := by
  have hwired : ∀ consumer,
      ((fabric.producerRow producer).link? consumer).isSome ↔ consumer < fabric.consumerCount := by
    intro consumer
    exact (wired.grid.wired_iff producer consumer).trans (and_iff_right within)
  -- The entries that are wired come first in the row, one for each consumer.
  have hpositions : (fabric.producerRow producer).front.map Wire.position
      = List.range fabric.consumerCount := by
    rw [Row.front, Row.positions_run hwired, wired.producer_width producer within,
      List.range_eq_range', Nat.sub_zero, Nat.min_eq_right wired.consumers_le]
  have hnamed : ∀ wire ∈ (fabric.producerRow producer).front,
      fabric.name? producer wire.position = some wire.link :=
    fun wire member => (Row.mem_run member).2.2
  obtain ⟨hsame, hlinks, hcount⟩ :=
    wired.retireAlong hnamed (by rw [hpositions]; exact List.nodup_range) sound
  refine ⟨hsame, ?_, ?_⟩
  · intro producer' consumer
    rw [hlinks, hpositions]
    by_cases hp : producer' = producer
    · subst hp
      by_cases hc : consumer < fabric.consumerCount
      · rw [if_pos ⟨rfl, List.mem_range.mpr hc⟩, if_pos rfl]
      · have hnone : fabric.link? producer' consumer = none := by
          rw [← Option.not_isSome_iff_eq_none, wired.link?_isSome]
          exact fun h => hc h.2
        rw [hnone]
        split <;> split <;> rfl
    · rw [if_neg (fun h => hp h.1), if_neg hp]
  · rw [hcount, heldFrom, ← hpositions, List.map_map]
    rfl

/-- The log of a reissue names the slot that is issued again and no other. -/
theorem mem_reissueLog (producer stale producer' : Nat)
    : .producerReclaimed producer' ∈ reissueLog producer stale ↔ producer' = producer := by
  rw [reissueLog]
  split <;> simp

/-- A reissue reports what retiring the links of the slot counts, if reissues drain. -/
theorem reclaim_log (fabric : Fabric α) (producer : Nat) (slot : ProducerSlot)
    : (fabric.reclaim producer slot).log
        = reissueLog producer
            (if fabric.config.drainOnReclaim then
              (Fabric.retireAlong slot.row.front fabric).1
            else
              0) := by
  simp only [reclaim, reissueLog]
  cases fabric.config.drainOnReclaim <;> rfl

/-- A reissue keeps the grid. If reissues drain it retires every link of the slot and reports all
that they hold, and otherwise it leaves the links as they are.
-/
theorem Wired.reclaim {fabric : Fabric α} (wired : fabric.Wired) {producer : Nat}
    {slot : ProducerSlot} (found : fabric.producers[producer]? = some slot)
    (sound : ∀ consumer link, fabric.link? producer consumer = some link → link.ring.Sound)
    : SameWiring fabric (fabric.reclaim producer slot).fabric
      ∧ (∀ producer' consumer,
          (fabric.reclaim producer slot).fabric.link? producer' consumer
            = if fabric.config.drainOnReclaim = true ∧ producer' = producer then
                (fabric.link? producer' consumer).map fun link => link.retire.2
              else
                fabric.link? producer' consumer)
      ∧ (fabric.reclaim producer slot).log
          = reissueLog producer
              (if fabric.config.drainOnReclaim then fabric.heldFrom producer else 0) := by
  obtain ⟨within, _⟩ := Array.getElem?_eq_some_iff.mp found
  have hrow : slot.row = fabric.producerRow producer := by
    rw [producerRow, found]
    rfl
  obtain ⟨hsame, hlinks, hcount⟩ := wired.retireFront within sound
  rw [reclaim_log fabric producer slot, hrow, hcount]
  simp only [Fabric.reclaim, hrow]
  cases hd : fabric.config.drainOnReclaim
  · have hset := fabric.sameWiring_setSlot producer
      { slot with ticket := slot.ticket.next } hrow fabric.freed
    simp only [hrow] at hset
    refine ⟨hset, ?_, trivial⟩
    intro producer' consumer
    simp only [Bool.false_eq_true, false_and, if_false]
    exact hset.link? rfl producer' consumer
  · have hset := (Fabric.retireAlong (fabric.producerRow producer).front fabric).2
      |>.sameWiring_setSlot producer { slot with ticket := slot.ticket.next }
        (hrow.trans (hsame.rows producer).symm)
        (Fabric.retireAlong (fabric.producerRow producer).front fabric).2.freed
    simp only [hrow] at hset
    refine ⟨hsame.trans hset, ?_, trivial⟩
    intro producer' consumer
    simp only [true_and]
    rw [← hlinks]
    exact hset.link? rfl producer' consumer

-----------------------------------------------------------------------------------------
-- A producer's registration issues a fresh slot or a freed one
-----------------------------------------------------------------------------------------

/-- If no slot is free, a fresh one is taken. -/
theorem registerProducer_of_none_freed {fabric : Fabric α} (none : fabric.freed = [])
    : fabric.registerProducer = fabric.registerFresh := by
  simp only [registerProducer, none]

/-- If what was freed last is no slot, a fresh one is taken as well. -/
theorem registerProducer_of_missing {fabric : Fabric α} {producer : Nat} {rest : List Nat}
    (freed : fabric.freed = producer :: rest) (missing : fabric.producers[producer]? = none)
    : fabric.registerProducer = { fabric with freed := rest }.registerFresh := by
  simp only [registerProducer, freed, missing]

/-- The slot that was freed last is issued again. -/
theorem registerProducer_of_freed {fabric : Fabric α} {producer : Nat} {rest : List Nat}
    {slot : ProducerSlot} (freed : fabric.freed = producer :: rest)
    (found : fabric.producers[producer]? = some slot)
    : fabric.registerProducer = { fabric with freed := rest }.reclaim producer slot := by
  simp only [registerProducer, freed, found]

/-- A registration of a producer takes a slot off the list of freed ones, if there is any, and then
issues it again or a fresh one instead.
-/
theorem registerProducer_cases (fabric : Fabric α)
    : ∃ freed,
        fabric.registerProducer = { fabric with freed := freed }.registerFresh
        ∨ ∃ producer slot,
            fabric.producers[producer]? = some slot
            ∧ fabric.registerProducer = { fabric with freed := freed }.reclaim producer slot := by
  rw [registerProducer]
  cases hfreed : fabric.freed with
  | nil =>
      have hsame : fabric = { fabric with freed := [] } := by rw [← hfreed]
      exact ⟨[], .inl (congrArg registerFresh hsame)⟩
  | cons producer rest =>
      refine ⟨rest, ?_⟩
      dsimp only
      cases hslot : fabric.producers[producer]? with
      | none => exact .inl rfl
      | some slot => exact .inr ⟨producer, slot, hslot, rfl⟩

/-- A fresh slot is not reported as reclaimed. -/
theorem registerFresh_log (fabric : Fabric α) (producer : Nat)
    : .producerReclaimed producer ∉ fabric.registerFresh.log := by
  rw [registerFresh]
  dsimp only
  split
  · simp
  · split <;> simp

/-- Ending a registration changes neither the grid nor any link. -/
theorem unregister_sameWiring (fabric : Fabric α) (sender : Sender)
    : SameWiring fabric (fabric.unregister sender).fabric
      ∧ (fabric.unregister sender).fabric.links = fabric.links := by
  rw [unregister]
  split
  · exact ⟨.refl fabric, rfl⟩
  · split
    · exact ⟨.refl fabric, rfl⟩
    · next slot found =>
        split
        · exact ⟨.refl fabric, rfl⟩
        · refine ⟨fabric.sameWiring_setSlot _ _ ?_ _, rfl⟩
          rw [producerRow, found]
          rfl

end Crossbar.Fabric
