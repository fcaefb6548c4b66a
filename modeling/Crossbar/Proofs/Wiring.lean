import Crossbar.Fabric.FanIn
import Crossbar.Fabric.FanOut
import Crossbar.Fabric.Registration

/-! Every pair of a producer slot and a consumer slot has a link of its own, which the rows of both
name. Registrations extend this grid by one row or column at a time; all other operations work on
single links and leave the grid as it is.
-/

namespace Crossbar

/-- A naming gives every pair of positions within bounds a place of its own among `size` places,
and no place to any other pair.
-/
structure Grid (producers consumers size : Nat) (name : Nat → Nat → Option Nat) : Prop where
  wired_iff
    : ∀ producer consumer,
        (name producer consumer).isSome ↔ producer < producers ∧ consumer < consumers
  name_lt : ∀ {producer consumer place}, name producer consumer = some place → place < size
  name_inj
    : ∀ {producer consumer producer' consumer' place},
        name producer consumer = some place
        → name producer' consumer' = some place
        → producer = producer' ∧ consumer = consumer'

namespace Grid

variable {producers consumers size : Nat} {name : Nat → Nat → Option Nat}

/-- Exchanging the two sides of a grid gives a grid. -/
theorem transpose (grid : Grid producers consumers size name)
    : Grid consumers producers size (fun consumer producer => name producer consumer) where
  wired_iff := fun consumer producer => (grid.wired_iff producer consumer).trans And.comm
  name_lt := grid.name_lt
  name_inj := fun first second => (grid.name_inj first second).symm

/-- A pair out of bounds has no place. -/
theorem name_eq_none (grid : Grid producers consumers size name) {producer consumer : Nat}
    (outside : ¬(producer < producers ∧ consumer < consumers))
    : name producer consumer = none := by
  rw [← grid.wired_iff] at outside
  simpa using outside

/-- One more consumer, with new places for its pairs with all producers. -/
theorem addColumn (grid : Grid producers consumers size name)
    : Grid producers (consumers + 1) (size + producers)
        (fun producer consumer =>
          if consumer = consumers ∧ producer < producers then some (size + producer)
          else name producer consumer) where
  wired_iff := by
    intro producer consumer
    have hold := grid.wired_iff producer consumer
    split
    · next hnew =>
        simp only [Option.isSome_some, true_iff]
        omega
    · next hnew =>
        rw [hold]
        omega
  name_lt := by
    intro producer consumer place found
    split at found
    · next hnew =>
        obtain rfl := Option.some.inj found
        omega
    · have hlt := grid.name_lt found
      omega
  name_inj := by
    intro producer consumer producer' consumer' place first second
    -- New places lie past all old ones, so two pairs of one place are both new or both old.
    split at first <;> split at second
    · next hnew hnew' =>
        have hsame := Option.some.inj (first.trans second.symm)
        omega
    · next hnew _ =>
        have hlt := grid.name_lt second
        obtain rfl := Option.some.inj first
        omega
    · next _ hnew =>
        have hlt := grid.name_lt first
        obtain rfl := Option.some.inj second
        omega
    · exact grid.name_inj first second

/-- One more producer, with new places for its pairs with all consumers. -/
theorem addRow (grid : Grid producers consumers size name)
    : Grid (producers + 1) consumers (size + consumers)
        (fun producer consumer =>
          if producer = producers ∧ consumer < consumers then some (size + consumer)
          else name producer consumer) :=
  grid.transpose.addColumn.transpose

end Grid

namespace Fabric

variable {α : Type}

/-- The place in the store of the link from a producer slot to a consumer slot. -/
def name? (fabric : Fabric α) (producer consumer : Nat) : Option Nat :=
  (fabric.producerRow producer).link? consumer

theorem link?_eq (fabric : Fabric α) (producer consumer : Nat)
    : fabric.link? producer consumer
        = (fabric.name? producer consumer).bind fun name => fabric.links[name]? := rfl

/-- The rows of both sides name one grid of links, and no side has more slots than its rows have
entries.
-/
structure Wired (fabric : Fabric α) : Prop where
  producers_le : fabric.producerCount ≤ fabric.shape.maxProducers
  consumers_le : fabric.consumerCount ≤ fabric.shape.maxConsumers
  producer_width
    : ∀ producer < fabric.producerCount,
        (fabric.producerRow producer).width = fabric.shape.maxConsumers
  consumer_width
    : ∀ consumer < fabric.consumerCount,
        (fabric.consumerRow consumer).width = fabric.shape.maxProducers
  shared
    : ∀ producer consumer,
        (fabric.consumerRow consumer).link? producer = fabric.name? producer consumer
  grid : Grid fabric.producerCount fabric.consumerCount fabric.links.size fabric.name?

/-- A pair that has a place in the store has a link there. -/
theorem Wired.link?_isSome {fabric : Fabric α} (wired : fabric.Wired) (producer consumer : Nat)
    : (fabric.link? producer consumer).isSome
        ↔ producer < fabric.producerCount ∧ consumer < fabric.consumerCount := by
  rw [← wired.grid.wired_iff, link?_eq]
  cases hn : fabric.name? producer consumer with
  | none => simp
  | some name => simp [wired.grid.name_lt hn]

/-- The link of a pair stands at the place that its name says. -/
theorem Wired.links_of_name {fabric : Fabric α} (wired : fabric.Wired)
    {producer consumer name : Nat} (named : fabric.name? producer consumer = some name)
    : ∃ link, fabric.links[name]? = some link ∧ fabric.link? producer consumer = some link := by
  have hlt := wired.grid.name_lt named
  refine ⟨fabric.links[name], Array.getElem?_eq_getElem hlt, ?_⟩
  rw [link?_eq, named, Option.bind_some, Array.getElem?_eq_getElem hlt]

-----------------------------------------------------------------------------------------
-- Most operations leave the grid as it is
-----------------------------------------------------------------------------------------

/-- Both fabrics have the same slots and rows, and stores of the same size. -/
structure SameWiring (before after : Fabric α) : Prop where
  id : after.id = before.id
  shape : after.shape = before.shape
  config : after.config = before.config
  producers : after.producerCount = before.producerCount
  rows : ∀ producer, after.producerRow producer = before.producerRow producer
  consumers : after.consumers = before.consumers
  links_size : after.links.size = before.links.size

theorem SameWiring.refl (fabric : Fabric α) : SameWiring fabric fabric :=
  ⟨rfl, rfl, rfl, rfl, fun _ => rfl, rfl, rfl⟩

theorem SameWiring.trans {first second third : Fabric α} (hf : SameWiring first second)
    (hs : SameWiring second third)
    : SameWiring first third where
  id := hs.id.trans hf.id
  shape := hs.shape.trans hf.shape
  config := hs.config.trans hf.config
  producers := hs.producers.trans hf.producers
  rows := fun producer => (hs.rows producer).trans (hf.rows producer)
  consumers := hs.consumers.trans hf.consumers
  links_size := hs.links_size.trans hf.links_size

theorem SameWiring.consumerRow {before after : Fabric α} (same : SameWiring before after)
    (consumer : Nat)
    : after.consumerRow consumer = before.consumerRow consumer := by
  rw [Fabric.consumerRow, Fabric.consumerRow, same.consumers]

theorem SameWiring.name? {before after : Fabric α} (same : SameWiring before after)
    (producer consumer : Nat)
    : after.name? producer consumer = before.name? producer consumer := by
  rw [Fabric.name?, Fabric.name?, same.rows]

/-- The grid depends only on what both fabrics have in common. -/
theorem SameWiring.wired {before after : Fabric α} (same : SameWiring before after)
    (wired : before.Wired)
    : after.Wired := by
  have hconsumers : after.consumerCount = before.consumerCount :=
    congrArg Array.size same.consumers
  have hname : after.name? = before.name? := by
    funext producer consumer
    exact same.name? producer consumer
  refine {
    producers_le := ?_
    consumers_le := ?_
    producer_width := ?_
    consumer_width := ?_
    shared := ?_
    grid := ?_
  }
  · rw [same.producers, same.shape]
    exact wired.producers_le
  · rw [hconsumers, same.shape]
    exact wired.consumers_le
  · intro producer within
    rw [same.producers] at within
    rw [same.rows, same.shape]
    exact wired.producer_width producer within
  · intro consumer within
    rw [hconsumers] at within
    rw [same.consumerRow, same.shape]
    exact wired.consumer_width consumer within
  · intro producer consumer
    rw [same.consumerRow, same.name?]
    exact wired.shared producer consumer
  · rw [same.producers, hconsumers, same.links_size, hname]
    exact wired.grid

/-- Puts a link at a place of the store. -/
def setLink (fabric : Fabric α) (name : Nat) (link : Link α) : Fabric α :=
  { fabric with links := fabric.links.setIfInBounds name link }

theorem sameWiring_setLink (fabric : Fabric α) (name : Nat) (link : Link α)
    : SameWiring fabric (fabric.setLink name link) where
  id := rfl
  shape := rfl
  config := rfl
  producers := rfl
  rows := fun _ => rfl
  consumers := rfl
  links_size := Array.size_setIfInBounds

/-- Putting a link at the place of one pair changes the link of that pair and of no other. -/
theorem Wired.link?_setLink {fabric : Fabric α} (wired : fabric.Wired)
    {producer consumer name : Nat} (named : fabric.name? producer consumer = some name)
    (link : Link α) (producer' consumer' : Nat)
    : (fabric.setLink name link).link? producer' consumer'
        = if producer' = producer ∧ consumer' = consumer then some link
          else fabric.link? producer' consumer' := by
  have hlt := wired.grid.name_lt named
  have hname : (fabric.setLink name link).name? producer' consumer'
      = fabric.name? producer' consumer' := rfl
  rw [link?_eq, link?_eq, hname]
  split
  · next hsame =>
      rw [hsame.1, hsame.2, named, Option.bind_some]
      simp [setLink, hlt]
  · next hother =>
      cases hn : fabric.name? producer' consumer' with
      | none => rfl
      | some name' =>
          have hne : name ≠ name' := by
            rintro rfl
            exact hother (wired.grid.name_inj hn named)
          simp [setLink, hne]

/-- Offering a value to a link pushes it there. -/
theorem offer_of_link {fabric : Fabric α} {name : Nat} {link : Link α}
    (found : fabric.links[name]? = some link) (value : α)
    : fabric.offer name value
        = ((link.push value).1, fabric.setLink name (link.push value).2) := by
  simp only [offer, takeOut, found, Array.setIfInBounds_setIfInBounds]
  rfl

/-- Drawing from an entry pops its link. -/
theorem draw_of_link {fabric : Fabric α} (wire : Wire) {link : Link α}
    (found : fabric.links[wire.link]? = some link)
    : fabric.draw wire
        = (⟨link.pop.1.value.map (⟨wire.position, ·⟩),
              link.pop.1.discarded.map (⟨wire.position, ·⟩)⟩,
            fabric.setLink wire.link link.pop.2) := by
  simp only [draw, takeOut, found, Array.setIfInBounds_setIfInBounds]
  rfl

/-- Retiring a place of the store retires the link there. -/
theorem retireLink_of_link {fabric : Fabric α} {name : Nat} {link : Link α}
    (found : fabric.links[name]? = some link)
    : fabric.retireLink name = (link.retire.1, fabric.setLink name link.retire.2) := by
  simp only [retireLink, takeOut, found, Array.setIfInBounds_setIfInBounds]
  rfl

end Fabric

end Crossbar
