import Crossbar.Proofs.Standing
import Crossbar.Proofs.Stock

/-! Fabrics that are alike: they differ in the tickets of their slots at most, and in stale marks
that the reader has passed for good. An operation that finds the same handles registered in both has
the same answer in both and leaves them alike.
-/

namespace Crossbar

variable {α : Type}

-----------------------------------------------------------------------------------------
-- Links that differ in marks left behind
-----------------------------------------------------------------------------------------

namespace Link

/-- While fewer values than these have left a link, a mark that its reader has passed stays behind
the reader.
-/
def passLimit : Nat := 0x8000000000000000

/-- Two links with the same ring. Their marks are the same as well, or the reader has passed both
and its total is below `bound`.
-/
structure Alike (bound : Nat) (first second : Link α) : Prop where
  ring : second.ring = first.ring
  marks
    : second.staleUntil = first.staleUntil
      ∨ first.staleUntil.toNat ≤ first.ring.popped.toNat
        ∧ second.staleUntil.toNat ≤ first.ring.popped.toNat
        ∧ first.ring.popped.toNat < bound

section Alike

variable {bound : Nat} {first second : Link α}

theorem Alike.refl (bound : Nat) (link : Link α) : link.Alike bound link :=
  ⟨rfl, .inl rfl⟩

theorem Alike.mono (alike : first.Alike bound second) {wider : Nat} (le : bound ≤ wider)
    : first.Alike wider second where
  ring := alike.ring
  marks := by
    refine alike.marks.imp_right ?_
    rintro ⟨passed, passed', low⟩
    exact ⟨passed, passed', Nat.lt_of_lt_of_le low le⟩

theorem Alike.toList (alike : first.Alike bound second) : second.toList = first.toList :=
  congrArg Ring.toList alike.ring

/-- Where the reader has passed the mark nothing is stale. -/
theorem staleCount_of_passed {link : Link α}
    (passed : link.staleUntil.toNat ≤ link.ring.popped.toNat)
    (low : link.ring.popped.toNat < passLimit)
    : link.staleCount = 0 := by
  have hahead : Counter.isBehind link.ring.popped link.staleUntil = false := by
    have hpopped := UInt64.toNat_lt link.ring.popped
    rw [Counter.isBehind, decide_eq_false_iff_not, Counter.lead, UInt64.toNat_sub]
    rw [passLimit] at low
    omega
  rw [staleCount, hahead]
  rfl

theorem Alike.staleCount (alike : first.Alike passLimit second)
    : second.staleCount = first.staleCount := by
  rcases alike.marks with same | ⟨passed, passed', low⟩
  · rw [Link.staleCount, alike.ring, same, Link.staleCount]
  · rw [staleCount_of_passed passed low,
      staleCount_of_passed (alike.ring ▸ passed') (alike.ring ▸ low)]

theorem Alike.push (alike : first.Alike bound second) (value : α)
    : (second.push value).1 = (first.push value).1
      ∧ (first.push value).2.Alike bound (second.push value).2 := by
  have hring : (second.push value).2.ring = (first.push value).2.ring :=
    congrArg (fun ring => (ring.push value).2) alike.ring
  have hpopped : (first.push value).2.ring.popped = first.ring.popped :=
    Ring.popped_push first.ring value
  refine ⟨congrArg (fun ring => (ring.push value).1) alike.ring, hring, ?_⟩
  rw [hpopped]
  exact alike.marks

/-- A pop leaves the mark where it is. -/
theorem staleUntil_pop (link : Link α) : link.pop.2.staleUntil = link.staleUntil := by
  rw [pop_def]

/-- Both links yield the same. A mark that was passed stays passed, because the reader only moves
on, by one value at most.
-/
theorem Alike.pop (alike : first.Alike passLimit second) (sound : first.ring.Sound)
    : second.pop.1 = first.pop.1
      ∧ first.pop.2.Alike (passLimit + 1) second.pop.2
      ∧ (first.pop.1.value = none → first.pop.2.Alike passLimit second.pop.2) := by
  have hstale := alike.staleCount
  have hring : second.pop.2.ring = first.pop.2.ring := by
    simp only [pop_def, alike.ring, hstale]
  refine ⟨by simp only [pop_def, alike.ring, hstale], ?_⟩
  rcases alike.marks with same | ⟨passed, passed', low⟩
  · have hmarks : second.pop.2.staleUntil = first.pop.2.staleUntil := by
      rw [staleUntil_pop, staleUntil_pop, same]
    exact ⟨⟨hring, .inl hmarks⟩, fun _ => ⟨hring, .inl hmarks⟩⟩
  · obtain ⟨_, hdraw, _⟩ := pop_eq sound
    have hnone : first.stale = [] := by
      rw [stale, staleCount_of_passed passed low, List.take_zero]
    have hmoved := popped_pop sound
    rw [hnone, List.length_nil, Nat.zero_add] at hmoved
    have htotal : first.pop.2.ring.popped.toNat
        = first.ring.popped.toNat + first.live.head?.toList.length := by
      have hone : first.live.head?.toList.length ≤ 1 := by
        cases first.live.head? <;> simp
      rw [hmoved, UInt64.toNat_add, UInt64.toNat_ofNat']
      rw [passLimit] at low
      omega
    have hmarks {bound : Nat} (within : first.pop.2.ring.popped.toNat < bound)
        : first.pop.2.Alike bound second.pop.2 := by
      refine ⟨hring, .inr ⟨?_, ?_, within⟩⟩
      · rw [staleUntil_pop]
        omega
      · rw [staleUntil_pop]
        omega
    constructor
    · apply hmarks
      have hone : first.live.head?.toList.length ≤ 1 := by
        cases first.live.head? <;> simp
      omega
    · intro empty
      apply hmarks
      rw [hdraw] at empty
      have hzero : first.live.head? = none := empty
      rw [htotal, hzero]
      exact low

/-- Retired links with the same ring are the same. -/
theorem Alike.retire (alike : first.Alike bound second)
    : first.retire.2.Alike bound second.retire.2 :=
  ⟨alike.ring, .inl (congrArg Ring.pushed alike.ring)⟩

end Alike

/-- Retiring a link that holds nothing sets a mark that the reader has just passed, as it had passed
the mark before.
-/
theorem Follows.alike_retire {drain : Bool} {link : Link α} {motions : List (Motion α)}
    (follows : link.Follows drain motions) (empty : link.toList = [])
    (low : (Motion.departed motions).length < passLimit)
    : link.Alike passLimit link.retire.2 := by
  have hentered : Motion.entered motions = Motion.departed motions := by
    rw [follows.entered_eq, empty, List.append_nil]
  have hbound : Motion.staleBound drain motions ≤ (Motion.departed motions).length := by
    rw [Motion.staleBound, ← hentered]
    split
    · exact Motion.overtaken_le motions
    · exact Nat.zero_le _
  have hpopped : link.ring.popped.toNat = (Motion.departed motions).length := by
    rw [follows.popped_eq, UInt64.toNat_ofNat']
    rw [passLimit] at low
    omega
  refine ⟨rfl, .inr ⟨?_, ?_, hpopped ▸ low⟩⟩
  · rw [hpopped, follows.staleUntil_eq, UInt64.toNat_ofNat']
    exact Nat.le_trans (Nat.mod_le _ _) hbound
  · change link.ring.pushed.toNat ≤ _
    rw [hpopped, follows.pushed_eq, hentered, UInt64.toNat_ofNat']
    exact Nat.mod_le _ _

end Link

-----------------------------------------------------------------------------------------
-- Fabrics that differ in tickets
-----------------------------------------------------------------------------------------

/-- Two senders that differ in their tickets at most. -/
structure Sender.Alike (first second : Sender) : Prop where
  fabric : second.fabric = first.fabric
  slot : second.slot = first.slot
  cursor : second.cursor = first.cursor

/-- Two answers to the registration of a producer that differ in the ticket issued at most. -/
inductive Registration.Alike : Registration Sender → Registration Sender → Prop
  | issued {first second : Sender} (senders : first.Alike second)
    : Alike (.issued first) (.issued second)
  | refused : Alike .refused .refused
  | failed {failure : Failure} : Alike (.failed failure) (.failed failure)

namespace Fabric

/-- The cursor that a producer slot keeps for its next occupant. -/
def cursor? (fabric : Fabric α) (producer : Nat) : Option Nat :=
  fabric.producers[producer]?.map ProducerSlot.cursor

/-- Two fabrics of the same slots, rows and free slots, with the same cursors where a slot is free
and links that are alike.
-/
structure Alike (bound : Nat) (first second : Fabric α) : Prop where
  same : SameWiring first second
  linkCount : second.linkCount = first.linkCount
  freed : second.freed = first.freed
  cursors : ∀ producer ∈ first.freed, second.cursor? producer = first.cursor? producer
  links
    : ∀ {producer consumer link link'},
        first.link? producer consumer = some link
        → second.link? producer consumer = some link'
        → link.Alike bound link'

end Fabric

/-- Two operations on slots with answers that are related, the same log, and fabrics that are alike
afterwards.
-/
structure Enrolment.Alike {β : Type} (bound : Nat) (answers : β → β → Prop)
    (first second : Enrolment β α)
    : Prop where
  answer : answers first.answer second.answer
  log : second.log = first.log
  fabric : first.fabric.Alike bound second.fabric

namespace Fabric

theorem SameWiring.symm {first second : Fabric α} (same : SameWiring first second)
    : SameWiring second first where
  id := same.id.symm
  shape := same.shape.symm
  config := same.config.symm
  producers := same.producers.symm
  rows := fun producer => (same.rows producer).symm
  consumers := same.consumers.symm
  links_size := same.links_size.symm

/-- Work that keeps the wiring on both sides keeps what they have in common. -/
theorem SameWiring.lift {first second first' second' : Fabric α} (same : SameWiring first second)
    (after : SameWiring first first') (after' : SameWiring second second')
    : SameWiring first' second' :=
  (after.symm.trans same).trans after'

theorem SameWiring.consumerCount {first second : Fabric α} (same : SameWiring first second)
    : second.consumerCount = first.consumerCount :=
  congrArg Array.size same.consumers

theorem cursor?_setSlot (fabric : Fabric α) {producer : Nat} {slot : ProducerSlot}
    (found : fabric.producers[producer]? = some slot) (changed : ProducerSlot) (producer' : Nat)
    : (fabric.setSlot producer changed).cursor? producer'
        = if producer' = producer then some changed.cursor else fabric.cursor? producer' := by
  obtain ⟨within, _⟩ := Array.getElem?_eq_some_iff.mp found
  simp only [cursor?, setSlot, Array.getElem?_setIfInBounds]
  by_cases same : producer' = producer
  · simp [same, within]
  · simp [same, Ne.symm same]

theorem cursor?_addConsumer (fabric : Fabric α) (total : Counter) (producer : Nat)
    : (fabric.addConsumer total).cursor? producer = fabric.cursor? producer := by
  simp only [cursor?, addConsumer, updateEach_eq_mapIdx, Array.getElem?_mapIdx, Option.map_map]
  rfl

theorem cursor?_addProducer (fabric : Fabric α) (total : Counter) (producer : Nat)
    : (fabric.addProducer total).cursor? producer
        = if producer = fabric.producerCount then some 0 else fabric.cursor? producer := by
  simp only [cursor?, addProducer, Array.getElem?_push]
  split
  · next fresh => exact (if_pos fresh).symm
  · next other => exact (if_neg other).symm

section Alike

variable {bound : Nat} {first second : Fabric α}

theorem Alike.refl (bound : Nat) (fabric : Fabric α) : fabric.Alike bound fabric where
  same := .refl fabric
  linkCount := rfl
  freed := rfl
  cursors := fun _ _ => rfl
  links := by
    intro producer consumer link link' found found'
    obtain rfl := Option.some.inj (found.symm.trans found')
    exact .refl bound link

theorem Alike.mono (alike : first.Alike bound second) {wider : Nat} (le : bound ≤ wider)
    : first.Alike wider second where
  same := alike.same
  linkCount := alike.linkCount
  freed := alike.freed
  cursors := alike.cursors
  links := fun found found' => (alike.links found found').mono le

/-- The links of a pair come together. -/
theorem Alike.link?_of_second (alike : first.Alike bound second) (wired : first.Wired)
    {producer consumer : Nat} {link' : Link α}
    (found' : second.link? producer consumer = some link')
    : ∃ link, first.link? producer consumer = some link ∧ link.Alike bound link' := by
  have hsome : (first.link? producer consumer).isSome := by
    rw [wired.link?_isSome, ← alike.same.producers, ← alike.same.consumerCount,
      ← (alike.same.wired wired).link?_isSome, found']
    rfl
  obtain ⟨link, found⟩ := Option.isSome_iff_exists.mp hsome
  exact ⟨link, found, alike.links found found'⟩

theorem Alike.counts (alike : first.Alike bound second) : second.counts = first.counts := by
  simp only [Fabric.counts, alike.same.producers, alike.same.consumerCount, alike.linkCount]

theorem Alike.held (alike : first.Alike bound second) (wired : first.Wired)
    (producer consumer : Nat)
    : second.held producer consumer = first.held producer consumer := by
  have hsome : (second.link? producer consumer).isSome
      ↔ (first.link? producer consumer).isSome := by
    rw [wired.link?_isSome, (alike.same.wired wired).link?_isSome, alike.same.producers,
      alike.same.consumerCount]
  rw [Fabric.held, Fabric.held]
  cases found : first.link? producer consumer with
  | none =>
      rw [found] at hsome
      rw [Option.not_isSome_iff_eq_none.mp (hsome.not.mpr Bool.false_ne_true)]
  | some link =>
      rw [found] at hsome
      obtain ⟨link', found'⟩ := Option.isSome_iff_exists.mp (hsome.mpr rfl)
      rw [found']
      exact (alike.links found found').toList

/-- Both fabrics give up the same when they are torn down. -/
theorem Alike.release (alike : first.Alike bound second) {config config' : Config}
    {history history' : List (Passage α)} (follows : first.Follows config history)
    (follows' : second.Follows config' history')
    : second.release = first.release := by
  rw [follows'.release_eq, follows.release_eq, alike.same.producers, alike.same.consumerCount]
  simp only [alike.held follows.wired]

/-- As long as few values have left each link, marks that have been passed are passed with room to
spare.
-/
theorem Alike.tighten (alike : first.Alike bound second) {config : Config}
    {history : List (Passage α)} (follows : first.Follows config history)
    (light
      : ∀ producer consumer,
          (Motion.departed (Passage.onLink producer consumer history)).length < Link.passLimit)
    : first.Alike Link.passLimit second where
  same := alike.same
  linkCount := alike.linkCount
  freed := alike.freed
  cursors := alike.cursors
  links := by
    intro producer consumer link link' found found'
    have halike := alike.links found found'
    refine ⟨halike.ring, halike.marks.imp_right ?_⟩
    rintro ⟨passed, passed', _⟩
    refine ⟨passed, passed', ?_⟩
    rw [(follows.link found).popped_eq, UInt64.toNat_ofNat']
    exact Nat.lt_of_le_of_lt (Nat.mod_le _ _) (light producer consumer)

end Alike

-----------------------------------------------------------------------------------------
-- Pushes and pops
-----------------------------------------------------------------------------------------

section Work

variable {bound : Nat} {first second : Fabric α}

/-- Putting links that are alike at the same place keeps fabrics alike. -/
theorem Alike.setLink (alike : first.Alike bound second) (wired : first.Wired)
    {producer consumer name : Nat} (named : first.name? producer consumer = some name)
    {link link' : Link α} (links : link.Alike bound link')
    : (first.setLink name link).Alike bound (second.setLink name link') where
  same := alike.same.lift (sameWiring_setLink _ _ _) (sameWiring_setLink _ _ _)
  linkCount := alike.linkCount
  freed := alike.freed
  cursors := alike.cursors
  links := by
    intro producer' consumer' found found' here here'
    have named' : second.name? producer consumer = some name :=
      (alike.same.name? producer consumer).trans named
    rw [wired.link?_setLink named] at here
    rw [(alike.same.wired wired).link?_setLink named'] at here'
    split at here
    · next at_pair =>
        rw [if_pos at_pair] at here'
        obtain rfl := Option.some.inj here
        obtain rfl := Option.some.inj here'
        exact links
    · next elsewhere =>
        rw [if_neg elsewhere] at here'
        exact alike.links here here'

/-- The links of a pair stand at the same place of both stores. -/
theorem Alike.links_of_name (alike : first.Alike bound second) (wired : first.Wired)
    {producer consumer name : Nat} (named : first.name? producer consumer = some name)
    : ∃ link link',
        first.link? producer consumer = some link
        ∧ first.links[name]? = some link
        ∧ second.links[name]? = some link'
        ∧ link.Alike bound link' := by
  obtain ⟨link, hplace, hlink⟩ := wired.links_of_name named
  obtain ⟨link', hplace', hlink'⟩ :=
    (alike.same.wired wired).links_of_name ((alike.same.name? producer consumer).trans named)
  exact ⟨link, link', hlink, hplace, hplace', alike.links hlink hlink'⟩

theorem Alike.offer (alike : first.Alike bound second) (wired : first.Wired)
    {producer consumer name : Nat} (named : first.name? producer consumer = some name) (value : α)
    : (second.offer name value).1 = (first.offer name value).1
      ∧ (first.offer name value).2.Alike bound (second.offer name value).2 := by
  obtain ⟨link, link', _, hplace, hplace', hlinks⟩ := alike.links_of_name wired named
  obtain ⟨hanswer, hpushed⟩ := hlinks.push value
  rw [offer_of_link hplace, offer_of_link hplace']
  exact ⟨hanswer, alike.setLink wired named hpushed⟩

/-- Offers along the row of a producer slot are answered the same, by induction over the entries. -/
theorem Alike.offerAlong (alike : first.Alike bound second) (wired : first.Wired)
    (producer : Nat) (wires : List Wire)
    (named : ∀ wire ∈ wires, first.name? producer wire.position = some wire.link) (value : α)
    : (Fabric.offerAlong wires second value).1 = (Fabric.offerAlong wires first value).1
      ∧ (Fabric.offerAlong wires first value).2.Alike bound
          (Fabric.offerAlong wires second value).2 := by
  induction wires generalizing first second value with
  | nil => exact ⟨rfl, alike⟩
  | cons wire rest ih =>
      obtain ⟨hanswer, hnext⟩ := alike.offer wired (named wire List.mem_cons_self) value
      have hsame := (onlyLinks_offer first wire.link value).sameWiring
      rcases hresult : first.offer wire.link value with ⟨answer, next⟩
      rcases hresult' : second.offer wire.link value with ⟨answer', next'⟩
      rw [hresult, hresult'] at hanswer hnext
      rw [hresult] at hsame
      obtain rfl : answer' = answer := hanswer
      simp only [Fabric.offerAlong, hresult, hresult']
      cases answer' with
      | accepted => exact ⟨rfl, hnext⟩
      | rejected returned =>
          refine ih hnext (hsame.wired wired) (fun other member => ?_) returned
          rw [hsame.name?]
          exact named other (List.mem_cons_of_mem _ member)

/-- A push of either kind has the same answer through senders of which both or none are registered,
and moves both cursors alike.
-/
theorem Alike.push (alike : first.Alike bound second) (wired : first.Wired)
    {sender sender' : Sender} (senders : sender.Alike sender')
    (agree : second.isRegistered sender' = first.isRegistered sender) (consumer : Option Nat)
    (value : α)
    : (Writing.push ⟨second, sender'⟩ consumer value).1
          = (Writing.push ⟨first, sender⟩ consumer value).1
      ∧ (Writing.push ⟨first, sender⟩ consumer value).2.sender.Alike
          (Writing.push ⟨second, sender'⟩ consumer value).2.sender
      ∧ (Writing.push ⟨first, sender⟩ consumer value).2.fabric.Alike bound
          (Writing.push ⟨second, sender'⟩ consumer value).2.fabric := by
  cases registered : first.isRegistered sender with
  | false =>
      rw [push_of_outdated registered, push_of_outdated (agree.trans registered), senders.slot]
      exact ⟨rfl, senders, alike⟩
  | true =>
      have registered' := agree.trans registered
      cases consumer with
      | none =>
          obtain ⟨hanswer, hnext⟩ :=
            alike.offerAlong wired sender.slot
              ((first.producerRow sender.slot).sweep sender.cursor)
              (fun _ member => Row.link?_of_mem_sweep member) value
          simp only [Writing.push, Fabric.push, registered, registered', if_true, offerSweep_eq,
            senders.slot, senders.cursor, alike.same.rows]
          rcases hresult : Fabric.offerAlong ((first.producerRow sender.slot).sweep sender.cursor)
            first value with ⟨answer, next⟩
          rcases hresult' : Fabric.offerAlong
            ((first.producerRow sender.slot).sweep sender.cursor) second value
            with ⟨answer', next'⟩
          rw [hresult, hresult'] at hanswer hnext
          obtain rfl : answer' = answer := hanswer
          cases answer' with
          | accepted consumer => exact ⟨rfl, ⟨senders.fabric, rfl, rfl⟩, hnext⟩
          | rejected | failed => exact ⟨rfl, senders, hnext⟩
      | some consumer =>
          simp only [Writing.push, Fabric.pushTo, registered, registered', if_true,
            senders.slot, alike.same.rows]
          cases named : (first.producerRow sender.slot).link? consumer with
          | none => exact ⟨rfl, senders, alike⟩
          | some name =>
              obtain ⟨hanswer, hnext⟩ := alike.offer wired named value
              rcases hresult : first.offer name value with ⟨answer, next⟩
              rcases hresult' : second.offer name value with ⟨answer', next'⟩
              rw [hresult, hresult'] at hanswer hnext
              obtain rfl : answer' = answer := hanswer
              simp only [hresult, hresult']
              cases answer' <;> exact ⟨rfl, senders, hnext⟩

variable {config : Config} {history : List (Passage α)}

theorem Alike.draw (alike : first.Alike Link.passLimit second)
    (follows : first.Follows config history) {producer consumer name : Nat}
    (named : first.name? producer consumer = some name)
    : (second.draw ⟨producer, name⟩).1 = (first.draw ⟨producer, name⟩).1
      ∧ (first.draw ⟨producer, name⟩).2.Alike (Link.passLimit + 1)
          (second.draw ⟨producer, name⟩).2
      ∧ ((first.draw ⟨producer, name⟩).1.taken = none
        → (first.draw ⟨producer, name⟩).2.Alike Link.passLimit
            (second.draw ⟨producer, name⟩).2) := by
  obtain ⟨link, link', hlink, hplace, hplace', hlinks⟩ :=
    alike.links_of_name follows.wired named
  obtain ⟨hdraw, hwider, hstrict⟩ := hlinks.pop (follows.sound hlink)
  rw [draw_of_link ⟨producer, name⟩ hplace, draw_of_link ⟨producer, name⟩ hplace', hdraw]
  refine ⟨rfl, ?_, fun empty => ?_⟩
  · exact (alike.mono (Nat.le_succ _)).setLink follows.wired named hwider
  · have hnone : link.pop.1.value = none := by simpa using empty
    exact alike.setLink follows.wired named (hstrict hnone)

/-- Draws along the row of a consumer slot yield the same, by induction over the entries. Marks stay
passed with room to spare as long as the draws have no value, so the last one starts from there too.
-/
theorem Alike.drawAlong (alike : first.Alike Link.passLimit second)
    (follows : first.Follows config history) (consumer : Nat) (wires : List Wire)
    (wired : ∀ wire ∈ wires, (first.consumerRow consumer).link? wire.position = some wire.link)
    : (Fabric.drawAlong wires second).1 = (Fabric.drawAlong wires first).1
      ∧ (Fabric.drawAlong wires first).2.Alike (Link.passLimit + 1)
          (Fabric.drawAlong wires second).2
      ∧ ((Fabric.drawAlong wires first).1.taken = none
        → (Fabric.drawAlong wires first).2.Alike Link.passLimit
            (Fabric.drawAlong wires second).2) := by
  induction wires generalizing first second history with
  | nil => exact ⟨rfl, alike.mono (Nat.le_succ _), fun _ => alike⟩
  | cons wire rest ih =>
      have hnamed : first.name? wire.position consumer = some wire.link :=
        (follows.wired.shared _ _).symm.trans (wired wire List.mem_cons_self)
      obtain ⟨hintake, hwider, hstrict⟩ := alike.draw follows hnamed
      obtain ⟨hsame, hf⟩ := follows.draw hnamed
      rcases hresult : first.draw wire with ⟨⟨taken, discarded⟩, next⟩
      rcases hresult' : second.draw wire with ⟨intake', next'⟩
      rw [hresult, hresult'] at hintake hwider hstrict
      rw [hresult] at hsame hf
      obtain rfl : intake' = ⟨taken, discarded⟩ := hintake
      cases taken with
      | some taken =>
          simp only [Fabric.drawAlong, hresult, hresult']
          exact ⟨trivial, hwider, fun nothing => by cases nothing⟩
      | none =>
          have halike : next.Alike Link.passLimit next' := hstrict rfl
          have hrest := ih halike hf fun other member => by
            rw [hsame.consumerRow]
            exact wired other (List.mem_cons_of_mem _ member)
          simp only [Fabric.drawAlong, hresult, hresult'] at hrest ⊢
          rw [hrest.1]
          exact ⟨rfl, hrest.2⟩

theorem Alike.scan (alike : first.Alike Link.passLimit second)
    (follows : first.Follows config history) (receiver : Receiver)
    : (second.scan receiver).1 = (first.scan receiver).1
      ∧ (second.scan receiver).2.1 = (first.scan receiver).2.1
      ∧ (first.scan receiver).2.2.Alike (Link.passLimit + 1) (second.scan receiver).2.2 := by
  obtain ⟨hintake, hnext, _⟩ :=
    alike.drawAlong follows receiver.slot
      ((first.consumerRow receiver.slot).sweep receiver.cursor)
      (fun _ member => Row.link?_of_mem_sweep member)
  rw [Fabric.scan, Fabric.scan, drawSweep_eq, drawSweep_eq, alike.same.consumerRow]
  rcases hresult : Fabric.drawAlong ((first.consumerRow receiver.slot).sweep receiver.cursor)
    first with ⟨⟨taken, discarded⟩, next⟩
  rcases hresult' : Fabric.drawAlong ((first.consumerRow receiver.slot).sweep receiver.cursor)
    second with ⟨intake', next'⟩
  rw [hresult, hresult'] at hintake hnext
  obtain rfl : intake' = ⟨taken, discarded⟩ := hintake
  cases taken <;> exact ⟨rfl, rfl, hnext⟩

theorem Alike.stickyWire (alike : first.Alike bound second) (receiver : Receiver)
    : second.stickyWire receiver = first.stickyWire receiver := by
  rw [Fabric.stickyWire, Fabric.stickyWire, alike.same.consumerRow]

/-- A pop takes and discards the same, and moves the receiver the same. -/
theorem Alike.pop (alike : first.Alike Link.passLimit second)
    (follows : first.Follows config history) (receiver : Receiver)
    : (second.pop receiver).1 = (first.pop receiver).1
      ∧ (second.pop receiver).2.1 = (first.pop receiver).2.1
      ∧ (first.pop receiver).2.2.Alike (Link.passLimit + 1) (second.pop receiver).2.2 := by
  obtain ⟨hintake, hwider, hstrict⟩ :=
    alike.drawAlong follows receiver.slot (first.stickyWire receiver)
      (fun _ member => link?_of_mem_stickyWire member)
  obtain ⟨_, hf⟩ :=
    follows.drawRow receiver.slot (first.stickyWire receiver)
      (fun _ member => link?_of_mem_stickyWire member)
  rw [Fabric.pop, Fabric.pop, alike.stickyWire]
  rcases hresult : Fabric.drawAlong (first.stickyWire receiver) first
    with ⟨⟨taken, discarded⟩, next⟩
  rcases hresult' : Fabric.drawAlong (first.stickyWire receiver) second with ⟨intake', next'⟩
  rw [hresult, hresult'] at hintake hwider hstrict
  rw [hresult] at hf
  obtain rfl : intake' = ⟨taken, discarded⟩ := hintake
  cases taken with
  | some taken => exact ⟨rfl, rfl, hwider⟩
  | none =>
      obtain ⟨hscanned, hmoved, hnext⟩ := (hstrict rfl).scan hf { receiver with streak := 0 }
      simp only [hscanned, hmoved]
      exact ⟨trivial, trivial, hnext⟩

end Work

-----------------------------------------------------------------------------------------
-- Operations on slots
-----------------------------------------------------------------------------------------

section Slots

variable {bound : Nat} {first second : Fabric α}

theorem Alike.freshLink (alike : first.Alike bound second)
    : second.freshLink = first.freshLink := by
  rw [Fabric.freshLink, Fabric.freshLink, alike.same.config]

/-- A link that was counted for nothing has been counted on both sides. -/
theorem Alike.miscounted (alike : first.Alike bound second)
    : { first with linkCount := first.linkCount + 1 }.Alike bound
        { second with linkCount := second.linkCount + 1 } where
  same := alike.same.lift (sameWiring_records _ _ _) (sameWiring_records _ _ _)
  linkCount := congrArg (· + 1) alike.linkCount
  freed := alike.freed
  cursors := alike.cursors
  links := alike.links

/-- A slot that is no longer listed as free is listed on neither side. -/
theorem Alike.unlisted (alike : first.Alike bound second) {freed : List Nat}
    (sub : ∀ producer ∈ freed, producer ∈ first.freed)
    : { first with freed := freed }.Alike bound { second with freed := freed } where
  same := alike.same.lift (sameWiring_records _ _ _) (sameWiring_records _ _ _)
  linkCount := alike.linkCount
  freed := rfl
  cursors := fun producer member => alike.cursors producer (sub producer member)
  links := alike.links

/-- New links are alike where they join the same pairs on both sides. -/
theorem Alike.links_grown (alike : first.Alike bound second) {grown grown' : Fabric α}
    {fresh : Nat → Nat → Prop} [∀ producer consumer, Decidable (fresh producer consumer)]
    (links
      : ∀ producer consumer,
          grown.link? producer consumer
            = if fresh producer consumer then some first.freshLink
              else first.link? producer consumer)
    (links'
      : ∀ producer consumer,
          grown'.link? producer consumer
            = if fresh producer consumer then some second.freshLink
              else second.link? producer consumer)
    {producer consumer : Nat} {link link' : Link α}
    (found : grown.link? producer consumer = some link)
    (found' : grown'.link? producer consumer = some link')
    : link.Alike bound link' := by
  rw [links] at found
  rw [links', alike.freshLink] at found'
  split at found
  · next isFresh =>
      rw [if_pos isFresh] at found'
      obtain rfl := Option.some.inj (found.symm.trans found')
      exact .refl bound link
  · next old =>
      rw [if_neg old] at found'
      exact alike.links found found'

theorem Alike.addConsumer (alike : first.Alike bound second) (wired : first.Wired)
    (room : first.consumerCount < first.shape.maxConsumers) (total : Counter)
    : (first.addConsumer total).Alike bound (second.addConsumer total) where
  same := {
    id := alike.same.id
    shape := alike.same.shape
    config := alike.same.config
    producers := by
      rw [producerCount_addConsumer, producerCount_addConsumer, alike.same.producers]
    rows := by
      intro producer
      by_cases within : producer < first.producerCount
      · rw [producerRow_addConsumer total within,
          producerRow_addConsumer total (alike.same.producers ▸ within), alike.same.rows,
          alike.same.consumerCount, alike.same.links_size]
      · have hout : (first.addConsumer total).producers.size ≤ producer := by
          rw [← producerCount, producerCount_addConsumer]
          exact Nat.le_of_not_lt within
        have hout' : (second.addConsumer total).producers.size ≤ producer := by
          rw [← producerCount, producerCount_addConsumer, alike.same.producers]
          exact Nat.le_of_not_lt within
        rw [producerRow, producerRow, Array.getElem?_eq_none hout,
          Array.getElem?_eq_none hout']
    consumers := by
      simp only [Fabric.addConsumer, alike.same.consumers, alike.same.shape,
        alike.same.producers, alike.same.links_size]
    links_size := by
      simp [Fabric.addConsumer, alike.same.links_size, alike.same.producers]
  }
  linkCount := rfl
  freed := alike.freed
  cursors := by
    intro producer free
    rw [cursor?_addConsumer, cursor?_addConsumer]
    exact alike.cursors producer free
  links := by
    have wired' := alike.same.wired wired
    have room' : second.consumerCount < second.shape.maxConsumers := by
      rwa [alike.same.consumerCount, alike.same.shape]
    have hlinks (producer consumer : Nat) := wired'.link?_addConsumer total room' producer consumer
    simp only [alike.same.consumerCount, alike.same.producers] at hlinks
    intro producer consumer link link' found found'
    exact alike.links_grown (wired.link?_addConsumer total room) hlinks found found'

theorem Alike.addProducer (alike : first.Alike bound second) (wired : first.Wired)
    (total : Counter)
    : (first.addProducer total).Alike bound (second.addProducer total) where
  same := {
    id := alike.same.id
    shape := alike.same.shape
    config := alike.same.config
    producers := by
      rw [producerCount_addProducer, producerCount_addProducer, alike.same.producers]
    rows := by
      intro producer
      rw [producerRow_addProducer, producerRow_addProducer, alike.same.rows,
        alike.same.producers, alike.same.shape, alike.same.consumerCount,
        alike.same.links_size]
    consumers := by
      simp only [Fabric.addProducer, alike.same.consumers, alike.same.producers,
        alike.same.links_size]
    links_size := by
      simp [Fabric.addProducer, alike.same.links_size, alike.same.consumerCount]
  }
  linkCount := rfl
  freed := alike.freed
  cursors := by
    intro producer free
    rw [cursor?_addProducer, cursor?_addProducer, alike.same.producers,
      alike.cursors producer free]
  links := by
    have wired' := alike.same.wired wired
    have hlinks (producer consumer : Nat) := wired'.link?_addProducer total producer consumer
    simp only [alike.same.consumerCount, alike.same.producers] at hlinks
    intro producer consumer link link' found found'
    exact alike.links_grown (wired.link?_addProducer total) hlinks found found'

theorem Alike.registerConsumer (alike : first.Alike bound second) (wired : first.Wired)
    : first.registerConsumer.Alike bound Eq second.registerConsumer := by
  have hfirst := first.consumerEnrolled
  have hsecond := second.consumerEnrolled
  generalize first.registerConsumer = enrolled at hfirst
  generalize second.registerConsumer = enrolled' at hsecond
  have hid := alike.same.id
  have hcount := alike.same.consumerCount
  have hproducers := alike.same.producers
  have hmax : second.shape.maxConsumers = first.shape.maxConsumers :=
    congrArg Shape.maxConsumers alike.same.shape
  have hcapacity : second.config.channelCapacity = first.config.channelCapacity :=
    congrArg Config.channelCapacity alike.same.config
  cases hfirst with
  | refused full =>
      cases hsecond with
      | refused => exact ⟨rfl, by rw [hmax], alike⟩
      | failed room | issued room => omega
  | failed room paired large =>
      cases hsecond with
      | refused full => omega
      | failed => exact ⟨rfl, rfl, alike.miscounted⟩
      | issued room' small => have hsmall := small (by omega); omega
  | issued room small =>
      cases hsecond with
      | refused full => omega
      | failed room' paired large => have hsmall := small (by omega); omega
      | issued =>
          rw [hid, hcount, hproducers, alike.linkCount]
          exact ⟨rfl, rfl, alike.addConsumer wired room _⟩

theorem Alike.registerFresh (alike : first.Alike bound second) (wired : first.Wired)
    : first.registerFresh.Alike bound Registration.Alike second.registerFresh := by
  have hfirst := first.freshEnrolled
  have hsecond := second.freshEnrolled
  generalize first.registerFresh = enrolled at hfirst
  generalize second.registerFresh = enrolled' at hsecond
  have hid := alike.same.id
  have hcount := alike.same.consumerCount
  have hproducers := alike.same.producers
  have hmax : second.shape.maxProducers = first.shape.maxProducers :=
    congrArg Shape.maxProducers alike.same.shape
  have hcapacity : second.config.channelCapacity = first.config.channelCapacity :=
    congrArg Config.channelCapacity alike.same.config
  cases hfirst with
  | refused full =>
      cases hsecond with
      | refused => exact ⟨.refused, by rw [hmax], alike⟩
      | failed room | issued room => omega
  | failed room paired large =>
      cases hsecond with
      | refused full => omega
      | failed => exact ⟨.failed, rfl, alike.miscounted⟩
      | issued room' small => have hsmall := small (by omega); omega
  | issued room small =>
      cases hsecond with
      | refused full => omega
      | failed room' paired large => have hsmall := small (by omega); omega
      | issued =>
          rw [hid, hcount, hproducers, alike.linkCount]
          exact ⟨.issued ⟨rfl, rfl, rfl⟩, rfl, alike.addProducer wired _⟩

/-- Changing what the same slot says about its registration keeps fabrics alike, as long as both get
the same cursor.
-/
theorem Alike.setSlot (alike : first.Alike bound second) {producer : Nat}
    {slot slot' changed changed' : ProducerSlot} {freed : List Nat}
    (found : first.producers[producer]? = some slot)
    (found' : second.producers[producer]? = some slot') (row : changed.row = slot.row)
    (row' : changed'.row = slot'.row) (cursor : changed'.cursor = changed.cursor)
    (listed : ∀ other ∈ freed, other = producer ∨ other ∈ first.freed)
    : ({ first with freed := freed }.setSlot producer changed).Alike bound
        ({ second with freed := freed }.setSlot producer changed') := by
  have hrow : changed.row = first.producerRow producer := by
    rw [row, producerRow, found]
    rfl
  have hrow' : changed'.row = second.producerRow producer := by
    rw [row', producerRow, found']
    rfl
  have hset := first.sameWiring_setSlot producer changed hrow freed
  have hset' := second.sameWiring_setSlot producer changed' hrow' freed
  refine {
    same := alike.same.lift hset hset'
    linkCount := alike.linkCount
    freed := rfl
    cursors := ?_
    links := ?_
  }
  · intro other member
    have hfirst := cursor?_setSlot { first with freed := freed } found changed other
    have hsecond := cursor?_setSlot { second with freed := freed } found' changed' other
    rw [hfirst, hsecond, cursor]
    split
    · rfl
    · next elsewhere =>
        exact alike.cursors other ((listed other member).resolve_left elsewhere)
  · intro producer' consumer link link' here here'
    have hlink := hset.link? rfl producer' consumer
    have hlink' := hset'.link? rfl producer' consumer
    exact alike.links (hlink.symm.trans here) (hlink'.symm.trans here')

theorem Alike.getElem?_producers (alike : first.Alike bound second) {producer : Nat}
    {slot : ProducerSlot} (found : first.producers[producer]? = some slot)
    : ∃ slot', second.producers[producer]? = some slot' := by
  obtain ⟨within, _⟩ := Array.getElem?_eq_some_iff.mp found
  exact ⟨_, Array.getElem?_eq_getElem (Nat.lt_of_lt_of_eq within alike.same.producers.symm)⟩

/-- A reissue hands out the cursor of its slot, and neither counts nor frees anything nor moves any
cursor.
-/
theorem reclaim_records (fabric : Fabric α) {producer : Nat} {slot : ProducerSlot}
    (found : fabric.producers[producer]? = some slot)
    : (fabric.reclaim producer slot).answer
          = .issued ⟨fabric.id, producer, slot.ticket.next, slot.cursor⟩
      ∧ (fabric.reclaim producer slot).fabric.linkCount = fabric.linkCount
      ∧ (fabric.reclaim producer slot).fabric.freed = fabric.freed
      ∧ ∀ other,
          (fabric.reclaim producer slot).fabric.cursor? other = fabric.cursor? other := by
  obtain ⟨links, _, hissued⟩ := reclaim_eq fabric producer slot
  rw [hissued]
  refine ⟨rfl, rfl, rfl, fun other => ?_⟩
  rw [cursor?_setSlot { fabric with links := links } found]
  split
  · next same => rw [same, cursor?, found, Option.map_some]
  · rfl

/-- Issuing the same slot again has the same effect on links that are alike. -/
theorem Alike.reclaim (alike : first.Alike bound second) {config : Config}
    {history : List (Passage α)} (follows : first.Follows config history) {producer : Nat}
    {slot slot' : ProducerSlot} (found : first.producers[producer]? = some slot)
    (found' : second.producers[producer]? = some slot') (cursor : slot'.cursor = slot.cursor)
    : (first.reclaim producer slot).Alike bound Registration.Alike
        (second.reclaim producer slot') := by
  have wired' := alike.same.wired follows.wired
  obtain ⟨hsame, hlinks, hlog⟩ :=
    follows.wired.reclaim found fun _ _ hlink => follows.sound hlink
  obtain ⟨hsame', hlinks', hlog'⟩ :=
    wired'.reclaim found' fun _ _ hlink => by
      obtain ⟨link, here, halike⟩ := alike.link?_of_second follows.wired hlink
      rw [halike.ring]
      exact follows.sound here
  obtain ⟨hanswer, hcount, hfreed, hcursors⟩ := reclaim_records first found
  obtain ⟨hanswer', hcount', hfreed', hcursors'⟩ := reclaim_records second found'
  have hheld : second.heldFrom producer = first.heldFrom producer := by
    simp only [heldFrom, alike.held follows.wired, alike.same.consumerCount]
  refine {
    answer := ?_
    log := ?_
    fabric := {
      same := alike.same.lift hsame hsame'
      linkCount := ?_
      freed := ?_
      cursors := ?_
      links := ?_
    }
  }
  · rw [hanswer, hanswer']
    exact .issued ⟨alike.same.id, rfl, cursor⟩
  · rw [hlog, hlog', hheld, alike.same.config]
  · rw [hcount, hcount', alike.linkCount]
  · rw [hfreed, hfreed', alike.freed]
  · intro other free
    rw [hfreed] at free
    rw [hcursors, hcursors']
    exact alike.cursors other free
  · intro producer' consumer link link' here here'
    rw [hlinks] at here
    rw [hlinks', alike.same.config] at here'
    split at here
    · next retired =>
        rw [if_pos retired] at here'
        obtain ⟨old, hold, rfl⟩ := Option.map_eq_some_iff.mp here
        obtain ⟨old', hold', rfl⟩ := Option.map_eq_some_iff.mp here'
        exact (alike.links hold hold').retire
    · next kept =>
        rw [if_neg kept] at here'
        exact alike.links here here'

/-- A producer is registered in the same slot, with the same cursor, on both sides. -/
theorem Alike.registerProducer (alike : first.Alike bound second) {config : Config}
    {history : List (Passage α)} (follows : first.Follows config history)
    : first.registerProducer.Alike bound Registration.Alike second.registerProducer := by
  rw [Fabric.registerProducer, Fabric.registerProducer, alike.freed]
  cases hfreed : first.freed with
  | nil => exact alike.registerFresh follows.wired
  | cons producer rest =>
      have hrest := alike.unlisted fun other member => hfreed ▸ List.mem_cons_of_mem producer member
      have hfollows : Fabric.Follows config { first with freed := rest } history :=
        follows.of_links (sameWiring_records first first.linkCount rest) fun _ _ => rfl
      dsimp only
      cases found : first.producers[producer]? with
      | none =>
          have found' : second.producers[producer]? = none := by
            rw [Array.getElem?_eq_none_iff] at found ⊢
            exact Nat.le_trans (Nat.le_of_eq alike.same.producers) found
          rw [found']
          exact hrest.registerFresh hfollows.wired
      | some slot =>
          obtain ⟨slot', found'⟩ := alike.getElem?_producers found
          have hcursor := alike.cursors producer (hfreed ▸ List.mem_cons_self)
          rw [cursor?, cursor?, found, found'] at hcursor
          rw [found']
          exact hrest.reclaim hfollows found found' (Option.some.inj hcursor)

/-- The end of a registration frees the slot of the handle, which takes over the handle's cursor. -/
theorem unregister_eq_of_registered {fabric : Fabric α} {sender : Sender}
    (own : sender.fabric = fabric.id) (registered : fabric.isRegistered sender = true)
    : ∃ slot,
        fabric.producers[sender.slot]? = some slot
        ∧ fabric.unregister sender
          = ⟨.ok (), [.producerUnregistered sender.slot],
              { fabric with freed := sender.slot :: fabric.freed }.setSlot sender.slot
                { slot with ticket := sender.ticket.ended, cursor := sender.cursor }⟩ := by
  have hended := fabric.ended sender
  have hok := unregister_of_registered own registered
  generalize fabric.unregister sender = enrolled at hended hok
  cases hended with
  | misused => cases hok
  | ended _ found _ => exact ⟨_, found, rfl⟩

/-- An attempt to end a registration has the same answer for handles of which both or none are
registered where they were issued.
-/
theorem Alike.unregister (alike : first.Alike bound second) {sender sender' : Sender}
    (senders : sender.Alike sender')
    (agree
      : sender.fabric = first.id
        → second.isRegistered sender' = first.isRegistered sender)
    : (first.unregister sender).Alike bound Eq (second.unregister sender') := by
  by_cases own : sender.fabric = first.id
  · have agree := agree own
    have own' : sender'.fabric = second.id :=
      (senders.fabric.trans own).trans alike.same.id.symm
    cases registered : first.isRegistered sender with
    | true =>
        obtain ⟨slot, found, hended⟩ := unregister_eq_of_registered own registered
        obtain ⟨slot', found', hended'⟩ :=
          unregister_eq_of_registered own' (agree.trans registered)
        rw [senders.slot] at found' hended'
        rw [hended, hended', alike.freed]
        refine ⟨rfl, rfl, alike.setSlot found found' rfl rfl senders.cursor ?_⟩
        exact fun other member => List.mem_cons.mp member
    | false =>
        have registered' := agree.trans registered
        by_cases within : sender.slot < first.producerCount
        · have within' : sender'.slot < second.producerCount := by
            rwa [senders.slot, alike.same.producers]
          rw [unregister_of_outdated own within registered,
            unregister_of_outdated own' within' registered', senders.slot]
          exact ⟨rfl, rfl, alike⟩
        · have missing : first.producers[sender.slot]? = none :=
            Array.getElem?_eq_none (Nat.le_of_not_lt within)
          have missing' : second.producers[sender.slot]? = none := by
            rw [Array.getElem?_eq_none_iff] at missing ⊢
            exact Nat.le_trans (Nat.le_of_eq alike.same.producers) missing
          simp only [Fabric.unregister, own, own', senders.slot, missing, missing', ne_eq,
            not_true_eq_false, if_false]
          exact ⟨rfl, rfl, alike⟩
  · have foreign' : sender'.fabric ≠ second.id := by
      rwa [senders.fabric, alike.same.id]
    rw [unregister_of_foreign own, unregister_of_foreign foreign', senders.slot]
    exact ⟨rfl, rfl, alike⟩

end Slots

-----------------------------------------------------------------------------------------
-- A slot given up and taken again
-----------------------------------------------------------------------------------------

/-- A registered sender whose registration is ended gets its slot back at once, with its cursor, and
the fabric is like it was before, if reissues do not drain or the slot has nothing to drain.
-/
theorem Follows.alike_renewed {config : Config} {fabric : Fabric α} {history : List (Passage α)}
    (follows : fabric.Follows config history) {sender : Sender}
    (own : sender.fabric = fabric.id) (registered : fabric.isRegistered sender = true)
    (taken : sender.slot ∉ fabric.freed)
    (clear
      : fabric.config.drainOnReclaim = false
        ∨ ∀ consumer, fabric.held sender.slot consumer = [])
    (light
      : ∀ consumer,
          (Motion.departed (Passage.onLink sender.slot consumer history)).length
            < Link.passLimit)
    : let renewal := (fabric.unregister sender).fabric.registerProducer
      (∃ renewed, renewal.answer = .issued renewed ∧ sender.Alike renewed)
      ∧ fabric.Alike Link.passLimit renewal.fabric := by
  intro renewal
  obtain ⟨slot, found, hended⟩ := unregister_eq_of_registered own registered
  obtain ⟨within, _⟩ := Array.getElem?_eq_some_iff.mp found
  let left : ProducerSlot := { slot with ticket := sender.ticket.ended, cursor := sender.cursor }
  have hleft : (fabric.setSlot sender.slot left).producers[sender.slot]? = some left := by
    simp [setSlot, within]
  have hrenewal : renewal = (fabric.setSlot sender.slot left).reclaim sender.slot left := by
    change (fabric.unregister sender).fabric.registerProducer = _
    rw [hended]
    exact registerProducer_of_freed rfl hleft
  have hrow : left.row = fabric.producerRow sender.slot := by
    rw [producerRow, found]
    rfl
  have hset : SameWiring fabric (fabric.setSlot sender.slot left) :=
    fabric.sameWiring_setSlot sender.slot left hrow fabric.freed
  have hfollows := follows.of_links hset (hset.link? rfl)
  obtain ⟨hsame, hlinks, _⟩ := hfollows.wired.reclaim hleft fun _ _ hlink => hfollows.sound hlink
  obtain ⟨hanswer, hcount, hfreed, hcursors⟩ :=
    reclaim_records (fabric.setSlot sender.slot left) hleft
  rw [hrenewal]
  refine ⟨⟨_, hanswer, own.symm, rfl, rfl⟩, {
    same := hset.trans hsame
    linkCount := hcount
    freed := hfreed
    cursors := ?_
    links := ?_
  }⟩
  · intro producer free
    have hother : producer ≠ sender.slot := by
      rintro rfl
      exact taken free
    rw [hcursors, cursor?_setSlot fabric found, if_neg hother]
  · intro producer consumer link link' here here'
    rw [hlinks, hset.link? rfl] at here'
    split at here'
    · next retired =>
        obtain ⟨drains, rfl⟩ := retired
        obtain ⟨old, hold, rfl⟩ := Option.map_eq_some_iff.mp here'
        obtain rfl := Option.some.inj (here.symm.trans hold)
        have hempty : link.toList = [] := by
          rcases clear with keeps | empty
          · exact absurd drains (by simp [setSlot, keeps])
          · simpa [Fabric.held, here] using empty consumer
        exact (follows.link here).alike_retire hempty (light consumer)
    · obtain rfl := Option.some.inj (here.symm.trans here')
      exact .refl _ link

end Fabric

end Crossbar
