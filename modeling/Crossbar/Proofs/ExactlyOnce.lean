import Mathlib.Algebra.Order.BigOperators.Group.Finset
import Mathlib.Algebra.BigOperators.Intervals
import Crossbar.Proofs.Working

/-! Every number that is handed over arrives exactly once, whatever the order in which the parties
work, and the work never gets stuck: as long as numbers are missing, some reader gets one with its
next pop, or the writers that have numbers left get them accepted.
-/

namespace Crossbar

open Motion
open Passage (onLink)

namespace Delivery

-----------------------------------------------------------------------------------------
-- Setting parties to work
-----------------------------------------------------------------------------------------

/-- Which side of a fabric a party works on. -/
inductive Party where
  | reader
  | writer
deriving Repr, DecidableEq

/-- Registers one more party and sets it to work, a writer on `quota` numbers. -/
def enrol (quota : Nat) (delivery : Delivery) : Party → Except Failure Delivery
  | .reader => delivery.addReader
  | .writer => delivery.addWriter quota

/-- Registers parties one after the other, up to the first registration that fails. -/
def enlist (quota : Nat) : List Party → Delivery → Except Failure Delivery
  | [], delivery => .ok delivery
  | party :: rest, delivery => (delivery.enrol quota party).bind (enlist quota rest)

theorem enlist_append (quota : Nat) (front back : List Party) (delivery : Delivery)
    : delivery.enlist quota (front ++ back)
        = (delivery.enlist quota front).bind (enlist quota back) := by
  induction front generalizing delivery with
  | nil => rfl
  | cons party rest ih =>
      simp only [List.cons_append, enlist]
      cases delivery.enrol quota party with
      | error failure => rfl
      | ok next => exact ih next

theorem addReaders_eq_enlist (quota count : Nat) (delivery : Delivery)
    : delivery.addReaders count = delivery.enlist quota (List.replicate count .reader) := by
  induction count generalizing delivery with
  | zero => rfl
  | succ count ih => exact congrArg delivery.addReader.bind (funext ih)

theorem addWriters_eq_enlist (quota count : Nat) (delivery : Delivery)
    : delivery.addWriters quota count
        = delivery.enlist quota (List.replicate count .writer) := by
  induction count generalizing delivery with
  | zero => rfl
  | succ count ih => exact congrArg (delivery.addWriter quota).bind (funext ih)

/-- Registering all consumers and then all producers is one order among others. -/
theorem staff_eq_enlist (consumers producers quota : Nat) (delivery : Delivery)
    : delivery.staff consumers producers quota
        = delivery.enlist quota
            (List.replicate consumers .reader ++ List.replicate producers .writer) := by
  rw [staff, enlist_append, addReaders_eq_enlist quota]
  exact congrArg _ (funext (addWriters_eq_enlist quota producers))

/-- The parties are at work on a fabric on which nothing has happened but registrations. -/
structure Staffed (shape : Shape) (config : Config) (quota readers writers : Nat)
    (delivery : Delivery) : Prop where
  working : delivery.Working shape config quota []
  unfreed : delivery.fabric.freed = []
  readers_eq : delivery.readers.size = readers
  writers_eq : delivery.writers.size = writers

variable {shape : Shape} {config : Config} {quota readers writers : Nat} {delivery : Delivery}

theorem Staffed.addReader (staffed : delivery.Staffed shape config quota readers writers)
    (small : config.channelCapacity < Ring.allocationLimit) (room : readers < shape.maxConsumers)
    : ∃ next,
        delivery.addReader = .ok next
        ∧ next.Staffed shape config quota (readers + 1) writers := by
  obtain ⟨working, unfreed, rfl, rfl⟩ := staffed
  have henrols := delivery.fabric.consumerEnrolled
  have hfollows := working.follows.registerConsumer
  simp only [Delivery.addReader]
  generalize delivery.fabric.registerConsumer = enrolled at henrols hfollows
  cases henrols with
  | refused full =>
      rw [working.installed.shape_eq, working.consumers_eq] at full
      exact absurd room (Nat.not_lt.mpr full)
  | failed _ _ large =>
      rw [working.installed.config_eq] at large
      exact absurd small (Nat.not_lt.mpr large)
  | issued within =>
      refine ⟨_, rfl, ?_, unfreed, Array.size_push _, rfl⟩
      refine {
        installed := working.installed.addConsumer within
        follows := hfollows
        producers_eq := (Fabric.producerCount_addConsumer _).trans working.producers_eq
        consumers_eq := ?_
        writer := ?_
        reader := ?_
        stamped := working.stamped
        handed := working.handed
        arrived := ?_
      }
      · simp only [Fabric.consumerCount_addConsumer, Array.size_push, working.consumers_eq]
      · intro slot writer found
        obtain ⟨slot_eq, quota_eq, next_le, registered⟩ := working.writer found
        refine ⟨slot_eq, quota_eq, next_le, fun left => ?_⟩
        exact (Fabric.ticket?_addConsumer delivery.fabric _ slot).trans (registered left)
      · intro slot reader found
        simp only [Fabric.producerCount_addConsumer, Array.getElem?_push] at found ⊢
        split at found
        · next here =>
            obtain rfl := Option.some.inj found
            exact ⟨working.consumers_eq.trans here.symm, Receiver.poised_new _ _ _, fun _ => rfl⟩
        · exact working.reader found
      · have harrived := working.arrived
        simp only [Delivery.received, Array.toList_push, List.flatMap_append] at harrived ⊢
        simpa using harrived

theorem Staffed.addWriter (staffed : delivery.Staffed shape config quota readers writers)
    (small : config.channelCapacity < Ring.allocationLimit) (room : writers < shape.maxProducers)
    : ∃ next,
        delivery.addWriter quota = .ok next
        ∧ next.Staffed shape config quota readers (writers + 1) := by
  obtain ⟨working, unfreed, rfl, rfl⟩ := staffed
  -- No slot has been freed, so the producer gets a fresh one.
  have hfresh : delivery.fabric.registerProducer = delivery.fabric.registerFresh := by
    simp only [Fabric.registerProducer, unfreed]
  have henrols := delivery.fabric.freshEnrolled
  have hfollows := working.follows.registerFresh
  simp only [Delivery.addWriter, hfresh]
  generalize delivery.fabric.registerFresh = enrolled at henrols hfollows
  cases henrols with
  | refused full =>
      rw [working.installed.shape_eq, working.producers_eq] at full
      exact absurd room (Nat.not_lt.mpr full)
  | failed _ _ large =>
      rw [working.installed.config_eq] at large
      exact absurd small (Nat.not_lt.mpr large)
  | issued within =>
      refine ⟨_, rfl, ?_, unfreed, rfl, Array.size_push _⟩
      refine {
        installed := working.installed.addProducer within
        follows := hfollows
        producers_eq := ?_
        consumers_eq := (Fabric.consumerCount_addProducer _).trans working.consumers_eq
        writer := ?_
        reader := ?_
        stamped := working.stamped
        handed := ?_
        arrived := working.arrived
      }
      · simp only [Fabric.producerCount_addProducer, Array.size_push, working.producers_eq]
      · intro slot writer found
        simp only [Array.getElem?_push] at found
        split at found
        · next here =>
            obtain rfl := Option.some.inj found
            have hslot := here.trans working.producers_eq.symm
            refine ⟨hslot.symm, rfl, Nat.zero_le _, fun _ => ?_⟩
            exact (Fabric.ticket?_addProducer delivery.fabric _ slot).trans (if_pos hslot)
        · next other =>
            obtain ⟨slot_eq, quota_eq, next_le, registered⟩ := working.writer found
            refine ⟨slot_eq, quota_eq, next_le, fun left => ?_⟩
            refine (Fabric.ticket?_addProducer delivery.fabric _ slot).trans ?_
            rw [if_neg (working.producers_eq.symm ▸ other)]
            exact registered left
      · intro slot reader found
        obtain ⟨slot_eq, poised, received⟩ := working.reader found
        exact ⟨slot_eq, poised.grow (Fabric.producerCount_addProducer _ ▸ Nat.le_succ _), received⟩
      · intro slot
        have hhanded := working.handed slot
        simp only [handedOver, Array.getElem?_push] at hhanded ⊢
        split
        · rfl
        · exact hhanded

/-- One more party gets to work if there is a slot for it. -/
theorem Staffed.enrol (staffed : delivery.Staffed shape config quota readers writers)
    (small : config.channelCapacity < Ring.allocationLimit) (party : Party)
    (readers_le : readers + [party].count .reader ≤ shape.maxConsumers)
    (writers_le : writers + [party].count .writer ≤ shape.maxProducers)
    : ∃ next,
        delivery.enrol quota party = .ok next
        ∧ next.Staffed shape config quota (readers + [party].count .reader)
            (writers + [party].count .writer) := by
  cases party with
  | reader => exact staffed.addReader small readers_le
  | writer => exact staffed.addWriter small writers_le

/-- All parties get to work as long as there are slots for them, by induction over the parties. -/
theorem Staffed.enlist (staffed : delivery.Staffed shape config quota readers writers)
    (small : config.channelCapacity < Ring.allocationLimit) {parties : List Party}
    (readers_le : readers + parties.count .reader ≤ shape.maxConsumers)
    (writers_le : writers + parties.count .writer ≤ shape.maxProducers)
    : ∃ next,
        delivery.enlist quota parties = .ok next
        ∧ next.Staffed shape config quota (readers + parties.count .reader)
            (writers + parties.count .writer) := by
  induction parties generalizing delivery readers writers with
  | nil => exact ⟨delivery, rfl, staffed⟩
  | cons party rest ih =>
      have hcount (kind : Party)
          : (party :: rest).count kind = [party].count kind + rest.count kind := by
        rw [← List.count_append]
        rfl
      simp only [hcount, ← Nat.add_assoc] at readers_le writers_le ⊢
      obtain ⟨next, henrols, hnext⟩ := staffed.enrol small party (by omega) (by omega)
      obtain ⟨last, henlists, hlast⟩ := ih hnext readers_le writers_le
      refine ⟨last, ?_, hlast⟩
      simp only [Delivery.enlist, henrols]
      exact henlists

/-- A fabric of positive capacity starts with nobody at work. -/
theorem staffed_start (shape : Shape) {config : Config} (roomy : 0 < config.channelCapacity)
    (quota : Nat)
    : ∃ delivery,
        start shape config = .ok delivery ∧ delivery.Staffed shape config quota 0 0 := by
  have hcreated : Fabric.create 0 shape config
      = .ok (Fabric.bare (α := Stamp) 0 shape config, .created shape config) :=
    if_neg (Nat.ne_of_gt roomy)
  have hfollows := Fabric.follows_create hcreated
  refine ⟨⟨.bare 0 shape config, #[], #[]⟩, by simp only [start, hcreated], ?_, rfl, rfl, rfl⟩
  exact {
    installed := ⟨rfl, rfl, rfl, hfollows.wired, rfl, fun _ => rfl⟩
    follows := hfollows
    producers_eq := rfl
    consumers_eq := rfl
    writer := fun found => by cases found
    reader := fun found => by cases found
    stamped := fun _ _ _ member => absurd member List.not_mem_nil
    handed := fun _ => rfl
    arrived := .refl []
  }

-----------------------------------------------------------------------------------------
-- The work never gets stuck
-----------------------------------------------------------------------------------------

/-- A reader's next pop returns a value, or there are numbers left and every writer that has some
gets its next one accepted.
-/
def Moving (delivery : Delivery) : Prop :=
  (∃ reader ∈ delivery.readers, (delivery.fabric.pop reader.receiver).1.taken.isSome)
  ∨ (∃ writer ∈ delivery.writers, writer.next < writer.quota)
    ∧ ∀ writer ∈ delivery.writers,
        writer.next < writer.quota
        → (delivery.fabric.push writer.sender ⟨writer.sender.slot, writer.next⟩).1.isAccepted

variable {history : List (Passage Stamp)}

/-- The reader of a link that holds something gets a value with its next pop. -/
theorem Working.served (working : delivery.Working shape config quota history)
    (keeps : config.drainOnReclaim = false) (few : quota < 0x8000000000000000)
    {producer consumer : Nat} (holds : delivery.fabric.held producer consumer ≠ [])
    : ∃ reader ∈ delivery.readers, (delivery.fabric.pop reader.receiver).1.taken.isSome := by
  have hentered := working.follows.entered_eq producer consumer
  obtain ⟨value, rest, hheld⟩ := List.exists_cons_of_ne_nil holds
  -- The oldest value held is live, because no reissue drains.
  have hfound
      : (Motion.entered (onLink producer consumer history))[
            (Motion.departed (onLink producer consumer history)).length]? = some value := by
    rw [hentered, hheld, List.getElem?_append_right (Nat.le_refl _), Nat.sub_self]
    rfl
  obtain ⟨before, after, hsplit, hlength, _⟩ := split_at_entered hfound
  have hlive : HoldsLive config.drainOnReclaim (onLink producer consumer history) :=
    ⟨before, value, after, hsplit, Nat.le_of_eq hlength.symm,
      fun drains => absurd (keeps.symm.trans drains) Bool.false_ne_true⟩
  have hle := working.stamped.departed_le working.follows producer consumer
  have hnumbers := working.numbers_le producer
  have hfew : poppedSince config.drainOnReclaim (onLink producer consumer history)
      < 0x8000000000000000 := by
    simp only [keeps, poppedSince, Bool.false_eq_true, if_false]
    omega
  obtain ⟨name, link, hat⟩ := working.follows.liveAt hlive hfew
  obtain ⟨_, hconsumer⟩ :=
    (working.installed.wired.grid.wired_iff producer consumer).mp (by simp [hat.named])
  rw [working.consumers_eq] at hconsumer
  obtain ⟨reader, found⟩ : ∃ reader, delivery.readers[consumer]? = some reader :=
    ⟨_, Array.getElem?_eq_getElem hconsumer⟩
  obtain ⟨rfl, hpoised, _⟩ := working.reader found
  obtain ⟨taken, htaken, _⟩ := working.installed.wired.pop_of_live hat hpoised
  exact ⟨reader, Array.mem_of_getElem? found, Option.isSome_iff_exists.mpr ⟨taken, htaken⟩⟩

/-- A writer that has numbers left gets its next one accepted if no link holds anything. -/
theorem Working.accepted (working : delivery.Working shape config quota history)
    (read : 0 < delivery.readers.size)
    (empty : ∀ producer consumer, delivery.fabric.held producer consumer = []) {writer : Writer}
    (member : writer ∈ delivery.writers) (left : writer.next < writer.quota)
    : (delivery.fabric.push writer.sender ⟨writer.sender.slot, writer.next⟩).1.isAccepted := by
  obtain ⟨slot, found⟩ := Array.mem_iff_getElem?.mp member
  obtain ⟨rfl, rfl, _, registered⟩ := working.writer found
  obtain ⟨within, _⟩ := Array.getElem?_eq_some_iff.mp found
  have hregistered := Fabric.isRegistered_iff.mpr (registered left)
  have hwired := working.installed.wired
  rw [← working.producers_eq] at within
  rw [← working.consumers_eq] at read
  -- The sweep meets a link, and that link is empty.
  obtain ⟨wire, rest, hsweep⟩ := List.exists_cons_of_ne_nil
    (hwired.sweep_ne_nil within read writer.sender.cursor)
  have hnamed : delivery.fabric.name? writer.sender.slot wire.position = some wire.link :=
    Row.link?_of_mem_sweep (hsweep ▸ List.mem_cons_self)
  obtain ⟨link, hplace, hlink⟩ := hwired.links_of_name hnamed
  have hsound := working.follows.sound hlink
  have hnone : link.toList = [] := by
    have hheld := empty writer.sender.slot wire.position
    simp only [Fabric.held, hlink] at hheld
    exact hheld
  have hroom : link.ring.size < link.ring.capacity := by
    rw [← Ring.length_toList hsound]
    exact (congrArg List.length hnone).trans_lt hsound.capacity_pos
  obtain ⟨_, _, hpush⟩ := link.push_eq (⟨writer.sender.slot, writer.next⟩ : Stamp) hsound
  rw [if_pos hroom] at hpush
  simp only [Fabric.push, hregistered, if_true, Fabric.offerSweep_eq, hsweep, Fabric.offerAlong,
    Fabric.offer_of_link hplace, hpush.1]
  rfl

-----------------------------------------------------------------------------------------
-- What was handed over has arrived or is on its way
-----------------------------------------------------------------------------------------

theorem receivedCount_eq (delivery : Delivery)
    : delivery.receivedCount = delivery.received.length := by
  simp only [receivedCount, received, List.length_flatMap, List.sum_eq_foldl, List.foldl_map,
    ← Array.foldl_toList, Array.length_toList]

/-- Only a writer hands over numbers. -/
theorem lt_of_handedOver {slot number : Nat} (handed : number < delivery.handedOver slot)
    : slot < delivery.writers.size := by
  cases found : delivery.writers[slot]? with
  | none =>
      simp only [handedOver, found] at handed
      cases handed
  | some writer => exact (Array.getElem?_eq_some_iff.mp found).1

/-- Each value that entered was handed over by the writer of its slot. -/
theorem Working.entered_length (working : delivery.Working shape config quota history)
    : (Passage.entered history).length
        = ∑ slot ∈ Finset.range delivery.writers.size, delivery.handedOver slot := by
  have hslots : ∀ slot ∈ ((Passage.entered history).map Stamp.slot : Multiset Nat),
      slot ∈ Finset.range delivery.writers.size := by
    intro slot member
    obtain ⟨stamp, hstamp, rfl⟩ := List.mem_map.mp (Multiset.mem_coe.mp member)
    have hnumber : stamp.number ∈ numbersFrom (Passage.entered history) stamp.slot :=
      List.mem_map_of_mem (List.mem_filter.mpr ⟨hstamp, beq_self_eq_true _⟩)
    rw [working.handed, List.mem_range] at hnumber
    exact Finset.mem_range.mpr (lt_of_handedOver hnumber)
  have heach (slot : Nat)
      : ((Passage.entered history).map Stamp.slot : Multiset Nat).count slot
        = delivery.handedOver slot := by
    have hlength := congrArg List.length (working.handed slot)
    rw [numbersFrom, List.length_map, List.length_range, ← List.countP_eq_length_filter] at hlength
    rw [Multiset.coe_count, List.count, List.countP_map]
    exact hlength
  have hcount := Multiset.sum_count_eq_card hslots
  rw [Multiset.coe_card, List.length_map] at hcount
  rw [← hcount]
  exact Finset.sum_congr rfl fun slot _ => heach slot

/-- What was handed over has been received or is held in a link. -/
theorem Working.handed_total (working : delivery.Working shape config quota history)
    : ∑ slot ∈ Finset.range delivery.writers.size, delivery.handedOver slot
        = delivery.receivedCount
          + ∑ pair ∈ delivery.fabric.pairs, (delivery.fabric.held pair.1 pair.2).length := by
  have hcard := congrArg Multiset.card working.follows.entered_eq_departed_add_held
  simp only [Multiset.card_add, Multiset.coe_card, Multiset.card_sum] at hcard
  rw [← working.entered_length, receivedCount_eq, working.arrived.length_eq]
  exact hcard

/-- No more is received than there is to hand over. -/
theorem Working.receivedCount_le (working : delivery.Working shape config quota history)
    : delivery.receivedCount ≤ delivery.writers.size * quota := by
  have htotal := working.handed_total
  have hbound : ∑ slot ∈ Finset.range delivery.writers.size, delivery.handedOver slot
      ≤ ∑ _slot ∈ Finset.range delivery.writers.size, quota :=
    Finset.sum_le_sum fun slot _ => working.handedOver_le slot
  rw [Finset.sum_const_nat fun _ _ => rfl, Finset.card_range] at hbound
  omega

/-- As long as numbers are missing the work can go on: what a link holds can be received, and if no
link holds anything there is room for what has not been handed over.
-/
theorem Working.moving (working : delivery.Working shape config quota history)
    (keeps : config.drainOnReclaim = false) (few : quota < 0x8000000000000000)
    (read : 0 < delivery.readers.size)
    (missing : delivery.receivedCount < delivery.writers.size * quota)
    : delivery.Moving := by
  by_cases holds : ∃ producer consumer, delivery.fabric.held producer consumer ≠ []
  · obtain ⟨producer, consumer, holds⟩ := holds
    exact .inl (working.served keeps few holds)
  · have hempty : ∀ producer consumer, delivery.fabric.held producer consumer = [] := by
      intro producer consumer
      exact Classical.byContradiction fun held => holds ⟨producer, consumer, held⟩
    have htotal := working.handed_total
    simp only [hempty, List.length_nil, Finset.sum_const_zero, Nat.add_zero] at htotal
    have hless : ∑ slot ∈ Finset.range delivery.writers.size, delivery.handedOver slot
        < ∑ _slot ∈ Finset.range delivery.writers.size, quota := by
      rw [htotal, Finset.sum_const, Finset.card_range]
      exact missing
    obtain ⟨slot, hslot, hleft⟩ := Finset.exists_lt_of_sum_lt hless
    have hwithin := Finset.mem_range.mp hslot
    refine .inr ⟨⟨delivery.writers[slot], Array.getElem_mem hwithin, ?_⟩, ?_⟩
    · have hfound := Array.getElem?_eq_getElem hwithin
      rw [(working.writer hfound).quota_eq]
      simp only [handedOver, hfound] at hleft
      exact hleft
    · exact fun writer member left => working.accepted read hempty member left

-----------------------------------------------------------------------------------------
-- What has arrived in the end
-----------------------------------------------------------------------------------------

/-- Each of the producers' numbers below the quota has been received once, and by each consumer in
increasing order, which is what the summaries say. No link holds anything, and there is one link for
each pair, which is what the counts say unless there are more than a word can count.
-/
structure Delivered (delivery : Delivery) (producers consumers quota : Nat) : Prop where
  once : ∀ slot < producers, (numbersFrom delivery.received slot).Perm (List.range quota)
  arrivals_eq
    : delivery.arrivals
        = if quota = 0 then []
          else (List.range producers).map fun slot => ⟨slot, quota, quota * (quota - 1) / 2⟩
  ordered
    : ∀ reader ∈ delivery.readers,
        ∀ slot, (numbersFrom reader.received.toList slot).Pairwise (· < ·)
  isOrdered_eq : delivery.isOrdered = true
  empty : ∀ producer consumer, delivery.fabric.held producer consumer = []
  links_size : delivery.fabric.links.size = producers * consumers
  linkCount_eq : delivery.fabric.linkCount = .ofNat (producers * consumers)
  counts_eq
    : producers * consumers < 0x10000000000000000
      → delivery.fabric.counts = ⟨producers, consumers, producers * consumers⟩

/-- What a reader has received from a slot are some of its first numbers, in order. -/
theorem Working.ordered (working : delivery.Working shape config quota history) {reader : Reader}
    (member : reader ∈ delivery.readers) (slot : Nat)
    : (numbersFrom reader.received.toList slot).Pairwise (· < ·) := by
  obtain ⟨consumer, found⟩ := Array.mem_iff_getElem?.mp member
  have hsublist := working.stamped.numbers_sublist slot consumer
  simp only [working.follows.entered_eq, List.map_append, working.handed] at hsublist
  rw [(working.reader found).received]
  exact List.pairwise_lt_range.sublist ((List.sublist_append_left _ _).trans hsublist)

theorem increasing_of_pairwise {numbers : List Nat} (ordered : numbers.Pairwise (· < ·))
    : increasing numbers = true := by
  fun_induction increasing numbers with
  | case1 => rfl
  | case2 => rfl
  | case3 first second rest ih =>
      obtain ⟨hfirst, hrest⟩ := List.pairwise_cons.mp ordered
      simp only [hfirst second List.mem_cons_self, decide_true, Bool.true_and]
      exact ih hrest

theorem Working.isOrdered (working : delivery.Working shape config quota history)
    : delivery.isOrdered = true := by
  refine Array.all_eq_true_iff_forall_mem.mpr fun reader member => ?_
  exact List.all_eq_true.mpr fun slot _ => increasing_of_pairwise (working.ordered member slot)

/-- The sum of the first numbers. -/
theorem sum_range_eq (count : Nat) : (List.range count).sum = count * (count - 1) / 2 := by
  rw [← Finset.sum_range_id]
  exact congrArg List.sum (List.map_id _).symm

/-- If each slot's first numbers were received once, that is what arrived. -/
theorem arrivals_of_perm
    (once
      : ∀ slot < delivery.fabric.producerCount,
          (numbersFrom delivery.received slot).Perm (List.range quota))
    : delivery.arrivals
        = if quota = 0 then []
          else (List.range delivery.fabric.producerCount).map fun slot =>
            ⟨slot, quota, quota * (quota - 1) / 2⟩ := by
  split
  · next zero =>
      subst zero
      apply List.filterMap_eq_nil_iff.mpr
      intro slot member
      rw [(once slot (List.mem_range.mp member)).eq_nil]
  · next some =>
      rw [← List.filterMap_eq_map]
      apply List.filterMap_congr
      intro slot member
      have honce := once slot (List.mem_range.mp member)
      have hlength := honce.length_eq
      have hsum := honce.sum_eq
      rw [List.length_range] at hlength
      rw [sum_range_eq] at hsum
      cases hnumbers : numbersFrom delivery.received slot with
      | nil =>
          rw [hnumbers] at hlength
          exact absurd hlength.symm some
      | cons first rest =>
          rw [hnumbers] at hlength hsum
          rw [List.sum_eq_foldl] at hsum
          simp only [hlength, hsum, Function.comp_apply]

/-- Everything has arrived once as many values have been received as there are numbers. -/
theorem Working.delivered (working : delivery.Working shape config quota history)
    (small : config.channelCapacity < Ring.allocationLimit)
    (complete : delivery.receivedCount = delivery.writers.size * quota)
    : delivery.Delivered delivery.writers.size delivery.readers.size quota := by
  have htotal := working.handed_total
  have hle : ∀ slot ∈ Finset.range delivery.writers.size, delivery.handedOver slot ≤ quota :=
    fun slot _ => working.handedOver_le slot
  have hbound := Finset.sum_le_sum hle
  have hquotas
      : ∑ _slot ∈ Finset.range delivery.writers.size, quota = delivery.writers.size * quota := by
    rw [Finset.sum_const_nat fun _ _ => rfl, Finset.card_range]
  have hheld
      : ∑ pair ∈ delivery.fabric.pairs, (delivery.fabric.held pair.1 pair.2).length = 0 := by
    omega
  have hfull := (Finset.sum_eq_sum_iff_of_le hle).mp (by omega)
  have hempty : ∀ producer consumer, delivery.fabric.held producer consumer = [] := by
    intro producer consumer
    cases hlink : delivery.fabric.link? producer consumer with
    | none =>
        simp only [Fabric.held, hlink]
        rfl
    | some link =>
        obtain ⟨hproducer, hconsumer⟩ :=
          (working.installed.wired.link?_isSome producer consumer).mp (by simp [hlink])
        have hpair : (producer, consumer) ∈ delivery.fabric.pairs :=
          Finset.mem_product.mpr ⟨Finset.mem_range.mpr hproducer, Finset.mem_range.mpr hconsumer⟩
        have hlength := Finset.sum_eq_zero_iff.mp hheld (producer, consumer) hpair
        exact List.length_eq_zero_iff.mp hlength
  have hentered := working.follows.entered_eq_departed_add_held
  simp only [hempty, Multiset.coe_nil, Finset.sum_const_zero, add_zero, Multiset.coe_eq_coe]
    at hentered
  have hcomplete := working.installed.complete small
  have hstock := hcomplete.links_size
  have hcount := hcomplete.linkCount_eq
  have hcounts := hcomplete.counts_eq
  rw [working.producers_eq, working.consumers_eq] at hstock hcount hcounts
  have honce : ∀ slot < delivery.writers.size,
      (numbersFrom delivery.received slot).Perm (List.range quota) := by
    intro slot within
    have hnumbers := numbersFrom_perm (working.arrived.trans hentered.symm) slot
    rw [working.handed, hfull slot (Finset.mem_range.mpr within)] at hnumbers
    exact hnumbers
  exact {
    once := honce
    arrivals_eq := by
      rw [← working.producers_eq]
      exact arrivals_of_perm (working.producers_eq.symm ▸ honce)
    ordered := fun reader member => working.ordered member
    isOrdered_eq := working.isOrdered
    empty := hempty
    links_size := hstock
    linkCount_eq := hcount
    counts_eq := fun fits => hcounts (hstock.trans_lt fits)
  }

/-- Nobody comes or goes while the parties are at work. -/
theorem sizes_step (delivery : Delivery) (actor : Actor)
    : (delivery.step actor).writers.size = delivery.writers.size
      ∧ (delivery.step actor).readers.size = delivery.readers.size := by
  cases actor with
  | writer index =>
      simp only [step, Delivery.writerStep]
      split
      · exact ⟨rfl, rfl⟩
      · split
        · split <;> exact ⟨Array.size_setIfInBounds, rfl⟩
        · split
          · exact ⟨rfl, rfl⟩
          · exact ⟨Array.size_setIfInBounds, rfl⟩
  | reader index =>
      simp only [step, Delivery.readerStep, takeOut]
      split
      · next kept =>
          obtain ⟨_, rfl⟩ := Prod.mk.inj kept
          exact ⟨rfl, Array.size_setIfInBounds⟩
      · next taken =>
          obtain ⟨_, rfl⟩ := Prod.mk.inj taken
          simp only [Array.size_setIfInBounds, and_self]

theorem sizes_run (delivery : Delivery) (actors : List Actor)
    : (delivery.run actors).writers.size = delivery.writers.size
      ∧ (delivery.run actors).readers.size = delivery.readers.size := by
  induction actors generalizing delivery with
  | nil => exact ⟨rfl, rfl⟩
  | cons actor rest ih =>
      obtain ⟨hwriters, hreaders⟩ := delivery.sizes_step actor
      obtain ⟨hmore, hothers⟩ := ih (delivery.step actor)
      exact ⟨hmore.trans hwriters, hothers.trans hreaders⟩

/-- Delivery does not depend on the order in which the parties work. On a new fabric that does not
drain, with at least one reader and with slots for all parties, whoever registers first: after any
sequence of operations, as long as numbers are missing the work can go on, and once as many values
have been received as there are numbers, each number has been received exactly once.
-/
theorem delivered_exactly_once (shape : Shape) (config : Config) (quota : Nat)
    (parties : List Party) (keeps : config.drainOnReclaim = false)
    (roomy : 0 < config.channelCapacity)
    (small : config.channelCapacity < Ring.allocationLimit)
    (few : quota < 0x8000000000000000) (read : 0 < parties.count .reader)
    (readers_le : parties.count .reader ≤ shape.maxConsumers)
    (writers_le : parties.count .writer ≤ shape.maxProducers)
    : ∃ bare staffed,
        start shape config = .ok bare
        ∧ bare.enlist quota parties = .ok staffed
        ∧ ∀ actors,
            let reached := staffed.run actors
            let producers := parties.count .writer
            let consumers := parties.count .reader
            reached.receivedCount ≤ producers * quota
            ∧ (reached.receivedCount < producers * quota → reached.Moving)
            ∧ (reached.receivedCount = producers * quota
              → reached.Delivered producers consumers quota) := by
  obtain ⟨bare, hstart, hbare⟩ := staffed_start shape roomy quota
  obtain ⟨staffed, henlist, hstaffed⟩ :=
    hbare.enlist small (by simpa only [Nat.zero_add] using readers_le)
      (by simpa only [Nat.zero_add] using writers_le)
  refine ⟨bare, staffed, hstart, henlist, fun actors => ?_⟩
  intro reached producers consumers
  obtain ⟨hwriters, hreaders⟩ := staffed.sizes_run actors
  obtain ⟨history, hworking⟩ := hstaffed.working.run keeps few actors
  rw [hstaffed.writers_eq, Nat.zero_add] at hwriters
  rw [hstaffed.readers_eq, Nat.zero_add] at hreaders
  have hle := hworking.receivedCount_le
  have hmoving := hworking.moving keeps few (hreaders.symm ▸ read)
  have hdelivered := hworking.delivered small
  rw [hwriters] at hle hmoving hdelivered
  rw [hreaders] at hdelivered
  exact ⟨hle, hmoving, hdelivered⟩

/-- Two writers and a reader, who registers between them. -/
def crew : List Party :=
  [.writer, .reader, .writer]

/-- The first writer's second push is refused at first, and it leaves before the other has finished.
-/
def shifts : List Actor :=
  [.writer 0, .writer 0, .writer 1, .reader 0, .writer 0, .writer 0, .reader 0, .reader 0,
    .writer 1, .reader 0]

/-- Through links with room for one value, both numbers of both writers arrive. -/
theorem delivered_exactly_once_crew
    : ∃ bare staffed,
        start ⟨2, 1⟩ ⟨1, false⟩ = .ok bare
        ∧ bare.enlist 2 crew = .ok staffed
        ∧ staffed.Moving
        ∧ (staffed.run shifts).receivedCount = 4
        ∧ (staffed.run shifts).Delivered 2 1 2 := by
  obtain ⟨bare, staffed, hstart, henlist, hall⟩ :=
    delivered_exactly_once ⟨2, 1⟩ ⟨1, false⟩ 2 crew rfl (by decide) (by decide) (by decide)
      (by decide) (by decide) (by decide)
  have hcounts
      : ((start ⟨2, 1⟩ ⟨1, false⟩).toOption.bind fun bare =>
          (bare.enlist 2 crew).toOption.map fun staffed =>
            ((staffed.run []).receivedCount, (staffed.run shifts).receivedCount))
        = some (0, 4) := by
    decide +kernel
  simp only [hstart, henlist, Except.toOption, Option.bind_some, Option.map_some,
    Option.some.injEq, Prod.mk.injEq] at hcounts
  obtain ⟨_, hmoving, _⟩ := hall []
  obtain ⟨_, _, hdelivered⟩ := hall shifts
  refine ⟨bare, staffed, hstart, henlist, hmoving ?_, hcounts.2, hdelivered hcounts.2⟩
  exact hcounts.1.trans_lt (by decide)

end Delivery

end Crossbar
