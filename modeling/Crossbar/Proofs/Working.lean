import Crossbar.Delivery
import Crossbar.Proofs.Fairness
import Crossbar.Proofs.Registry
import Crossbar.Proofs.Stock

/-! Parties at work on one fabric. Whatever the order of their operations, each writer hands over
its numbers in order through its own slot, each reader has got the numbers that left its links in
the order in which they left, and nothing is thrown away.
-/

namespace Crossbar

open Motion
open Passage (onLink onLink_append)

-----------------------------------------------------------------------------------------
-- Numbers by slot
-----------------------------------------------------------------------------------------

/-- Replacing one item replaces what it yields, here by the same and some more. -/
theorem flatMap_set_perm {β γ : Type} {items : List β} {index : Nat} {old new : β} {f : β → List γ}
    {extra : List γ} (found : items[index]? = some old) (more : f new = f old ++ extra)
    : ((items.set index new).flatMap f).Perm (items.flatMap f ++ extra) := by
  induction items generalizing index with
  | nil => cases found
  | cons first rest ih =>
      cases index with
      | zero =>
          obtain rfl := Option.some.inj found
          simp only [List.set_cons_zero, List.flatMap_cons, more, List.append_assoc]
          exact List.Perm.append_left _ List.perm_append_comm
      | succ index =>
          simp only [List.set_cons_succ, List.flatMap_cons, List.append_assoc]
          exact List.Perm.append_left _ (ih found)

namespace Delivery

@[simp] theorem numbersFrom_append (stamps more : List Stamp) (slot : Nat)
    : numbersFrom (stamps ++ more) slot = numbersFrom stamps slot ++ numbersFrom more slot := by
  simp only [numbersFrom, List.filter_append, List.map_append]

theorem numbersFrom_singleton (stamp : Stamp) (slot : Nat)
    : numbersFrom [stamp] slot = if stamp.slot = slot then [stamp.number] else [] := by
  by_cases own : stamp.slot = slot <;> simp [numbersFrom, own]

theorem numbersFrom_perm {stamps other : List Stamp} (same : stamps.Perm other) (slot : Nat)
    : (numbersFrom stamps slot).Perm (numbersFrom other slot) :=
  (same.filter _).map _

/-- How many numbers were handed over through a slot. -/
def handedOver (delivery : Delivery) (slot : Nat) : Nat :=
  (delivery.writers[slot]?.map Writer.next).getD 0

end Delivery

/-- What entered a link was accepted into it. -/
theorem Passage.accepted_mem_of_entered {α : Type} {history : List (Passage α)}
    {producer consumer : Nat} {value : α}
    (entered : value ∈ Motion.entered (onLink producer consumer history))
    : .accepted producer consumer value ∈ history := by
  obtain ⟨motion, hmotion, haccepted⟩ := List.mem_filterMap.mp entered
  obtain ⟨passage, hpassage, hmeans⟩ := List.mem_filterMap.mp hmotion
  cases motion with
  | delivered | discarded | reissued => cases haccepted
  | accepted value' =>
      obtain rfl := Option.some.inj haccepted
      cases passage with
      | delivered | discarded | reissued =>
          simp only [motion?] at hmeans
          split at hmeans <;> cases hmeans
      | accepted producer' consumer' value' =>
          simp only [motion?] at hmeans
          split at hmeans
          · next here =>
              obtain ⟨rfl, rfl⟩ := here
              obtain rfl := Motion.accepted.inj (Option.some.inj hmeans)
              exact hpassage
          · cases hmeans

/-- A passage other than an acceptance by a link brings nothing onto that link. -/
theorem Passage.entered_onLink_eq_nil {α : Type} {passage : Passage α} {producer consumer : Nat}
    (other : ∀ value, passage ≠ .accepted producer consumer value)
    : Motion.entered (onLink producer consumer [passage]) = [] := by
  refine List.eq_nil_iff_forall_not_mem.mpr fun value member => other value ?_
  exact (List.mem_singleton.mp (accepted_mem_of_entered member)).symm

/-- Every value accepted through a slot is stamped with it. -/
def Passage.Stamped (history : List (Passage Stamp)) : Prop :=
  ∀ producer consumer stamp,
    .accepted producer consumer stamp ∈ history → stamp.slot = producer

namespace Passage.Stamped

open Delivery

variable {history : List (Passage Stamp)}

/-- What entered one link is among what was stamped with its producer slot, in the same order. The
induction follows the history.
-/
theorem numbers_sublist (stamped : Stamped history) (producer consumer : Nat)
    : ((Motion.entered (onLink producer consumer history)).map Stamp.number).Sublist
        (numbersFrom (Passage.entered history) producer) := by
  induction history with
  | nil => exact List.Sublist.refl []
  | cons passage rest ih =>
      have hrest := ih fun _ _ _ member => stamped _ _ _ (List.mem_cons_of_mem _ member)
      have hfirst
          : ((Motion.entered (onLink producer consumer [passage])).map Stamp.number).Sublist
              (numbersFrom (Passage.entered [passage]) producer) := by
        by_cases other : ∀ value, passage ≠ .accepted producer consumer value
        · simp only [Passage.entered_onLink_eq_nil other, List.map_nil]
          exact List.nil_sublist _
        · obtain ⟨stamp, rfl⟩ := not_forall_not.mp other
          have hslot := stamped _ _ _ List.mem_cons_self
          have hentered
              : Passage.entered [.accepted producer consumer stamp] = [stamp] := rfl
          simp only [Passage.onLink_accepted, hentered, numbersFrom_singleton, hslot,
            and_self, if_true]
          exact List.Sublist.refl _
      have hsplit : passage :: rest = [passage] ++ rest := rfl
      simp only [hsplit, onLink_append, Motion.entered_append, Passage.entered_append,
        List.map_append, numbersFrom_append]
      exact hfirst.append hrest

theorem append (stamped : Stamped history) {more : List (Passage Stamp)} (rest : Stamped more)
    : Stamped (history ++ more) := by
  intro producer consumer stamp member
  rcases List.mem_append.mp member with hold | hnew
  · exact stamped _ _ _ hold
  · exact rest _ _ _ hnew

/-- What left a link had entered it, so it bears the stamp of the link's producer slot. -/
theorem departed_slot (stamped : Stamped history) {config : Config} {fabric : Fabric Stamp}
    (follows : fabric.Follows config history) {producer consumer : Nat} {stamp : Stamp}
    (left : stamp ∈ Motion.departed (onLink producer consumer history))
    : stamp.slot = producer := by
  have hentered : stamp ∈ Motion.entered (onLink producer consumer history) :=
    follows.entered_eq producer consumer ▸ List.mem_append_left _ left
  exact stamped _ _ _ (Passage.accepted_mem_of_entered hentered)

/-- No more values leave a link than numbers were handed over through its producer slot. -/
theorem departed_le (stamped : Stamped history) {config : Config} {fabric : Fabric Stamp}
    (follows : fabric.Follows config history) (producer consumer : Nat)
    : (Motion.departed (onLink producer consumer history)).length
        ≤ (numbersFrom (Passage.entered history) producer).length := by
  have hsublist := (stamped.numbers_sublist producer consumer).length_le
  simp only [List.length_map, follows.entered_eq, List.length_append] at hsublist
  omega

end Passage.Stamped

-----------------------------------------------------------------------------------------
-- Parties at work
-----------------------------------------------------------------------------------------

open Delivery (numbersFrom)

/-- A writer works through its own slot, and stays registered as long as numbers are left. -/
structure Writer.AtWork (fabric : Fabric Stamp) (quota slot : Nat) (writer : Writer) : Prop where
  slot_eq : writer.sender.slot = slot
  quota_eq : writer.quota = quota
  next_le : writer.next ≤ quota
  registered : writer.next < quota → fabric.ticket? slot = some writer.sender.ticket

/-- A reader has received from each producer slot what left the link between the two. -/
structure Reader.AtWork (producers : Nat) (history : List (Passage Stamp)) (slot : Nat)
    (reader : Reader) : Prop where
  slot_eq : reader.receiver.slot = slot
  poised : reader.receiver.Poised producers
  received
    : ∀ producer,
        numbersFrom reader.received.toList producer
          = (Motion.departed (onLink producer slot history)).map Stamp.number

namespace Delivery

/-- The parties of a fabric are at work on it, each on the slot of its own number. What was handed
over through a slot are its first numbers, and what the readers have is what left the fabric.
-/
structure Working (shape : Shape) (config : Config) (quota : Nat) (delivery : Delivery)
    (history : List (Passage Stamp)) : Prop where
  installed : delivery.fabric.Installed 0 shape config
  follows : delivery.fabric.Follows config history
  producers_eq : delivery.fabric.producerCount = delivery.writers.size
  consumers_eq : delivery.fabric.consumerCount = delivery.readers.size
  writer
    : ∀ {slot : Nat} {writer : Writer},
        delivery.writers[slot]? = some writer → writer.AtWork delivery.fabric quota slot
  reader
    : ∀ {slot : Nat} {reader : Reader},
        delivery.readers[slot]? = some reader
        → reader.AtWork delivery.fabric.producerCount history slot
  stamped : Passage.Stamped history
  handed
    : ∀ slot,
        numbersFrom (Passage.entered history) slot = List.range (delivery.handedOver slot)
  arrived : delivery.received.Perm (Passage.departed history)

variable {shape : Shape} {config : Config} {quota : Nat} {delivery : Delivery}
  {history : List (Passage Stamp)}

theorem Working.handedOver_le (working : delivery.Working shape config quota history) (slot : Nat)
    : delivery.handedOver slot ≤ quota := by
  rw [handedOver]
  cases found : delivery.writers[slot]? with
  | none => exact Nat.zero_le _
  | some writer => exact (working.writer found).next_le

/-- No more numbers are handed over through a slot than its writer has. -/
theorem Working.numbers_le (working : delivery.Working shape config quota history) (slot : Nat)
    : (numbersFrom (Passage.entered history) slot).length ≤ quota := by
  rw [working.handed, List.length_range]
  exact working.handedOver_le slot

-----------------------------------------------------------------------------------------
-- A writer's operation
-----------------------------------------------------------------------------------------

/-- What a writer's operation passes into the fabric: nothing, or its next number. -/
inductive Handover (slot next : Nat) : List (Passage Stamp) → Nat → Prop
  | none : Handover slot next [] next
  | one (consumer : Nat) : Handover slot next [.accepted slot consumer ⟨slot, next⟩] (next + 1)

namespace Handover

variable {slot next later : Nat} {more : List (Passage Stamp)}

theorem stamped (handover : Handover slot next more later) : Passage.Stamped more := by
  intro producer consumer stamp member
  cases handover with
  | none => cases member
  | one =>
      obtain ⟨rfl, rfl, rfl⟩ := Passage.accepted.inj (List.mem_singleton.mp member)
      rfl

theorem departed_eq (handover : Handover slot next more later)
    : Passage.departed more = [] := by
  cases handover <;> rfl

theorem departed_onLink (handover : Handover slot next more later) (producer consumer : Nat)
    : Motion.departed (onLink producer consumer more) = [] := by
  cases handover with
  | none => rfl
  | one =>
      simp only [Passage.onLink_accepted]
      split <;> rfl

/-- The numbers handed over through the slot go on where they were. -/
theorem numbers_own (handover : Handover slot next more later)
    : List.range next ++ numbersFrom (Passage.entered more) slot = List.range later := by
  cases handover with
  | none => exact List.append_nil _
  | one consumer =>
      have hentered : Passage.entered [.accepted slot consumer ⟨slot, next⟩]
          = [(⟨slot, next⟩ : Stamp)] := rfl
      simp only [hentered, numbersFrom_singleton, if_true, List.range_succ]

/-- Nothing is handed over through other slots. -/
theorem numbers_other (handover : Handover slot next more later) {producer : Nat}
    (other : slot ≠ producer)
    : numbersFrom (Passage.entered more) producer = [] := by
  cases handover with
  | none => rfl
  | one consumer =>
      have hentered : Passage.entered [.accepted slot consumer ⟨slot, next⟩]
          = [(⟨slot, next⟩ : Stamp)] := rfl
      simp only [hentered, numbersFrom_singleton, if_neg other]

end Handover

/-- A writer's operation keeps the parties at work, if it leaves the wiring and the other
registrations alone.
-/
theorem Working.write (working : delivery.Working shape config quota history) {slot : Nat}
    {writer : Writer} (found : delivery.writers[slot]? = some writer) {fabric : Fabric Stamp}
    (same : Fabric.SameWiring delivery.fabric fabric)
    (count : fabric.linkCount = delivery.fabric.linkCount)
    (others : ∀ other, other ≠ slot → fabric.ticket? other = delivery.fabric.ticket? other)
    {more : List (Passage Stamp)} {after : Writer} (atWork : after.AtWork fabric quota slot)
    (handover : Handover slot writer.next more after.next)
    (follows : fabric.Follows config (history ++ more))
    : ({ delivery with fabric := fabric, writers := delivery.writers.setIfInBounds slot after }
        : Delivery).Working shape config quota (history ++ more) := by
  obtain ⟨within, _⟩ := Array.getElem?_eq_some_iff.mp found
  refine {
    installed := working.installed.of_sameWiring same count
    follows := follows
    producers_eq := ?_
    consumers_eq := ?_
    writer := ?_
    reader := ?_
    stamped := working.stamped.append handover.stamped
    handed := ?_
    arrived := ?_
  }
  · simp only [Array.size_setIfInBounds]
    exact same.producers.trans working.producers_eq
  · exact (congrArg Array.size same.consumers).trans working.consumers_eq
  · intro slot' writer' found'
    simp only [Array.getElem?_setIfInBounds] at found'
    split at found'
    · next here =>
        obtain rfl := Option.some.inj found'
        exact here ▸ atWork
    · next other =>
        obtain ⟨slot_eq, quota_eq, next_le, registered⟩ := working.writer found'
        exact ⟨slot_eq, quota_eq, next_le,
          fun left => (others slot' (Ne.symm other)).trans (registered left)⟩
  · intro slot' reader found'
    obtain ⟨slot_eq, poised, received⟩ := working.reader found'
    refine ⟨slot_eq, same.producers.symm ▸ poised, fun producer => ?_⟩
    simp only [onLink_append, Motion.departed_append, handover.departed_onLink, List.append_nil]
    exact received producer
  · intro producer
    have hhanded := working.handed producer
    simp only [Passage.entered_append, numbersFrom_append, hhanded, handedOver,
      Array.getElem?_setIfInBounds]
    by_cases here : slot = producer
    · subst here
      simp only [found, within, if_true, Option.map_some, Option.getD_some]
      exact handover.numbers_own
    · simp only [if_neg here, handover.numbers_other here, List.append_nil]
  · simp only [Passage.departed_append, handover.departed_eq, List.append_nil]
    exact working.arrived

/-- Ending the registration of one slot counts no link and leaves the other registrations alone. -/
theorem unregister_keeps (fabric : Fabric Stamp) (sender : Sender)
    : (fabric.unregister sender).fabric.linkCount = fabric.linkCount
      ∧ ∀ other,
          other ≠ sender.slot
          → (fabric.unregister sender).fabric.ticket? other = fabric.ticket? other := by
  have hended := fabric.ended sender
  generalize fabric.unregister sender = enrolled at hended
  cases hended with
  | misused => exact ⟨rfl, fun _ _ => rfl⟩
  | ended own found current =>
      refine ⟨rfl, fun other elsewhere => ?_⟩
      exact (Fabric.ticket?_setSlot { fabric with freed := sender.slot :: fabric.freed } found _
        other).trans (if_neg elsewhere)

/-- A push keeps the parties at work, whether it is accepted or not. -/
theorem Working.push (working : delivery.Working shape config quota history) {slot : Nat}
    {writer : Writer} (found : delivery.writers[slot]? = some writer)
    (left : writer.next < writer.quota)
    : ∃ more, (delivery.writerStep slot).Working shape config quota (history ++ more) := by
  obtain ⟨rfl, rfl, next_le, registered⟩ := working.writer found
  obtain ⟨hsame, _, hfollows⟩ :=
    working.follows.push writer.sender ⟨writer.sender.slot, writer.next⟩
  have honly := delivery.fabric.onlyLinks_push writer.sender ⟨writer.sender.slot, writer.next⟩
  have hbadge :=
    Session.push_badge ⟨delivery.fabric, writer.sender⟩ none
      (⟨writer.sender.slot, writer.next⟩ : Stamp)
  simp only [Delivery.writerStep, found, if_pos left]
  simp only [Writing.push] at hbadge
  rcases hpush : delivery.fabric.push writer.sender ⟨writer.sender.slot, writer.next⟩
    with ⟨answer, sender, fabric⟩
  simp only [hpush] at hsame hfollows honly hbadge
  obtain ⟨_, hslot, hticket⟩ := Badge.mk.inj hbadge
  have hcount : fabric.linkCount = delivery.fabric.linkCount := by
    obtain ⟨_, _, rfl⟩ := honly
    rfl
  have htickets := honly.sameRoll.2
  have hregistered : fabric.ticket? writer.sender.slot = some sender.ticket :=
    (htickets _).trans (hticket.symm ▸ registered left)
  cases answer with
  | accepted consumer =>
      exact ⟨_, working.write found hsame hcount (fun other _ => htickets other)
        ⟨hslot, rfl, left, fun _ => hregistered⟩ (.one consumer) hfollows⟩
  | rejected | failed =>
      exact ⟨_, working.write found hsame hcount (fun other _ => htickets other)
        ⟨hslot, rfl, next_le, fun _ => hregistered⟩ .none hfollows⟩

/-- Whatever a writer does next, the parties stay at work. -/
theorem Working.writerStep (working : delivery.Working shape config quota history) (index : Nat)
    : ∃ more, (delivery.writerStep index).Working shape config quota (history ++ more) := by
  cases found : delivery.writers[index]? with
  | none =>
      refine ⟨[], ?_⟩
      simpa only [Delivery.writerStep, found, List.append_nil] using working
  | some writer =>
      by_cases left : writer.next < writer.quota
      · exact working.push found left
      · obtain ⟨rfl, rfl, next_le, registered⟩ := working.writer found
        simp only [Delivery.writerStep, found, if_neg left]
        split
        · exact ⟨[], (List.append_nil history).symm ▸ working⟩
        · obtain ⟨hsame, _⟩ := Fabric.unregister_sameWiring delivery.fabric writer.sender
          obtain ⟨hcount, hothers⟩ := unregister_keeps delivery.fabric writer.sender
          refine ⟨[], working.write found hsame hcount hothers ?_ .none ?_⟩
          · exact ⟨rfl, rfl, next_le, fun more => absurd more left⟩
          · simpa only [List.append_nil] using working.follows.unregister writer.sender

-----------------------------------------------------------------------------------------
-- A reader's operation
-----------------------------------------------------------------------------------------

/-- Nothing enters a fabric with a pop. -/
theorem entered_passages (intake : Intake Stamp) (consumer : Nat)
    : Passage.entered (intake.passages consumer) = [] := by
  apply List.filterMap_eq_nil_iff.mpr
  intro passage member
  rcases List.mem_append.mp member with hstale | htaken
  · obtain ⟨stale, _, rfl⟩ := List.mem_map.mp hstale
    rfl
  · obtain ⟨taken, _, rfl⟩ := List.mem_map.mp htaken
    rfl

theorem stamped_passages (intake : Intake Stamp) (consumer : Nat)
    : Passage.Stamped (intake.passages consumer) := by
  intro producer consumer' stamp member
  have hentered : stamp ∈ Passage.entered (intake.passages consumer) :=
    List.mem_filterMap.mpr ⟨_, member, rfl⟩
  rw [entered_passages] at hentered
  cases hentered

section Intake

variable {intake : Intake Stamp} (kept : intake.discarded = [])

include kept

/-- What leaves a fabric with a pop that throws nothing away is what it takes. -/
theorem departed_taken (consumer : Nat)
    : Passage.departed (intake.passages consumer) = intake.taken.toList.map Sourced.value := by
  rcases intake with ⟨_ | taken, discarded⟩
  · obtain rfl := kept
    rfl
  · obtain rfl := kept
    rfl

/-- What leaves one of the consumer's links is what was taken from its producer slot. -/
theorem numbers_taken (stamped : ∀ taken ∈ intake.taken, taken.value.slot = taken.producer)
    (producer consumer : Nat)
    : (Motion.departed (onLink producer consumer (intake.passages consumer))).map Stamp.number
        = numbersFrom (intake.taken.toList.map Sourced.value) producer := by
  rcases intake with ⟨_ | taken, discarded⟩
  · obtain rfl := kept
    rfl
  · obtain rfl := kept
    have hslot := stamped taken rfl
    have hmotions
        : onLink producer consumer (Intake.passages consumer ⟨some taken, []⟩)
          = if taken.producer = producer ∧ consumer = consumer then
              [taken.value].map Motion.delivered
            else [] :=
      Passage.onLink_map (fun _ => rfl) [taken.value]
    have hvalues : (some taken).toList.map Sourced.value = [taken.value] := rfl
    simp only [hmotions, hvalues, numbersFrom_singleton, hslot, and_true]
    split <;> rfl

end Intake

section Reading

variable (keeps : config.drainOnReclaim = false) (few : quota < 0x8000000000000000)

include keeps few

/-- A pop throws nothing away, and what it takes bears the stamp of the slot it came through. -/
theorem Working.intake (working : delivery.Working shape config quota history) {slot : Nat}
    {reader : Reader} (found : delivery.readers[slot]? = some reader)
    : (delivery.fabric.pop reader.receiver).1.discarded = []
      ∧ ∀ taken ∈ (delivery.fabric.pop reader.receiver).1.taken,
          taken.value.slot = taken.producer := by
  obtain ⟨rfl, _, _⟩ := working.reader found
  obtain ⟨_, hfollows⟩ := working.follows.pop reader.receiver
  generalize (delivery.fabric.pop reader.receiver).1 = intake at hfollows
  have hstamped := working.stamped.append (stamped_passages intake reader.receiver.slot)
  constructor
  · apply List.eq_nil_iff_forall_not_mem.mpr
    intro stale member
    have hruled := hfollows.ruled stale.producer reader.receiver.slot
    have hle := hstamped.departed_le hfollows stale.producer reader.receiver.slot
    have hnumbers := working.numbers_le stale.producer
    rw [keeps] at hruled
    simp only [Passage.entered_append, entered_passages, List.append_nil] at hle
    refine hruled.nothing_discarded_iff.mpr (by omega) stale.value ?_
    refine List.mem_filterMap.mpr
      ⟨.discarded stale.producer reader.receiver.slot stale.value, ?_, if_pos ⟨rfl, rfl⟩⟩
    exact List.mem_append_right _
      (List.mem_append_left _ (List.mem_map.mpr ⟨stale, member, rfl⟩))
  · intro taken member
    have hmotion : .delivered taken.value ∈ onLink taken.producer reader.receiver.slot
        (history ++ intake.passages reader.receiver.slot) := by
      refine List.mem_filterMap.mpr
        ⟨.delivered taken.producer reader.receiver.slot taken.value, ?_, if_pos ⟨rfl, rfl⟩⟩
      exact List.mem_append_right _
        (List.mem_append_right _ (List.mem_map.mpr ⟨taken, Option.mem_toList.mpr member, rfl⟩))
    exact hstamped.departed_slot hfollows (List.mem_filterMap.mpr ⟨_, hmotion, rfl⟩)

/-- A pop keeps the parties at work, if its reader adds what it takes to what it has. -/
theorem Working.read (working : delivery.Working shape config quota history) {slot : Nat}
    {reader : Reader} (found : delivery.readers[slot]? = some reader) {intake : Intake Stamp}
    {receiver : Receiver} {fabric : Fabric Stamp} {got : Array Stamp}
    (pops : delivery.fabric.pop reader.receiver = (intake, receiver, fabric))
    (gets : got.toList = reader.received.toList ++ intake.taken.toList.map Sourced.value)
    : ({ delivery with
          fabric := fabric
          readers := delivery.readers.setIfInBounds slot ⟨receiver, got⟩ }
        : Delivery).Working shape config quota (history ++ intake.passages slot) := by
  obtain ⟨hkept, hvalue⟩ := working.intake keeps few found
  obtain ⟨rfl, hpoised, hreceived⟩ := working.reader found
  obtain ⟨hsame, hfollows⟩ := working.follows.pop reader.receiver
  have honly := delivery.fabric.onlyLinks_pop reader.receiver
  have hafter := working.installed.wired.pop_poised hpoised
  obtain ⟨_, hslot⟩ := delivery.fabric.pop_receiver reader.receiver
  obtain ⟨within, _⟩ := Array.getElem?_eq_some_iff.mp found
  simp only [pops] at hkept hvalue hsame hfollows honly hafter hslot
  have htickets := honly.sameRoll.2
  have hcount : fabric.linkCount = delivery.fabric.linkCount := by
    obtain ⟨_, _, rfl⟩ := honly
    rfl
  refine {
    installed := working.installed.of_sameWiring hsame hcount
    follows := hfollows
    producers_eq := hsame.producers.trans working.producers_eq
    consumers_eq := ?_
    writer := ?_
    reader := ?_
    stamped := working.stamped.append (stamped_passages intake reader.receiver.slot)
    handed := ?_
    arrived := ?_
  }
  · simp only [Array.size_setIfInBounds]
    exact (congrArg Array.size hsame.consumers).trans working.consumers_eq
  · intro slot writer found'
    obtain ⟨slot_eq, quota_eq, next_le, registered⟩ := working.writer found'
    exact ⟨slot_eq, quota_eq, next_le, fun left => (htickets slot).trans (registered left)⟩
  · intro slot reader' found'
    simp only [Array.getElem?_setIfInBounds] at found'
    split at found'
    · next here =>
        subst here
        obtain rfl := Option.some.inj found'
        refine ⟨hslot, hsame.producers.symm ▸ hafter, fun producer => ?_⟩
        simp only [gets, numbersFrom_append, hreceived, onLink_append, Motion.departed_append,
          List.map_append, numbers_taken hkept hvalue]
    · next other =>
        obtain ⟨slot_eq, poised, received⟩ := working.reader found'
        refine ⟨slot_eq, hsame.producers.symm ▸ poised, fun producer => ?_⟩
        simp only [onLink_append, intake.onLink_passages_of_slot_ne other, List.append_nil]
        exact received producer
  · intro producer
    simp only [Passage.entered_append, entered_passages, List.append_nil]
    exact working.handed producer
  · have harrived := working.arrived
    simp only [Passage.departed_append, departed_taken hkept, Delivery.received,
      Array.toList_setIfInBounds] at harrived ⊢
    refine (flatMap_set_perm (f := fun reader : Reader => reader.received.toList) ?_ gets).trans
      (harrived.append_right _)
    exact Array.getElem?_toList ▸ found

/-- Whatever a reader does next, the parties stay at work. -/
theorem Working.readerStep (working : delivery.Working shape config quota history) (index : Nat)
    : ∃ more, (delivery.readerStep index).Working shape config quota (history ++ more) := by
  cases found : delivery.readers[index]? with
  | none =>
      refine ⟨[], ?_⟩
      have houtside := Array.getElem?_eq_none_iff.mp found
      simpa only [Delivery.readerStep, takeOut_of_size_le _ houtside, List.append_nil]
        using working
  | some reader =>
      rcases hpop : delivery.fabric.pop reader.receiver
        with ⟨⟨_ | taken, discarded⟩, receiver, fabric⟩
      · simp only [Delivery.readerStep, takeOut, found, Array.setIfInBounds_setIfInBounds, hpop]
        exact ⟨_, working.read keeps few found hpop (List.append_nil _).symm⟩
      · simp only [Delivery.readerStep, takeOut, found, Array.setIfInBounds_setIfInBounds, hpop]
        exact ⟨_, working.read keeps few found hpop Array.toList_push⟩

theorem Working.step (working : delivery.Working shape config quota history) (actor : Actor)
    : ∃ more, (delivery.step actor).Working shape config quota (history ++ more) := by
  cases actor with
  | writer index => exact working.writerStep index
  | reader index => exact working.readerStep keeps few index

/-- The parties stay at work whatever the order of their operations, by induction over the
operations.
-/
theorem Working.run (working : delivery.Working shape config quota history) (actors : List Actor)
    : ∃ more, (delivery.run actors).Working shape config quota (history ++ more) := by
  induction actors generalizing delivery history with
  | nil => exact ⟨[], (List.append_nil history).symm ▸ working⟩
  | cons actor rest ih =>
      obtain ⟨first, hfirst⟩ := working.step keeps few actor
      obtain ⟨more, hmore⟩ := ih hfirst
      exact ⟨first ++ more, List.append_assoc history first more ▸ hmore⟩

end Reading

end Delivery

end Crossbar
