import Mathlib.Data.Finset.Card
import Mathlib.Data.Finset.Range
import Crossbar.Proofs.Allocation

/-! The log of a fabric is a faithful account of its slots. Whoever starts from an empty ledger and
enters the events of the log one by one has at every moment the counts of the fabric, the slots that
are registered and the free ones in order, and finds each event legal where it stands. What is not
about the slots leaves no trace in the log.
-/

namespace Crossbar

variable {α : Type}

-----------------------------------------------------------------------------------------
-- What a log tells of slots
-----------------------------------------------------------------------------------------

/-- An account of the slots of a fabric: how many there are on either side, which producer slots are
registered, and which are free, the one freed last in front.
-/
structure Ledger where
  producers : Nat
  consumers : Nat
  registered : Finset Nat
  freed : List Nat
deriving DecidableEq

namespace Ledger

/-- The ledger before anything has been logged. -/
def empty : Ledger where
  producers := 0
  consumers := 0
  registered := ∅
  freed := []

/-- Enters an event. Four kinds of events mean something for the slots. -/
def enter (ledger : Ledger) : Event → Ledger
  | .consumerRegistered _ => { ledger with consumers := ledger.consumers + 1 }
  | .producerRegistered producer =>
      { ledger with
        producers := ledger.producers + 1
        registered := insert producer ledger.registered }
  | .producerReclaimed producer =>
      { ledger with
        registered := insert producer ledger.registered
        freed := ledger.freed.tail }
  | .producerUnregistered producer =>
      { ledger with
        registered := ledger.registered.erase producer
        freed := producer :: ledger.freed }
  | .created _ _ | .consumersExhausted _ | .producersExhausted _ | .staleMarked _ _ => ledger

/-- Enters the events of a log one by one. -/
def replay (ledger : Ledger) (log : List Event) : Ledger :=
  log.foldl enter ledger

theorem replay_append (ledger : Ledger) (log more : List Event)
    : ledger.replay (log ++ more) = (ledger.replay log).replay more :=
  List.foldl_append

end Ledger

namespace Event

/-- An event is legal after what has been entered and right before the rest of the log. -/
def Legal (shape : Shape) (config : Config) (ledger : Ledger) (rest : List Event) : Event → Prop
  | .created _ _ => False
  | .consumerRegistered consumer => consumer = ledger.consumers
  | .consumersExhausted limit =>
      limit = shape.maxConsumers ∧ ledger.consumers = shape.maxConsumers
  | .producerRegistered producer => producer = ledger.producers
  | .producersExhausted limit =>
      limit = shape.maxProducers ∧ ledger.registered.card = shape.maxProducers
  | .staleMarked producer stale =>
      config.drainOnReclaim = true ∧ 0 < stale ∧ rest.head? = some (.producerReclaimed producer)
  | .producerReclaimed producer => ledger.freed.head? = some producer
  | .producerUnregistered producer => producer ∈ ledger.registered

/-- Whether an event takes a producer slot or gives it back. -/
def concerns (slot : Nat) : Event → Bool
  | .producerRegistered producer | .producerReclaimed producer
  | .producerUnregistered producer => producer == slot
  | _ => false

/-- The events in the life of a producer slot, by number: it is registered, and then unregistered
and reclaimed in turn.
-/
def ofLife (slot : Nat) : Nat → Event
  | 0 => .producerRegistered slot
  | count + 1 => if count % 2 = 0 then .producerUnregistered slot else .producerReclaimed slot

/-- What is logged later on makes no difference to whether an event is legal. -/
theorem Legal.append {shape : Shape} {config : Config} {ledger : Ledger} {rest : List Event}
    {event : Event} (legal : event.Legal shape config ledger rest) (more : List Event)
    : event.Legal shape config ledger (rest ++ more) := by
  cases event with
  | staleMarked producer stale =>
      obtain ⟨drains, positive, next⟩ := legal
      refine ⟨drains, positive, ?_⟩
      rw [List.head?_append, next, Option.some_or]
  | _ => exact legal

end Event

namespace Ledger

/-- Every event of a log is legal where it stands. -/
def Lawful (shape : Shape) (config : Config) : Ledger → List Event → Prop
  | _, [] => True
  | ledger, event :: rest =>
      event.Legal shape config ledger rest ∧ Lawful shape config (ledger.enter event) rest

/-- Where a producer slot stands after a number of events about it: it is there from the first one
on, it is registered after every other one, and otherwise it is listed once among the free ones.
-/
structure Stands (ledger : Ledger) (slot count : Nat) : Prop where
  within_iff : slot < ledger.producers ↔ 0 < count
  registered_iff : slot ∈ ledger.registered ↔ count % 2 = 1
  count_freed : ledger.freed.count slot = if 0 < count ∧ count % 2 = 0 then 1 else 0

section Lawful

variable {shape : Shape} {config : Config} {ledger : Ledger} {log : List Event}

/-- A lawful log goes on lawfully from the ledger that it leads to. -/
theorem Lawful.append (lawful : Lawful shape config ledger log) {more : List Event}
    (further : Lawful shape config (ledger.replay log) more)
    : Lawful shape config ledger (log ++ more) := by
  induction log generalizing ledger with
  | nil => exact further
  | cons event rest ih => exact ⟨lawful.1.append more, ih lawful.2 further⟩

/-- An event of a lawful log is legal after what stands before it. -/
theorem Lawful.legal {before : List Event} {event : Event} {rest : List Event}
    (lawful : Lawful shape config ledger (before ++ event :: rest))
    : event.Legal shape config (ledger.replay before) rest := by
  induction before generalizing ledger with
  | nil => exact lawful.1
  | cons first before ih => exact ih lawful.2

/-- Nothing is known of a slot before the first event. -/
theorem stands_empty (slot : Nat) : empty.Stands slot 0 := by
  constructor <;> simp [empty]

variable {slot count : Nat} {event : Event} {rest : List Event}

/-- A slot that is registered for the first time has had no event before. -/
theorem Stands.registered (stands : ledger.Stands slot count) (producer : Nat)
    (legal : producer = ledger.producers)
    : (producer = slot → count = 0)
      ∧ (ledger.enter (.producerRegistered producer)).Stands slot
          (if producer = slot then count + 1 else count) := by
  obtain ⟨within, registered, freed⟩ := stands
  subst legal
  by_cases here : ledger.producers = slot
  · obtain rfl : count = 0 := by omega
    rw [if_pos here]
    exact ⟨fun _ => rfl, by simp [Ledger.enter, here], by simp [Ledger.enter, here],
      by simpa [Ledger.enter] using freed⟩
  · rw [if_neg here]
    refine ⟨fun same => absurd same here, ?_, ?_, freed⟩
    · simp only [Ledger.enter]
      omega
    · simpa [Ledger.enter, Ne.symm here] using registered

/-- A slot that is reclaimed has been unregistered last. -/
theorem Stands.reclaimed (stands : ledger.Stands slot count) (producer : Nat)
    (legal : ledger.freed.head? = some producer)
    : (producer = slot → 0 < count ∧ count % 2 = 0)
      ∧ (ledger.enter (.producerReclaimed producer)).Stands slot
          (if producer = slot then count + 1 else count) := by
  obtain ⟨within, registered, freed⟩ := stands
  obtain ⟨tail, hfreed⟩ := List.head?_eq_some_iff.mp legal
  rw [hfreed, List.count_cons] at freed
  by_cases here : producer = slot
  · rw [if_pos (beq_iff_eq.mpr here)] at freed
    have hcount : 0 < count ∧ count % 2 = 0 := by
      by_contra other
      rw [if_neg other] at freed
      omega
    rw [if_pos hcount] at freed
    have hodd : ¬(0 < count + 1 ∧ (count + 1) % 2 = 0) := by omega
    rw [if_pos here]
    refine ⟨fun _ => hcount, ?_, ?_, ?_⟩
    · simp only [Ledger.enter]
      omega
    · simp only [Ledger.enter, here, Finset.mem_insert_self, true_iff]
      omega
    · simp only [Ledger.enter, hfreed, List.tail_cons, if_neg hodd]
      omega
  · rw [if_neg (by simpa using here), Nat.add_zero] at freed
    rw [if_neg here]
    refine ⟨fun same => absurd same here, within, ?_, ?_⟩
    · simpa [Ledger.enter, Ne.symm here] using registered
    · simpa only [Ledger.enter, hfreed, List.tail_cons] using freed

/-- A slot that is unregistered has been registered or reclaimed last. -/
theorem Stands.unregistered (stands : ledger.Stands slot count) (producer : Nat)
    (legal : producer ∈ ledger.registered)
    : (producer = slot → count % 2 = 1)
      ∧ (ledger.enter (.producerUnregistered producer)).Stands slot
          (if producer = slot then count + 1 else count) := by
  obtain ⟨within, registered, freed⟩ := stands
  by_cases here : producer = slot
  · rw [here] at legal
    have hodd := registered.mp legal
    have hfree : ¬(0 < count ∧ count % 2 = 0) := by omega
    have hnext : 0 < count + 1 ∧ (count + 1) % 2 = 0 := by omega
    rw [if_neg hfree] at freed
    rw [if_pos here]
    refine ⟨fun _ => hodd, ?_, ?_, ?_⟩
    · simp only [Ledger.enter]
      omega
    · simp only [Ledger.enter, here, Finset.mem_erase, ne_eq, not_true_eq_false, false_and,
        false_iff]
      omega
    · simp only [Ledger.enter, here, List.count_cons_self, freed, if_pos hnext]
  · rw [if_neg here]
    refine ⟨fun same => absurd same here, within, ?_, ?_⟩
    · simpa [Ledger.enter, Ne.symm here] using registered
    · simpa [Ledger.enter, List.count_cons, here] using freed

/-- A legal event about a slot is the next one in its life, and any other event leaves the slot as
it stands.
-/
theorem Stands.enter (stands : ledger.Stands slot count)
    (legal : event.Legal shape config ledger rest)
    : (event.concerns slot = true → event = .ofLife slot count)
      ∧ (ledger.enter event).Stands slot
          (if event.concerns slot = true then count + 1 else count) := by
  cases event with
  | created => exact legal.elim
  | consumerRegistered | consumersExhausted | producersExhausted | staleMarked =>
      exact ⟨nofun, stands.within_iff, stands.registered_iff, stands.count_freed⟩
  | producerRegistered producer =>
      obtain ⟨hcount, hnext⟩ := stands.registered producer legal
      simp only [Event.concerns, beq_iff_eq]
      refine ⟨fun here => ?_, hnext⟩
      rw [hcount here, here, Event.ofLife]
  | producerReclaimed producer =>
      obtain ⟨hcount, hnext⟩ := stands.reclaimed producer legal
      simp only [Event.concerns, beq_iff_eq]
      refine ⟨fun here => ?_, hnext⟩
      obtain ⟨past, rfl⟩ := Nat.exists_eq_succ_of_ne_zero (Nat.ne_of_gt (hcount here).1)
      rw [Event.ofLife, if_neg (by omega), here]
  | producerUnregistered producer =>
      obtain ⟨hcount, hnext⟩ := stands.unregistered producer legal
      simp only [Event.concerns, beq_iff_eq]
      refine ⟨fun here => ?_, hnext⟩
      obtain ⟨past, rfl⟩ : ∃ past, count = past + 1 := ⟨count - 1, by omega⟩
      rw [Event.ofLife, if_pos (by omega), here]

/-- In a lawful log the events about a slot are those of its life, as far as it has come. The
induction is over the log.
-/
theorem Lawful.life (lawful : Lawful shape config ledger log) (stands : ledger.Stands slot count)
    : ∃ number,
        log.filter (Event.concerns slot)
          = (List.range' count number).map (Event.ofLife slot) := by
  induction log generalizing ledger count with
  | nil => exact ⟨0, rfl⟩
  | cons event rest ih =>
      obtain ⟨hevent, hnext⟩ := stands.enter lawful.1
      obtain ⟨number, hrest⟩ := ih lawful.2 hnext
      cases concerned : event.concerns slot with
      | true =>
          rw [concerned, if_pos rfl] at hrest
          refine ⟨number + 1, ?_⟩
          rw [List.filter_cons_of_pos concerned, hrest, List.range'_succ, List.map_cons,
            ← hevent concerned]
      | false =>
          rw [concerned, if_neg Bool.false_ne_true] at hrest
          refine ⟨number, ?_⟩
          rw [List.filter_cons_of_neg (by simp [concerned]), hrest]

end Lawful

end Ledger

-----------------------------------------------------------------------------------------
-- The log of one change
-----------------------------------------------------------------------------------------

namespace Fabric

/-- The producer slots that are registered. -/
def registered (fabric : Fabric α) : Finset Nat :=
  (Finset.range fabric.producerCount).filter fun producer =>
    (fabric.ticket? producer).any Ticket.isActive

/-- The ledger that a fabric should have. -/
def ledger (fabric : Fabric α) : Ledger where
  producers := fabric.producerCount
  consumers := fabric.consumerCount
  registered := fabric.registered
  freed := fabric.freed

/-- What is logged of a change of a fabric is lawful and leads from its ledger to the one that it
has then.
-/
structure Recorded (fabric : Fabric α) (log : List Event) (next : Fabric α) : Prop where
  lawful : Ledger.Lawful fabric.shape fabric.config fabric.ledger log
  replay_eq : fabric.ledger.replay log = next.ledger

section Recorded

variable {fabric next : Fabric α} {slot : Nat}

/-- A slot is registered if it has an active ticket. -/
theorem mem_registered_iff
    : slot ∈ fabric.registered
        ↔ ∃ ticket, fabric.ticket? slot = some ticket ∧ ticket.isActive = true := by
  rw [registered, Finset.mem_filter, Finset.mem_range, Option.any_eq_true, and_iff_right_iff_imp]
  rintro ⟨ticket, found, _⟩
  obtain ⟨_, hslot, _⟩ := Option.map_eq_some_iff.mp found
  exact (Array.getElem?_eq_some_iff.mp hslot).1

theorem registered_congr (same : ∀ producer, next.ticket? producer = fabric.ticket? producer)
    : next.registered = fabric.registered := by
  ext slot
  rw [mem_registered_iff, mem_registered_iff, same]

/-- A slot that gets another ticket is registered if that one is active. -/
theorem mem_registered_put {ticket : Ticket}
    (tickets
      : ∀ producer,
          next.ticket? producer
            = if producer = slot then some ticket else fabric.ticket? producer)
    (producer : Nat)
    : producer ∈ next.registered
        ↔ if producer = slot then ticket.isActive = true else producer ∈ fabric.registered := by
  rw [mem_registered_iff, tickets]
  split
  · simp
  · exact mem_registered_iff.symm

/-- A slot that gets an active ticket becomes registered. -/
theorem registered_insert {ticket : Ticket} (active : ticket.isActive = true)
    (tickets
      : ∀ producer,
          next.ticket? producer
            = if producer = slot then some ticket else fabric.ticket? producer)
    : next.registered = insert slot fabric.registered := by
  ext producer
  rw [mem_registered_put tickets, Finset.mem_insert]
  by_cases here : producer = slot <;> simp [here, active]

/-- A slot that gets a ticket that is not active is not registered any more. -/
theorem registered_erase {ticket : Ticket} (inactive : ticket.isActive = false)
    (tickets
      : ∀ producer,
          next.ticket? producer
            = if producer = slot then some ticket else fabric.ticket? producer)
    : next.registered = fabric.registered.erase slot := by
  ext producer
  rw [mem_registered_put tickets, Finset.mem_erase]
  by_cases here : producer = slot <;> simp [here, inactive]

/-- A change that means nothing for the slots need not be logged. -/
theorem Recorded.quiet (roll : fabric.SameRoll next)
    (producers : next.producerCount = fabric.producerCount)
    (consumers : next.consumerCount = fabric.consumerCount)
    : fabric.Recorded [] next := by
  refine ⟨trivial, ?_⟩
  rw [ledger, ledger, producers, consumers, registered_congr roll.2, roll.1]
  rfl

theorem OnlyLinks.recorded (only : OnlyLinks fabric next) : fabric.Recorded [] next :=
  .quiet only.sameRoll only.sameWiring.producers
    (congrArg Array.size only.sameWiring.consumers)

/-- A registration of a consumer logs the consumer, or that there was no room for one. -/
theorem ConsumerEnrolled.recorded {enrolled : Enrolment (Registration Receiver) α}
    (enrols : fabric.ConsumerEnrolled enrolled) (wired : fabric.Wired)
    : fabric.Recorded enrolled.log enrolled.fabric := by
  have hroll := enrols.sameRoll
  cases enrols with
  | refused full => exact ⟨⟨⟨rfl, Nat.le_antisymm wired.consumers_le full⟩, trivial⟩, rfl⟩
  | failed => exact .quiet hroll rfl rfl
  | issued =>
      refine ⟨⟨rfl, trivial⟩, ?_⟩
      simp only [ledger, producerCount_addConsumer, consumerCount_addConsumer,
        registered_congr hroll.2]
      rfl

/-- If no slot is free, all of them are registered. -/
theorem registered_of_none_freed (none : fabric.freed = [])
    (mem_freed_iff
      : ∀ slot,
          slot ∈ fabric.freed
            ↔ ∃ ticket, fabric.ticket? slot = some ticket ∧ ticket.isActive = false)
    : fabric.registered = Finset.range fabric.producerCount := by
  refine Finset.filter_true_of_mem fun slot within => ?_
  obtain ⟨ticket, found⟩ := ticket?_of_lt (Finset.mem_range.mp within)
  have hactive : ticket.isActive = true := by
    by_contra inactive
    have hfreed := (mem_freed_iff slot).mpr ⟨ticket, found, Bool.eq_false_iff.mpr inactive⟩
    rw [none] at hfreed
    exact List.not_mem_nil hfreed
  rw [found, Option.any_some, hactive]

/-- A registration in a fresh slot logs the slot, or that there was none. -/
theorem FreshEnrolled.recorded {enrolled : Enrolment (Registration Sender) α}
    (enrols : fabric.FreshEnrolled enrolled) (wired : fabric.Wired)
    (taken : fabric.registered = Finset.range fabric.producerCount)
    : fabric.Recorded enrolled.log enrolled.fabric := by
  cases enrols with
  | refused full =>
      have hcard : fabric.registered.card = fabric.shape.maxProducers := by
        rw [taken, Finset.card_range]
        exact Nat.le_antisymm wired.producers_le full
      exact ⟨⟨⟨rfl, hcard⟩, trivial⟩, rfl⟩
  | failed => exact .quiet ⟨rfl, fun _ => rfl⟩ rfl rfl
  | issued =>
      refine ⟨⟨rfl, trivial⟩, ?_⟩
      have htickets :=
        ticket?_addProducer fabric (fabric.linkCount + .ofNat fabric.consumerCount)
      have hregistered := registered_insert Ticket.isActive_first htickets
      simp only [ledger, producerCount_addProducer, consumerCount_addProducer, hregistered]
      rfl

/-- A reissue logs what became stale, if anything did and reissues drain, and then the slot. -/
theorem recorded_reissueLog {producer stale : Nat} {rest : List Nat}
    (freed : fabric.freed = producer :: rest)
    (drains : 0 < stale → fabric.config.drainOnReclaim = true)
    (after
      : next.ledger
        = { fabric.ledger with registered := insert producer fabric.registered, freed := rest })
    : fabric.Recorded (reissueLog producer stale) next := by
  have hreclaimed : fabric.ledger.freed.head? = some producer := congrArg List.head? freed
  have hreplay
      : fabric.ledger.enter (.producerReclaimed producer) = next.ledger := by
    rw [after, Ledger.enter]
    simp only [ledger, freed, List.tail_cons]
  rw [reissueLog]
  split
  · next some => exact ⟨⟨⟨drains some, some, rfl⟩, hreclaimed, trivial⟩, hreplay⟩
  · exact ⟨⟨hreclaimed, trivial⟩, hreplay⟩

/-- A registration of a producer logs the reissue of the slot freed last, or the fresh slot. -/
theorem recorded_registerProducer (wired : fabric.Wired)
    (mem_freed_iff
      : ∀ slot,
          slot ∈ fabric.freed
            ↔ ∃ ticket, fabric.ticket? slot = some ticket ∧ ticket.isActive = false)
    : fabric.Recorded fabric.registerProducer.log fabric.registerProducer.fabric := by
  cases freed : fabric.freed with
  | nil =>
      have htaken := registered_of_none_freed freed mem_freed_iff
      rw [registerProducer_of_none_freed freed]
      exact fabric.freshEnrolled.recorded wired htaken
  | cons producer rest =>
      obtain ⟨ticket, hticket, _⟩ :=
        (mem_freed_iff producer).mp (freed ▸ List.mem_cons_self)
      obtain ⟨slot, found, _⟩ := Option.map_eq_some_iff.mp hticket
      obtain ⟨links, _, hreclaim⟩ := reclaim_eq { fabric with freed := rest } producer slot
      have htickets :=
        ticket?_setSlot { fabric with links := links, freed := rest } found
          { slot with ticket := slot.ticket.next }
      have hregistered := registered_insert (Ticket.isActive_next slot.ticket) htickets
      rw [registerProducer_of_freed freed found, hreclaim, reclaim_log]
      refine recorded_reissueLog freed (fun some => ?_) ?_
      · by_contra kept
        rw [if_neg kept] at some
        exact Nat.lt_irrefl 0 some
      · simp only [ledger, hregistered]
        refine congrArg (Ledger.mk · _ _ _) ?_
        exact Array.size_setIfInBounds

/-- The end of a registration logs the slot, which was registered. -/
theorem Ended.recorded {sender : Sender} {enrolled : Enrolment (Except UsageFault Unit) α}
    (ended : fabric.Ended sender enrolled) (active : sender.ticket.isActive = true)
    : fabric.Recorded enrolled.log enrolled.fabric := by
  cases ended with
  | misused => exact ⟨trivial, rfl⟩
  | @ended slot own found current =>
      have hticket : fabric.ticket? sender.slot = some sender.ticket := by
        rw [ticket?, found, Option.map_some, current]
      refine ⟨⟨mem_registered_iff.mpr ⟨_, hticket, active⟩, trivial⟩, ?_⟩
      have htickets :=
        ticket?_setSlot { fabric with freed := sender.slot :: fabric.freed } found
          { slot with ticket := sender.ticket.ended, cursor := sender.cursor }
      have hregistered := registered_erase (Ticket.isActive_ended sender.ticket) htickets
      simp only [ledger, hregistered]
      exact congrArg (Ledger.mk · _ _ _) Array.size_setIfInBounds.symm

end Recorded

end Fabric

namespace Session

-----------------------------------------------------------------------------------------
-- The log of a run
-----------------------------------------------------------------------------------------

/-- The fabric whose slots an operation asks for. -/
def Operation.home? (session : Session α) : Operation α → Option Nat
  | .registerProducer number | .registerConsumer number | .unregisterVia number _ => some number
  | .unregister place => (session.sender? place).map Sender.fabric
  | _ => none

/-- What an operation logs on the fabric of a number. -/
def Operation.events (number : Nat) (session : Session α) (outcome : Outcome α)
    (operation : Operation α) : List Event :=
  if operation.home? session = some number then outcome.log else []

/-- The log of the fabric of a number over a run of operations. -/
def eventLog (now number : Nat) : List (Operation α) → Session α → List Event
  | [], _ => []
  | operation :: rest, session =>
      let outcome := session.step now operation.command
      operation.events number session outcome ++ eventLog now number rest outcome.session

/-- The log of a run that goes on is the log so far and that of the last operation. -/
theorem eventLog_concat (now number : Nat) (operations : List (Operation α)) (last : Operation α)
    (session : Session α)
    : eventLog now number (operations ++ [last]) session
        = eventLog now number operations session
          ++ last.events number (session.after now operations)
              ((session.after now operations).step now last.command) := by
  induction operations generalizing session with
  | nil => exact List.append_nil _
  | cons operation rest ih =>
      rw [List.cons_append, eventLog, eventLog, ih, List.append_assoc]
      rfl

section Step

variable {shape : Shape} {configs : List Config} {session : Session α} {number : Nat}
  {fabric : Fabric α} {operation : Operation α}

/-- A sender that is held was issued with an active ticket. -/
theorem Tidy.active_of_held (tidy : session.Tidy) (housed : session.Housed shape configs)
    {place : Nat} {sender : Sender} (held : session.sender? place = some sender)
    : sender.ticket.isActive = true := by
  obtain ⟨fabric, found, _⟩ :=
    housed.sender (Option.map_eq_some_iff.mpr ⟨_, senders_of_held held, rfl⟩)
  have hclaim := claim?_of_held sender.fabric held
  rw [if_pos rfl] at hclaim
  exact (tidy sender.fabric fabric found).claim_active hclaim

/-- What is logged on the fabric that an operation works on records what becomes of it, and on no
other fabric is anything logged.
-/
theorem recorded_put {outcome : Outcome α} (found : session.fabric? number = some fabric)
    {number' : Nat} {fabric' next : Fabric α} (home : operation.home? session = some number')
    (found' : session.fabric? number' = some fabric')
    (put : outcome.session.fabric? number = (session.setFabric number' next).fabric? number)
    (recorded : fabric'.Recorded outcome.log next)
    : ∃ after,
        outcome.session.fabric? number = some after
        ∧ fabric.Recorded (operation.events number session outcome) after := by
  rcases fabric?_put found found' next with ⟨rfl, rfl, hput⟩ | ⟨elsewhere, hput⟩
  · refine ⟨next, put.trans hput, ?_⟩
    rw [Operation.events, if_pos home]
    exact recorded
  · refine ⟨fabric, put.trans hput, ?_⟩
    rw [Operation.events, if_neg fun here => elsewhere (Option.some.inj (home.symm.trans here))]
    exact (Fabric.OnlyLinks.refl fabric).recorded

/-- Where an operation works on links alone nothing is logged. -/
theorem recorded_quiet {outcome : Outcome α} (silent : outcome.log = []) {next : Fabric α}
    (after : outcome.session.fabric? number = some next) (only : Fabric.OnlyLinks fabric next)
    : ∃ after,
        outcome.session.fabric? number = some after
        ∧ fabric.Recorded (operation.events number session outcome) after := by
  refine ⟨next, after, ?_⟩
  rw [Operation.events, silent, ite_self]
  exact only.recorded

/-- What an operation logs on a fabric records what becomes of it there. -/
theorem Transition.recorded {outcome : Outcome α}
    (transition : session.Transition operation outcome) (housed : session.Housed shape configs)
    (tidy : session.Tidy) (found : session.fabric? number = some fabric)
    : ∃ next,
        outcome.session.fabric? number = some next
        ∧ fabric.Recorded (operation.events number session outcome) next := by
  have honly := transition.onlyLinks found
  cases transition with
  | missed | letGoSender | letGoReceiver =>
      exact recorded_quiet rfl found (.refl fabric)
  | @producer number' fabric' found' =>
      obtain ⟨_, _, hinstalled⟩ := housed.fabric found'
      exact recorded_put found rfl found' (fabric?_issueSender _ _ _)
        (fabric'.recorded_registerProducer hinstalled.wired (tidy _ _ found').mem_freed_iff)
  | @consumer number' fabric' found' =>
      obtain ⟨_, _, hinstalled⟩ := housed.fabric found'
      exact recorded_put found rfl found' (fabric?_issueReceiver _ _ _)
        (fabric'.consumerEnrolled.recorded hinstalled.wired)
  | @unregistered _ number' place sender fabric' asks held found' =>
      have hhome : operation.home? session = some number' := by
        rcases asks with ⟨rfl, rfl⟩ | rfl
        · rw [Operation.home?, held, Option.map_some]
        · rfl
      exact recorded_put found hhome found' rfl
        ((fabric'.ended sender).recorded (tidy.active_of_held housed held))
  | @pushed place consumer value =>
      obtain ⟨next, hnext, hlinks⟩ :=
        honly (by cases consumer <;> exact nofun) (by cases consumer <;> exact nofun)
          (by cases consumer <;> rfl)
      exact recorded_quiet rfl hnext hlinks
  | popped =>
      obtain ⟨next, hnext, hlinks⟩ := honly nofun nofun rfl
      exact recorded_quiet rfl hnext hlinks

/-- The log of a run is a record of what became of a fabric that had no slots at first. The
induction is on the last operation.
-/
theorem recorded_after (tidy : session.Tidy) (housed : session.Housed shape configs)
    (found : session.fabric? number = some fabric) (fresh : fabric.ledger = .empty) (now : Nat)
    (operations : List (Operation α))
    : ∃ next,
        (session.after now operations).fabric? number = some next
        ∧ Ledger.Lawful fabric.shape fabric.config .empty
            (eventLog now number operations session)
        ∧ Ledger.empty.replay (eventLog now number operations session) = next.ledger := by
  induction operations using List.reverseRecOn with
  | nil => exact ⟨fabric, found, trivial, fresh.symm⟩
  | append_singleton operations last ih =>
      obtain ⟨before, hbefore, hlawful, hreplay⟩ := ih
      have hhoused := housed.after now operations
      obtain ⟨later, hlater, hextends⟩ := housed.extends_after now operations found
      obtain rfl := Option.some.inj (hbefore.symm.trans hlater)
      obtain ⟨next, hnext, hrecorded⟩ :=
        (step_transition now (session.after now operations) last).recorded hhoused
          (tidy.after housed now operations) hbefore
      have hfurther := hrecorded.lawful
      rw [hextends.shape, hextends.config, ← hreplay] at hfurther
      refine ⟨next, ?_, ?_, ?_⟩
      · rw [after_concat]
        exact hnext
      · rw [eventLog_concat]
        exact hlawful.append hfurther
      · rw [eventLog_concat, Ledger.replay_append, hreplay]
        exact hrecorded.replay_eq

end Step

-----------------------------------------------------------------------------------------
-- What leaves no trace in the log
-----------------------------------------------------------------------------------------

namespace Command

/-- Whether a command pushes or pops, in any form. -/
def moves : Command α → Bool
  | .push .. | .pushTo .. | .pushEach .. | .pop .. | .popMany .. | .popAll .. | .popWait ..
  | .popWaitBesidePush .. => true
  | _ => false

/-- Whether a command asks for the end of a registration. -/
def unregisters : Command α → Bool
  | .unregister .. | .unregisterVia .. => true
  | _ => false

end Command

section Silent

variable (session : Session α)

theorem log_withWriting {β : Type} (place : Nat) (work : Writing α → β × Writing α)
    (reply : β → Reply α)
    : (session.withWriting place work reply).log = [] := by
  rw [withWriting]
  split
  · rfl
  · split <;> rfl

theorem log_withReading {β : Type} (place : Nat) (work : Reading α → β × Reading α)
    (reply : β → Reply α)
    : (session.withReading place work reply).log = [] := by
  rw [withReading]
  split
  · rfl
  · split <;> rfl

/-- Pushes and pops are not logged. -/
theorem log_of_moves (now : Nat) {command : Command α} (moves : command.moves = true)
    : (session.step now command).log = [] := by
  cases command with
  | push | pushTo | pushEach => exact session.log_withWriting _ _ _
  | pop | popMany | popAll | popWait => exact session.log_withReading _ _ _
  | popWaitBesidePush receiver sender value delay timeout =>
      simp only [step, popWaitBesidePush]
      split
      · split <;> rfl
      · rfl
  | _ => cases moves

theorem log_unregisterVia (number : Nat) (sender : Sender)
    (failed : (session.unregisterVia number sender).reply ≠ .done)
    : (session.unregisterVia number sender).log = [] := by
  cases found : session.fabric? number with
  | none =>
      rw [unregisterVia_of_gap found]
      rfl
  | some fabric =>
      rw [unregisterVia_of_found found] at failed ⊢
      have hended := fabric.ended sender
      generalize fabric.unregister sender = enrolled at failed hended
      cases hended with
      | misused => rfl
      | ended => exact absurd rfl failed

/-- An attempt to end a registration is not logged if it fails. -/
theorem log_of_failed (now : Nat) {command : Command α} (unregisters : command.unregisters = true)
    (failed : (session.step now command).reply ≠ .done)
    : (session.step now command).log = [] := by
  cases command with
  | unregister place =>
      simp only [step] at failed ⊢
      split at failed
      · rfl
      · exact session.log_unregisterVia _ _ failed
  | unregisterVia number place =>
      simp only [step] at failed ⊢
      split at failed
      · rfl
      · rfl
      · exact session.log_unregisterVia _ _ failed
  | _ => cases unregisters

end Silent

-----------------------------------------------------------------------------------------
-- The log is a faithful account
-----------------------------------------------------------------------------------------

/-- The log of a fabric is a faithful account of its slots, at every moment of every run. Replaying
it from an empty ledger gives the counts of the fabric, its registered producer slots and its free
ones in order. Every event is legal where it stands: a slot is registered under the next number,
reclaimed if it was freed last and unregistered if it is registered, registrations are refused only
if there is no room, and values become stale only if reissues drain, right before the slot that they
are from is reclaimed. The events about one slot are that it is registered, and then unregistered
and reclaimed in turn. Pushes, pops and attempts to end a registration that fail log nothing.
-/
theorem log_faithful (shape : Shape) (configs : List Config) (now : Nat)
    (operations : List (Operation α)) {number : Nat} {config : Config}
    (configured : configs[number]? = some config) (positive : 0 < config.channelCapacity)
    : let first : Session α := start shape configs
      let reached := first.after now operations
      let log := eventLog now number operations first
      ∃ fabric,
        reached.fabric? number = some fabric
        ∧ Ledger.empty.replay log = fabric.ledger
        ∧ (∀ before event rest,
            log = before ++ event :: rest
            → event.Legal shape config (Ledger.empty.replay before) rest)
        ∧ (∀ slot,
            ∃ count,
              log.filter (Event.concerns slot) = (List.range count).map (Event.ofLife slot))
        ∧ (∀ command : Command α,
            command.moves = true → (reached.step now command).log = [])
        ∧ ∀ command : Command α,
            command.unregisters = true
            → (reached.step now command).reply ≠ .done
            → (reached.step now command).log = [] := by
  intro first reached log
  have hfirst : first.fabric? number = some (.bare number shape config) :=
    fabric?_start_of_positive shape configured positive
  obtain ⟨fabric, found, hlawful, hreplay⟩ :=
    recorded_after (tidy_start shape configs) (housed_start shape configs) hfirst rfl now operations
  refine ⟨fabric, found, hreplay, ?_, ?_, fun _ => reached.log_of_moves now,
    fun _ => reached.log_of_failed now⟩
  · intro before event rest split
    have hsplit : Ledger.Lawful shape config .empty log := hlawful
    rw [split] at hsplit
    exact hsplit.legal
  · intro slot
    obtain ⟨count, hlife⟩ := hlawful.life (Ledger.stands_empty slot)
    exact ⟨count, hlife.trans (by rw [List.range_eq_range'])⟩

/-- A producer comes and goes twice, with a value left behind, and others come for slots that there
are not.
-/
def comings : List (Operation Nat) :=
  [.registerConsumer 0, .registerProducer 0, .registerConsumer 0, .push 0 5, .unregister 0,
    .unregister 0, .registerProducer 0, .registerProducer 0, .registerProducer 0, .pop 0,
    .unregister 1]

/-- The log has the refusals and the value that became stale in place, and says nothing of the push,
the pop and the second attempt to unregister. In the end slot 1 is registered and slot 0 free.
-/
theorem log_faithful_comings
    : let first := start ⟨2, 1⟩ [⟨4, true⟩]
      let reached := first.after 0 comings
      eventLog 0 0 comings first
        = [.consumerRegistered 0, .producerRegistered 0, .consumersExhausted 1,
          .producerUnregistered 0, .staleMarked 0 1, .producerReclaimed 0, .producerRegistered 1,
          .producersExhausted 2, .producerUnregistered 0]
      ∧ (reached.fabric? 0).map Fabric.ledger = some ⟨2, 1, {1}, [0]⟩
      ∧ (∃ count,
          (eventLog 0 0 comings first).filter (Event.concerns 0)
            = (List.range count).map (Event.ofLife 0))
      ∧ (reached.step 0 (.unregister 1)).log = []
      ∧ (reached.step 0 (.push 2 6)).log = [] := by
  intro first reached
  have hconfig : ([⟨4, true⟩] : List Config)[0]? = some ⟨4, true⟩ := rfl
  obtain ⟨fabric, found, hreplay, _, hlife, hmoves, hfailed⟩ :=
    log_faithful ⟨2, 1⟩ [⟨4, true⟩] 0 comings hconfig (by decide)
  have hlog : eventLog 0 0 comings first
      = [.consumerRegistered 0, .producerRegistered 0, .consumersExhausted 1,
        .producerUnregistered 0, .staleMarked 0 1, .producerReclaimed 0, .producerRegistered 1,
        .producersExhausted 2, .producerUnregistered 0] := by decide +kernel
  have hagain : (reached.step 0 (.unregister 1)).reply.isMisuse = true := by decide +kernel
  have hvain : (reached.step 0 (.unregister 1)).log = [] := by
    refine hfailed _ rfl fun done => ?_
    rw [done] at hagain
    cases hagain
  refine ⟨hlog, ?_, hlife 0, hvain, hmoves (.push 2 6) rfl⟩
  rw [found, Option.map_some, ← hreplay, hlog]
  decide

end Session

end Crossbar
