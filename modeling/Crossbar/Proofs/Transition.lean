import Crossbar.Proofs.Frame
import Crossbar.Proofs.OperationHistory

/-! What a single operation does to a session, in full: the handle it goes through, the fabric it
works on, and the handles and fabrics afterwards. Handles keep what identifies them for good, and
only a registration adds one.
-/

namespace Crossbar

/-- What identifies a sender for good: where it was issued, for which slot and with which ticket. -/
structure Badge where
  fabric : Nat
  slot : Nat
  ticket : Ticket
deriving Repr, DecidableEq

def Sender.badge (sender : Sender) : Badge :=
  ⟨sender.fabric, sender.slot, sender.ticket⟩

/-- What identifies a receiver for good: where it was issued and for which consumer slot. -/
structure Seat where
  fabric : Nat
  slot : Nat
deriving Repr, DecidableEq

def Receiver.seat (receiver : Receiver) : Seat :=
  ⟨receiver.fabric, receiver.slot⟩

/-- What an outcome shows of itself: the answer, what was discarded and what was logged. -/
structure Report (α : Type) where
  reply : Session.Reply α
  discarded : List (Sourced α)
  log : List Event

def Session.Outcome.report {α : Type} (outcome : Session.Outcome α) : Report α :=
  ⟨outcome.reply, outcome.discarded, outcome.log⟩

/-- What one operation does to the fabric it works on. -/
inductive Fabric.Move {α : Type} (fabric : Fabric α) : Fabric α → Prop
  | worked {after : Fabric α} (only : OnlyLinks fabric after) : Move fabric after
  | consumer {enrolled : Enrolment (Registration Receiver) α}
    (enrols : fabric.ConsumerEnrolled enrolled)
    : Move fabric enrolled.fabric
  | producer {enrolled : Enrolment (Registration Sender) α}
    (enrols : fabric.ProducerEnrolled enrolled)
    : Move fabric enrolled.fabric
  | unregistered {sender : Sender} {enrolled : Enrolment (Except UsageFault Unit) α}
    (ends : fabric.Ended sender enrolled)
    : Move fabric enrolled.fabric

namespace Session

variable {α : Type}

/-- What identifies the sender of a number, held or not. -/
def badge? (session : Session α) (place : Nat) : Option Badge :=
  session.senders[place]?.map fun issued => issued.handle.badge

/-- What identifies the receiver of a number, held or not. -/
def seat? (session : Session α) (place : Nat) : Option Seat :=
  session.receivers[place]?.map fun issued => issued.handle.seat

/-- Hands out the sender that a registration issued, if it did. -/
def issueSender (session : Session α) : Registration Sender → Session α
  | .issued sender => { session with senders := session.senders.push ⟨sender, true⟩ }
  | _ => session

/-- Hands out the receiver that a registration issued, if it did. -/
def issueReceiver (session : Session α) : Registration Receiver → Session α
  | .issued receiver => { session with receivers := session.receivers.push ⟨receiver, true⟩ }
  | _ => session

@[simp] theorem fabric?_issueSender (session : Session α) (answer : Registration Sender)
    (number : Nat)
    : (session.issueSender answer).fabric? number = session.fabric? number := by
  cases answer <;> rfl

@[simp] theorem fabric?_issueReceiver (session : Session α) (answer : Registration Receiver)
    (number : Nat)
    : (session.issueReceiver answer).fabric? number = session.fabric? number := by
  cases answer <;> rfl

@[simp] theorem badge?_issueReceiver (session : Session α) (answer : Registration Receiver)
    (place : Nat)
    : (session.issueReceiver answer).badge? place = session.badge? place := by
  cases answer <;> rfl

@[simp] theorem receivers_issueSender (session : Session α) (answer : Registration Sender)
    : (session.issueSender answer).receivers = session.receivers := by
  cases answer <;> rfl

@[simp] theorem seat?_issueSender (session : Session α) (answer : Registration Sender)
    (place : Nat)
    : (session.issueSender answer).seat? place = session.seat? place := by
  cases answer <;> rfl

namespace Reply

/-- What the registration of a producer answers, for a sender that gets the number `place`. -/
def ofSender (place : Nat) (fabric : Fabric α) : Registration Sender → Reply α
  | .issued sender => .senderIssued place sender.slot (fabric.producerRow sender.slot).wired
  | .refused => .refused
  | .failed failure => .failed failure

/-- What the registration of a consumer answers, for a receiver that gets the number `place`. -/
def ofReceiver (place : Nat) (fabric : Fabric α) : Registration Receiver → Reply α
  | .issued receiver =>
      .receiverIssued place receiver.slot (fabric.consumerRow receiver.slot).wired
  | .refused => .refused
  | .failed failure => .failed failure

/-- What the end of a registration answers. -/
def ofUsage : Except UsageFault Unit → Reply α
  | .ok () => .done
  | .error fault => .misused fault

end Reply

/-- A push through a sender: by fan-out, or to one consumer if one is named. -/
def Operation.pushing (place : Nat) : Option Nat → α → Operation α
  | none, value => .push place value
  | some consumer, value => .pushTo place consumer value

/-- What an operation does to a session. -/
inductive Transition (session : Session α) : Operation α → Outcome α → Prop
  /-- The operation names a handle or a fabric that is not there. -/
  | missed {operation : Operation α} {reply : Reply α} (silent : reply.isSilent = true)
    : Transition session operation (.quiet reply session)
  | letGoSender {place : Nat} {sender : Sender} (held : session.sender? place = some sender)
    : Transition session (.dropSender place) (.quiet .done (session.dropSender place sender))
  | letGoReceiver {place : Nat} {receiver : Receiver}
    (held : session.receiver? place = some receiver)
    : Transition session (.dropReceiver place)
        (.quiet .done (session.dropReceiver place receiver))
  | producer {number : Nat} {fabric : Fabric α} (found : session.fabric? number = some fabric)
    : Transition session (.registerProducer number)
        (.logged
          (.ofSender session.senders.size fabric.registerProducer.fabric
            fabric.registerProducer.answer)
          fabric.registerProducer.log
          ((session.setFabric number fabric.registerProducer.fabric).issueSender
            fabric.registerProducer.answer))
  | consumer {number : Nat} {fabric : Fabric α} (found : session.fabric? number = some fabric)
    : Transition session (.registerConsumer number)
        (.logged
          (.ofReceiver session.receivers.size fabric.registerConsumer.fabric
            fabric.registerConsumer.answer)
          fabric.registerConsumer.log
          ((session.setFabric number fabric.registerConsumer.fabric).issueReceiver
            fabric.registerConsumer.answer))
  | unregistered {operation : Operation α} {number place : Nat} {sender : Sender}
    {fabric : Fabric α}
    (asks
      : operation = .unregister place ∧ number = sender.fabric
        ∨ operation = .unregisterVia number place)
    (held : session.sender? place = some sender) (found : session.fabric? number = some fabric)
    : Transition session operation
        (.logged (.ofUsage (fabric.unregister sender).answer) (fabric.unregister sender).log
          (session.setFabric number (fabric.unregister sender).fabric))
  | pushed {place : Nat} {consumer : Option Nat} {value : α} {sender : Sender}
    {fabric : Fabric α} (held : session.sender? place = some sender)
    (found : session.fabric? sender.fabric = some fabric)
    : Transition session (.pushing place consumer value)
        (.quiet (.pushed (Writing.push ⟨fabric, sender⟩ consumer value).1)
          (session.keepWriting place (Writing.push ⟨fabric, sender⟩ consumer value).2))
  | popped {place : Nat} {receiver : Receiver} {fabric : Fabric α}
    (held : session.receiver? place = some receiver)
    (found : session.fabric? receiver.fabric = some fabric)
    : Transition session (.pop place)
        { reply := .popped (Reading.pop ⟨fabric, receiver, #[]⟩).1
          discarded := (Reading.pop ⟨fabric, receiver, #[]⟩).2.discarded.toList
          log := []
          session := session.keepReading place (Reading.pop ⟨fabric, receiver, #[]⟩).2 }

-----------------------------------------------------------------------------------------
-- Every operation makes one of these transitions
-----------------------------------------------------------------------------------------

/-- A push leaves a sender with what identifies it. -/
theorem push_badge (writing : Writing α) (consumer : Option Nat) (value : α)
    : (writing.push consumer value).2.sender.badge = writing.sender.badge := by
  cases consumer with
  | some consumer => rfl
  | none =>
      simp only [Writing.push, Fabric.push]
      split
      · split <;> rfl
      · rfl

/-- A push of either kind changes links alone. -/
theorem onlyLinks_writing (writing : Writing α) (consumer : Option Nat) (value : α)
    : Fabric.OnlyLinks writing.fabric (writing.push consumer value).2.fabric := by
  cases consumer with
  | none => exact writing.fabric.onlyLinks_push writing.sender value
  | some consumer => exact writing.fabric.onlyLinks_pushTo writing.sender consumer value

/-- A pop leaves a receiver with what identifies it. -/
theorem pop_seat (reading : Reading α) : reading.pop.2.receiver.seat = reading.receiver.seat := by
  obtain ⟨hfabric, hslot⟩ := reading.fabric.pop_receiver reading.receiver
  simp only [Reading.pop, Receiver.seat, hfabric, hslot]

theorem fabric?_keepWriting (session : Session α) (place : Nat) {writing : Writing α}
    {number : Nat} (kept : writing.sender.fabric = number) (other : Nat)
    : (session.keepWriting place writing).fabric? other
        = (session.setFabric number writing.fabric).fabric? other := by
  subst kept
  rfl

theorem fabric?_keepReading (session : Session α) (place : Nat) {reading : Reading α}
    {number : Nat} (kept : reading.receiver.fabric = number) (other : Nat)
    : (session.keepReading place reading).fabric? other
        = (session.setFabric number reading.fabric).fabric? other := by
  subst kept
  rfl

theorem transition_pushed (session : Session α) (place : Nat) (consumer : Option Nat) (value : α)
    : session.Transition (.pushing place consumer value)
        (session.withWriting place (fun writing => writing.push consumer value) .pushed) := by
  rcases withWriting_cases session place (fun writing => writing.push consumer value) .pushed
    with hmiss | ⟨sender, fabric, held, found⟩
  · rw [hmiss]
    exact .missed rfl
  · have hkept := congrArg Badge.fabric (push_badge ⟨fabric, sender⟩ consumer value)
    rw [withWriting_of_held held found hkept]
    exact .pushed held found

theorem transition_unregisterVia {session : Session α} {operation : Operation α}
    {number place : Nat} {sender : Sender}
    (asks
      : operation = .unregister place ∧ number = sender.fabric
        ∨ operation = .unregisterVia number place)
    (held : session.sender? place = some sender)
    : session.Transition operation (session.unregisterVia number sender) := by
  rw [unregisterVia]
  cases found : session.fabric? number with
  | none =>
      rw [lend_of_none found]
      exact .missed rfl
  | some fabric =>
      obtain ⟨lent, hlend, hput⟩ := lend_of_some found
      have hmove := Transition.unregistered asks held found
      rw [hlend]
      simp only [hput]
      cases hanswer : (fabric.unregister sender).answer <;> rw [hanswer] at hmove <;> exact hmove

theorem step_transition (now : Nat) (session : Session α) (operation : Operation α)
    : session.Transition operation (session.step now operation.command) := by
  cases operation with
  | registerProducer number =>
      simp only [Operation.command, step, registerProducer]
      cases found : session.fabric? number with
      | none =>
          rw [lend_of_none found]
          exact .missed rfl
      | some fabric =>
          obtain ⟨lent, hlend, hput⟩ := lend_of_some found
          have hmove := Transition.producer found
          rw [hlend]
          simp only [hput]
          cases hanswer : fabric.registerProducer.answer <;>
            rw [hanswer] at hmove <;> exact hmove
  | registerConsumer number =>
      simp only [Operation.command, step, registerConsumer]
      cases found : session.fabric? number with
      | none =>
          rw [lend_of_none found]
          exact .missed rfl
      | some fabric =>
          obtain ⟨lent, hlend, hput⟩ := lend_of_some found
          have hmove := Transition.consumer found
          rw [hlend]
          simp only [hput]
          cases hanswer : fabric.registerConsumer.answer <;>
            rw [hanswer] at hmove <;> exact hmove
  | unregister place =>
      simp only [Operation.command, step]
      cases held : session.sender? place with
      | none => exact .missed rfl
      | some sender => exact transition_unregisterVia (.inl ⟨rfl, rfl⟩) held
  | unregisterVia number place =>
      simp only [Operation.command, step]
      cases found : session.fabric? number with
      | none => exact .missed rfl
      | some fabric =>
          cases held : session.sender? place with
          | none => exact .missed rfl
          | some sender => exact transition_unregisterVia (.inr rfl) held
  | dropSender place =>
      simp only [Operation.command, step]
      cases held : session.sender? place with
      | none => exact .missed rfl
      | some sender => exact .letGoSender held
  | dropReceiver place =>
      simp only [Operation.command, step]
      cases held : session.receiver? place with
      | none => exact .missed rfl
      | some receiver => exact .letGoReceiver held
  | push place value => exact transition_pushed session place none value
  | pushTo place consumer value => exact transition_pushed session place (some consumer) value
  | pop place =>
      rcases withReading_cases session place Reading.pop .popped
        with hmiss | ⟨receiver, fabric, held, found⟩
      · simp only [Operation.command, step, hmiss]
        exact .missed rfl
      · have hkept := congrArg Seat.fabric (pop_seat ⟨fabric, receiver, #[]⟩)
        simp only [Operation.command, step]
        rw [withReading_of_held held found hkept]
        exact .popped held found

-----------------------------------------------------------------------------------------
-- What a transition does to each fabric
-----------------------------------------------------------------------------------------

section Transition

variable {session : Session α} {operation : Operation α} {outcome : Outcome α}

/-- One fabric makes a move at most, and all others stay as they are. -/
theorem Transition.fabrics (transition : session.Transition operation outcome)
    : outcome.session.fabrics = session.fabrics
      ∨ ∃ number fabric next,
          session.fabric? number = some fabric
          ∧ fabric.Move next
          ∧ outcome.session.fabrics = (session.setFabric number next).fabrics := by
  cases transition with
  | missed | letGoSender | letGoReceiver => exact .inl rfl
  | @producer number fabric found =>
      refine .inr ⟨number, fabric, _, found, .producer fabric.producerEnrolled, ?_⟩
      simp only [Outcome.logged, issueSender]
      split <;> rfl
  | @consumer number fabric found =>
      refine .inr ⟨number, fabric, _, found, .consumer fabric.consumerEnrolled, ?_⟩
      simp only [Outcome.logged, issueReceiver]
      split <;> rfl
  | @unregistered _ number _ sender fabric _ _ found =>
      exact .inr ⟨number, fabric, _, found, .unregistered (fabric.ended sender), rfl⟩
  | @pushed place consumer value sender fabric _ found =>
      have hkept := congrArg Badge.fabric (push_badge ⟨fabric, sender⟩ consumer value)
      exact .inr ⟨sender.fabric, fabric, _, found,
        .worked (onlyLinks_writing ⟨fabric, sender⟩ consumer value),
        congrArg (fun number => (session.setFabric number _).fabrics) hkept⟩
  | @popped place receiver fabric _ found =>
      have hkept := congrArg Seat.fabric (pop_seat ⟨fabric, receiver, #[]⟩)
      exact .inr ⟨receiver.fabric, fabric, _, found, .worked (fabric.onlyLinks_pop receiver),
        congrArg (fun number => (session.setFabric number _).fabrics) hkept⟩

/-- A fabric stays under its number and makes one move at most, and none comes up elsewhere. -/
theorem Transition.fabric? (transition : session.Transition operation outcome) (number : Nat)
    : session.fabric? number = none ∧ outcome.session.fabric? number = none
      ∨ ∃ before after,
          session.fabric? number = some before
          ∧ outcome.session.fabric? number = some after
          ∧ before.Move after := by
  rcases transition.fabrics with hsame | ⟨number', fabric, next, found, move, hput⟩
  · have hafter : outcome.session.fabric? number = session.fabric? number := by
      simp only [Session.fabric?, hsame]
    rw [hafter]
    cases here : session.fabric? number with
    | none => exact .inl ⟨rfl, rfl⟩
    | some fabric => exact .inr ⟨fabric, fabric, rfl, rfl, .worked (.refl fabric)⟩
  · have hafter : outcome.session.fabric? number
        = (session.setFabric number' next).fabric? number := by
      simp only [Session.fabric?, hput]
    rw [hafter, fabric?_setFabric found]
    split
    · next same =>
        subst same
        exact .inr ⟨fabric, next, found, rfl, move⟩
    · cases here : session.fabric? number with
      | none => exact .inl ⟨rfl, rfl⟩
      | some other => exact .inr ⟨other, other, rfl, rfl, .worked (.refl other)⟩

-----------------------------------------------------------------------------------------
-- Handles keep their identity, and registrations issue new ones
-----------------------------------------------------------------------------------------

theorem senders_of_held {place : Nat} {sender : Sender}
    (held : session.sender? place = some sender)
    : session.senders[place]? = some ⟨sender, true⟩ := by
  rw [sender?] at held
  split at held
  · next issued found =>
      split at held
      · next yes =>
          obtain rfl := Option.some.inj held
          rw [found, ← yes]
      · cases held
  · cases held

theorem receivers_of_held {place : Nat} {receiver : Receiver}
    (held : session.receiver? place = some receiver)
    : session.receivers[place]? = some ⟨receiver, true⟩ := by
  rw [receiver?] at held
  split at held
  · next issued found =>
      split at held
      · next yes =>
          obtain rfl := Option.some.inj held
          rw [found, ← yes]
      · cases held
  · cases held

end Transition

/-- Replacing an element by one that looks the same changes nothing about how the elements look. -/
theorem map_getElem?_setIfInBounds {β γ : Type} {items : Array β} {index : Nat} {old new : β}
    {look : β → γ} (found : items[index]? = some old) (same : look new = look old) (other : Nat)
    : (items.setIfInBounds index new)[other]?.map look = items[other]?.map look := by
  rw [Array.getElem?_setIfInBounds]
  split
  · next here =>
      subst here
      obtain ⟨hlt, _⟩ := Array.getElem?_eq_some_iff.mp found
      rw [if_pos hlt, found, Option.map_some, Option.map_some, same]
  · rfl

section Transition

variable {session : Session α} {operation : Operation α} {outcome : Outcome α}

/-- Senders keep what identifies them, and only the registration of a producer adds one. -/
theorem Transition.badge? (transition : session.Transition operation outcome)
    : (∀ place, outcome.session.badge? place = session.badge? place)
      ∨ ∃ number fabric sender,
          operation = .registerProducer number
          ∧ session.fabric? number = some fabric
          ∧ fabric.registerProducer.answer = .issued sender
          ∧ outcome.session.fabric? number = some fabric.registerProducer.fabric
          ∧ ∀ place,
              outcome.session.badge? place
                = if place = session.senders.size then some sender.badge
                  else session.badge? place := by
  cases transition with
  | missed | letGoReceiver | unregistered | popped => exact .inl fun _ => rfl
  | letGoSender held =>
      exact .inl (map_getElem?_setIfInBounds (senders_of_held held) rfl)
  | pushed held =>
      exact .inl (map_getElem?_setIfInBounds (senders_of_held held) (push_badge _ _ _))
  | @producer number fabric found =>
      cases hanswer : fabric.registerProducer.answer with
      | refused | failed => exact .inl fun _ => rfl
      | issued sender =>
          refine .inr ⟨number, fabric, sender, rfl, found, hanswer, ?_, fun place => ?_⟩
          · exact (fabric?_setFabric found _ number).trans (if_pos rfl)
          · simp only [Session.badge?, Outcome.logged, issueSender, setFabric,
              Array.getElem?_push]
            split <;> rfl
  | @consumer number fabric found => exact .inl fun place => badge?_issueReceiver _ _ place

/-- Receivers keep what identifies them, and only the registration of a consumer adds one. -/
theorem Transition.seat? (transition : session.Transition operation outcome)
    : (∀ place, outcome.session.seat? place = session.seat? place)
      ∨ ∃ number fabric receiver,
          operation = .registerConsumer number
          ∧ session.fabric? number = some fabric
          ∧ fabric.registerConsumer.answer = .issued receiver
          ∧ outcome.session.fabric? number = some fabric.registerConsumer.fabric
          ∧ ∀ place,
              outcome.session.seat? place
                = if place = session.receivers.size then some receiver.seat
                  else session.seat? place := by
  cases transition with
  | missed | letGoSender | unregistered | pushed => exact .inl fun _ => rfl
  | letGoReceiver held =>
      exact .inl (map_getElem?_setIfInBounds (receivers_of_held held) rfl)
  | popped held =>
      exact .inl (map_getElem?_setIfInBounds (receivers_of_held held) (pop_seat _))
  | @consumer number fabric found =>
      cases hanswer : fabric.registerConsumer.answer with
      | refused | failed => exact .inl fun _ => rfl
      | issued receiver =>
          refine .inr ⟨number, fabric, receiver, rfl, found, hanswer, ?_, fun place => ?_⟩
          · exact (fabric?_setFabric found _ number).trans (if_pos rfl)
          · simp only [Session.seat?, Outcome.logged, issueReceiver, setFabric,
              Array.getElem?_push]
            split <;> rfl
  | @producer number fabric found => exact .inl fun place => seat?_issueSender _ _ place

end Transition

end Session

end Crossbar
