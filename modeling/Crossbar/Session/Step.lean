import Crossbar.Session.Basic

/-! The commands of a session. Every command names fabrics and handles by number; one that names a
number without a fabric or a handle is answered by a miss and changes nothing.
-/

namespace Crossbar.Session

/-- What can be asked of a session. -/
inductive Command (α : Type) where
  | registerProducer (fabric : Nat)
  | registerConsumer (fabric : Nat)
  /-- End a registration through the fabric that issued the handle. -/
  | unregister (sender : Nat)
  /-- End a registration through a fabric that is named. -/
  | unregisterVia (fabric sender : Nat)
  | dropSender (sender : Nat)
  | dropReceiver (receiver : Nat)
  | push (sender : Nat) (value : α)
  | pushTo (sender consumer : Nat) (value : α)
  /-- Push values one by one, by fan-out or to one consumer, whether or not some are refused. -/
  | pushEach (sender : Nat) (consumer : Option Nat) (values : List α)
  | pop (receiver : Nat)
  | popMany (receiver count : Nat)
  | popAll (receiver : Nat)
  | popWait (receiver : Nat) (timeout : Timeout)
  /-- Wait for a value while another party pushes one, `delay` nanoseconds after the start. -/
  | popWaitBesidePush (receiver sender : Nat) (value : α) (delay : Nat) (timeout : Timeout)

/-- What a session answers. -/
inductive Reply (α : Type) where
  | noSuchFabric
  | noSuchHandle
  | refused
  | failed (failure : Failure)
  | misused (fault : UsageFault)
  | senderIssued (number slot wired : Nat)
  | receiverIssued (number slot wired : Nat)
  | done
  | pushed (answer : PushAnswer α)
  | pushedEach (answers : List (PushAnswer α))
  | popped (intake : Intake α)
  | poppedMany (intakes : List (Intake α))
  | poppedAll (taken : List (Sourced α))
  | waited (outcome : Waited Unit (Sourced α))
  | besidePush (answer : PushAnswer α) (outcome : Waited Unit (Sourced α))

variable {α : Type}

/-- The values that went down with pushes that failed. -/
def Reply.lost : Reply α → List α
  | .pushed answer | .besidePush answer _ => answer.lost?.toList
  | .pushedEach answers => answers.filterMap PushAnswer.lost?
  | _ => []

/-- The outcome of a command: its answer, the stale values a reader discarded and the events it
logged, both in order, and the session after it.
-/
structure Outcome (α : Type) where
  reply : Reply α
  discarded : List (Sourced α)
  log : List Event
  session : Session α

namespace Outcome

/-- A command that discards and logs nothing. -/
def quiet (reply : Reply α) (session : Session α) : Outcome α where
  reply := reply
  discarded := []
  log := []
  session := session

/-- A command on the slots of a fabric, which discards nothing. -/
def logged (reply : Reply α) (log : List Event) (session : Session α) : Outcome α where
  reply := reply
  discarded := []
  log := log
  session := session

/-- The values dropped by a command: what a reader discarded, and what went down with a push. -/
def dropped (outcome : Outcome α) : List α :=
  outcome.discarded.map Sourced.value ++ outcome.reply.lost

end Outcome

/-! ### Slots -/

def registerProducer (session : Session α) (number : Nat) : Outcome α :=
  match session.lend number with
  | (none, session) => .quiet .noSuchFabric session
  | (some fabric, session) =>
      let enrolled := fabric.registerProducer
      let session := session.setFabric number enrolled.fabric
      match enrolled.answer with
      | .refused => .logged .refused enrolled.log session
      | .failed failure => .logged (.failed failure) enrolled.log session
      | .issued sender =>
          let wired := (enrolled.fabric.producerRow sender.slot).wired
          .logged (.senderIssued session.senders.size sender.slot wired) enrolled.log
            { session with senders := session.senders.push ⟨sender, true⟩ }

def registerConsumer (session : Session α) (number : Nat) : Outcome α :=
  match session.lend number with
  | (none, session) => .quiet .noSuchFabric session
  | (some fabric, session) =>
      let enrolled := fabric.registerConsumer
      let session := session.setFabric number enrolled.fabric
      match enrolled.answer with
      | .refused => .logged .refused enrolled.log session
      | .failed failure => .logged (.failed failure) enrolled.log session
      | .issued receiver =>
          let wired := (enrolled.fabric.consumerRow receiver.slot).wired
          .logged (.receiverIssued session.receivers.size receiver.slot wired) enrolled.log
            { session with receivers := session.receivers.push ⟨receiver, true⟩ }

/-- Ends the registration of a handle through the fabric of a number. -/
def unregisterVia (session : Session α) (number : Nat) (sender : Sender) : Outcome α :=
  match session.lend number with
  | (none, session) => .quiet .noSuchFabric session
  | (some fabric, session) =>
      let enrolled := fabric.unregister sender
      let session := session.setFabric number enrolled.fabric
      match enrolled.answer with
      | .ok () => .logged .done enrolled.log session
      | .error fault => .logged (.misused fault) enrolled.log session

/-- Lets go of a sender, which leaves its registration as it is. -/
def dropSender (session : Session α) (number : Nat) (sender : Sender) : Session α :=
  { session with senders := session.senders.setIfInBounds number ⟨sender, false⟩ }

/-- Lets go of a receiver. -/
def dropReceiver (session : Session α) (number : Nat) (receiver : Receiver) : Session α :=
  { session with receivers := session.receivers.setIfInBounds number ⟨receiver, false⟩ }

/-! ### Senders at work -/

/-- The sender of a number, with its fabric, while the session keeps both. -/
def writing? (session : Session α) (number : Nat) : Option (Writing α) :=
  match session.sender? number with
  | none => none
  | some sender => (session.fabric? sender.fabric).map (⟨·, sender⟩)

/-- The session after a sender has been at work. -/
def keepWriting (session : Session α) (number : Nat) (writing : Writing α) : Session α :=
  (session.setFabric writing.sender.fabric writing.fabric).setSender number writing.sender

/-- Lets a sender work, and answers by `reply`. -/
def withWriting {β : Type} (session : Session α) (number : Nat)
    (work : Writing α → β × Writing α) (reply : β → Reply α)
    : Outcome α :=
  match session.sender? number with
  | none => .quiet .noSuchHandle session
  | some sender =>
      match session.lend sender.fabric with
      | (none, session) => .quiet .noSuchHandle session
      | (some fabric, session) =>
          let (result, writing) := work ⟨fabric, sender⟩
          .quiet (reply result) (session.keepWriting number writing)

/-! ### Receivers at work -/

/-- The receiver of a number, with its fabric, while the session keeps both. -/
def reading? (session : Session α) (number : Nat) : Option (Reading α) :=
  match session.receiver? number with
  | none => none
  | some receiver => (session.fabric? receiver.fabric).map (⟨·, receiver, #[]⟩)

/-- The session after a receiver has been at work. -/
def keepReading (session : Session α) (number : Nat) (reading : Reading α) : Session α :=
  (session.setFabric reading.receiver.fabric reading.fabric).setReceiver number reading.receiver

/-- Lets a receiver work, and answers by `reply` with what it discarded. -/
def withReading {β : Type} (session : Session α) (number : Nat)
    (work : Reading α → β × Reading α) (reply : β → Reply α)
    : Outcome α :=
  match session.receiver? number with
  | none => .quiet .noSuchHandle session
  | some receiver =>
      match session.lend receiver.fabric with
      | (none, session) => .quiet .noSuchHandle session
      | (some fabric, session) =>
          let (result, reading) := work ⟨fabric, receiver, #[]⟩
          { reply := reply result
            discarded := reading.discarded.toList
            log := []
            session := session.keepReading number reading }

/-- Waits on one handle while a value is pushed through another. If the two belong to different
fabrics, neither notices the other.
-/
def popWaitBesidePush (session : Session α) (now : Nat) (receiver sender : Nat) (value : α)
    (delay : Nat) (timeout : Timeout)
    : Outcome α :=
  match session.reading? receiver, session.writing? sender with
  | some reading, some writing =>
      if writing.sender.fabric = reading.receiver.fabric then
        let (outcome, (answer, handle), reading) :=
          reading.popWaitBesidePush timeout now delay writing.sender value
        { reply := .besidePush answer outcome
          discarded := reading.discarded.toList
          log := []
          session := (session.keepReading receiver reading).setSender sender handle }
      else
        let (outcome, reading) :=
          reading.popWait timeout now (quietTurns now (timeout.deadline now))
        let (answer, writing) := writing.push none value
        { reply := .besidePush answer outcome
          discarded := reading.discarded.toList
          log := []
          session := (session.keepReading receiver reading).keepWriting sender writing }
  | _, _ => .quiet .noSuchHandle session

/-! ### Commands -/

/-- One command, beginning when the clock reads `now`. -/
def step (now : Nat) (session : Session α) : Command α → Outcome α
  | .registerProducer fabric => session.registerProducer fabric
  | .registerConsumer fabric => session.registerConsumer fabric
  | .unregister sender =>
      match session.sender? sender with
      | none => .quiet .noSuchHandle session
      | some handle => session.unregisterVia handle.fabric handle
  | .unregisterVia fabric sender =>
      match session.fabric? fabric, session.sender? sender with
      | none, _ => .quiet .noSuchFabric session
      | some _, none => .quiet .noSuchHandle session
      | some _, some handle => session.unregisterVia fabric handle
  | .dropSender sender =>
      match session.sender? sender with
      | none => .quiet .noSuchHandle session
      | some handle => .quiet .done (session.dropSender sender handle)
  | .dropReceiver receiver =>
      match session.receiver? receiver with
      | none => .quiet .noSuchHandle session
      | some handle => .quiet .done (session.dropReceiver receiver handle)
  | .push sender value =>
      session.withWriting sender (fun writing => writing.push none value) .pushed
  | .pushTo sender consumer value =>
      session.withWriting sender (fun writing => writing.push (some consumer) value) .pushed
  | .pushEach sender consumer values =>
      session.withWriting sender (Writing.pushEach consumer values) .pushedEach
  | .pop receiver => session.withReading receiver Reading.pop .popped
  | .popMany receiver count =>
      session.withReading receiver (Reading.popMany count) .poppedMany
  | .popAll receiver => session.withReading receiver Reading.popAll .poppedAll
  | .popWait receiver timeout =>
      session.withReading receiver
        (Reading.popWait timeout now (quietTurns now (timeout.deadline now))) .waited
  | .popWaitBesidePush receiver sender value delay timeout =>
      session.popWaitBesidePush now receiver sender value delay timeout

/-- A run of commands, each beginning when the clock reads `now`: all outcomes in order, and the
session at the end.
-/
def run (now : Nat) : List (Command α) → Session α → List (Outcome α) × Session α
  | [], session => ([], session)
  | command :: rest, session =>
      let outcome := session.step now command
      let (outcomes, session) := run now rest outcome.session
      (outcome :: outcomes, session)

/-! ### Views -/

/-- What a held sender shows of itself: its slot, whether it is registered, how many consumers it
is wired to.
-/
def senderView (session : Session α) (number : Nat) : Option (Nat × Bool × Nat) :=
  match session.sender? number with
  | none => none
  | some sender =>
      match session.fabric? sender.fabric with
      | none => none
      | some fabric =>
          some (sender.slot, fabric.isRegistered sender, (fabric.producerRow sender.slot).wired)

/-- What a held receiver shows of itself: its slot and how many producers it is wired to. -/
def receiverView (session : Session α) (number : Nat) : Option (Nat × Nat) :=
  match session.receiver? number with
  | none => none
  | some receiver =>
      match session.fabric? receiver.fabric with
      | none => none
      | some fabric => some (receiver.slot, (fabric.consumerRow receiver.slot).wired)

end Crossbar.Session
