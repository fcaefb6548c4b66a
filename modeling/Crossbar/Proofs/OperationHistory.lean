import Crossbar.Proofs.SessionHistory

/-! Runs of single operations. What an operation passes in or out of the links of a fabric can be
read off its answer and its log, together with the slot of the handle it was made through, so a
run has a history without a look inside any link.
-/

namespace Crossbar

-----------------------------------------------------------------------------------------
-- Single pushes and pops through handles
-----------------------------------------------------------------------------------------

/-- A push through a handle records the value if it is taken. -/
theorem Fabric.Follows.writingPush {α : Type} {config : Config} {past : List (Passage α)}
    (writing : Writing α) (follows : writing.fabric.Follows config past)
    (consumer : Option Nat) (value : α)
    : (writing.push consumer value).1.Settles value
      ∧ (writing.push consumer value).2.sender.fabric = writing.sender.fabric
      ∧ (writing.push consumer value).2.sender.slot = writing.sender.slot
      ∧ (writing.push consumer value).2.fabric.Follows config
          (past ++ (writing.push consumer value).1.passages writing.sender.slot value) := by
  cases consumer with
  | none =>
      obtain ⟨_, hsettles, hf⟩ := follows.push writing.sender value
      obtain ⟨hfabric, hslot⟩ := writing.fabric.push_sender writing.sender value
      exact ⟨hsettles, hfabric, hslot, hf⟩
  | some consumer =>
      obtain ⟨_, hsettles, hf⟩ := follows.pushTo writing.sender consumer value
      exact ⟨hsettles, rfl, rfl, hf⟩

/-- A pop through a handle records what it discards and what it takes. -/
theorem Fabric.Follows.readingPop {α : Type} {config : Config} {past : List (Passage α)}
    (reading : Reading α) (follows : reading.fabric.Follows config past)
    : reading.pop.2.receiver.fabric = reading.receiver.fabric
      ∧ reading.pop.2.receiver.slot = reading.receiver.slot
      ∧ reading.pop.2.discarded.toList = reading.discarded.toList ++ reading.pop.1.discarded
      ∧ reading.pop.2.fabric.Follows config
          (past ++ reading.pop.1.passages reading.receiver.slot) := by
  obtain ⟨_, hf⟩ := follows.pop reading.receiver
  obtain ⟨hfabric, hslot⟩ := reading.fabric.pop_receiver reading.receiver
  exact ⟨hfabric, hslot, by simp [Reading.pop], hf⟩

namespace Session

variable {α : Type}

/-- A single operation on the fabrics of a session. -/
inductive Operation (α : Type) where
  | registerProducer (fabric : Nat)
  | registerConsumer (fabric : Nat)
  | unregister (sender : Nat)
  | unregisterVia (fabric sender : Nat)
  | dropSender (sender : Nat)
  | dropReceiver (receiver : Nat)
  | push (sender : Nat) (value : α)
  | pushTo (sender consumer : Nat) (value : α)
  | pop (receiver : Nat)
deriving Repr, DecidableEq

namespace Operation

/-- The command that asks for an operation. -/
def command : Operation α → Command α
  | .registerProducer fabric => .registerProducer fabric
  | .registerConsumer fabric => .registerConsumer fabric
  | .unregister sender => .unregister sender
  | .unregisterVia fabric sender => .unregisterVia fabric sender
  | .dropSender sender => .dropSender sender
  | .dropReceiver receiver => .dropReceiver receiver
  | .push sender value => .push sender value
  | .pushTo sender consumer value => .pushTo sender consumer value
  | .pop receiver => .pop receiver

/-- What a push through a handle with this answer passes in the fabric of a number. -/
def pushed (number : Nat) (sender : Option Sender) (value : α) (reply : Reply α)
    : List (Passage α) :=
  match sender, reply with
  | some sender, .pushed answer =>
      if sender.fabric = number then answer.passages sender.slot value else []
  | _, _ => []

/-- What a pop through a handle with this answer passes in the fabric of a number. -/
def popped (number : Nat) (receiver : Option Receiver) (reply : Reply α) : List (Passage α) :=
  match receiver, reply with
  | some receiver, .popped intake =>
      if receiver.fabric = number then intake.passages receiver.slot else []
  | _, _ => []

/-- What an operation on a session passes in the fabric of a number, given its outcome. -/
def passages (number : Nat) (session : Session α) (outcome : Outcome α)
    : Operation α → List (Passage α)
  | .push sender value | .pushTo sender _ value =>
      pushed number (session.sender? sender) value outcome.reply
  | .pop receiver => popped number (session.receiver? receiver) outcome.reply
  | .registerProducer fabric =>
      if fabric = number then Event.reissues outcome.log else []
  | _ => []

end Operation

/-- The session after a run of operations. -/
def after (now : Nat) (operations : List (Operation α)) (session : Session α) : Session α :=
  (session.run now (operations.map Operation.command)).2

/-- The history of the fabric of a number over a run of operations. -/
def history (now number : Nat) : List (Operation α) → Session α → List (Passage α)
  | [], _ => []
  | operation :: rest, session =>
      let outcome := session.step now operation.command
      operation.passages number session outcome ++ history now number rest outcome.session

theorem after_cons (now : Nat) (operation : Operation α) (rest : List (Operation α))
    (session : Session α)
    : session.after now (operation :: rest)
        = (session.step now operation.command).session.after now rest := rfl

/-- A run that goes on starts from where it has come to. -/
theorem after_append (now : Nat) (operations more : List (Operation α)) (session : Session α)
    : session.after now (operations ++ more)
        = (session.after now operations).after now more := by
  induction operations generalizing session with
  | nil => rfl
  | cons operation rest ih => exact ih _

/-- The history of a run that goes on is the history so far and that of the rest. -/
theorem history_append (now number : Nat) (operations more : List (Operation α))
    (session : Session α)
    : history now number (operations ++ more) session
        = history now number operations session
          ++ history now number more (session.after now operations) := by
  induction operations generalizing session with
  | nil => rfl
  | cons operation rest ih =>
      simp only [List.cons_append, history, ih, List.append_assoc]
      rfl

variable {configs : List Config} {session : Session α} {histories : Nat → List (Passage α)}

/-- A push, by fan-out or to one consumer, adds its value to the history of the handle's fabric if
it is accepted.
-/
theorem Follows.pushed (follows : session.Follows configs histories) (number : Nat)
    (consumer : Option Nat) (value : α)
    : let outcome :=
        session.withWriting number (fun writing => writing.push consumer value) .pushed
      outcome.session.Follows configs (fun other =>
        histories other
          ++ Operation.pushed other (session.sender? number) value outcome.reply) := by
  rcases withWriting_cases session number (fun writing => writing.push consumer value) .pushed
    with hmiss | ⟨sender, fabric, hsender, hfabric⟩
  · rw [hmiss]
    simpa [Operation.pushed, Outcome.quiet] using follows
  · obtain ⟨config, hconfig, hf⟩ := follows.fabric hfabric
    obtain ⟨_, hkept, _, hpushed⟩ := hf.writingPush ⟨fabric, sender⟩ consumer value
    dsimp only
    rw [withWriting_of_held hsender hfabric hkept, hsender]
    exact follows.keepWriting hfabric hconfig hkept hpushed number

/-- A pop adds what it discards and what it takes to the history of the handle's fabric. -/
theorem Follows.popped (follows : session.Follows configs histories) (number : Nat)
    : let outcome := session.withReading number Reading.pop .popped
      outcome.session.Follows configs (fun other =>
        histories other
          ++ Operation.popped other (session.receiver? number) outcome.reply) := by
  rcases withReading_cases session number Reading.pop .popped
    with hmiss | ⟨receiver, fabric, hreceiver, hfabric⟩
  · rw [hmiss]
    simpa [Operation.popped, Outcome.quiet] using follows
  · obtain ⟨config, hconfig, hf⟩ := follows.fabric hfabric
    obtain ⟨hkept, _, _, hpopped⟩ := hf.readingPop ⟨fabric, receiver, #[]⟩
    dsimp only
    rw [withReading_of_held hreceiver hfabric hkept, hreceiver]
    exact follows.keepReading hfabric hconfig hkept hpopped number

/-- An operation that means nothing for the links leaves all histories as they are. -/
theorem Follows.unrecorded {after : Session α} (follows : after.Follows configs histories)
    : after.Follows configs (fun number => histories number ++ []) := by
  simpa using follows

/-- Ending a registration means nothing for the links. -/
theorem Follows.unregisterVia (follows : session.Follows configs histories) (number : Nat)
    (sender : Sender)
    : (session.unregisterVia number sender).session.Follows configs histories := by
  rcases unregisterVia_cases session number sender with ⟨_, hmiss⟩ | ⟨fabric, hfabric, enrols⟩
  · rw [hmiss]
    exact follows
  · obtain ⟨config, hconfig, hf⟩ := follows.fabric hfabric
    exact follows.enrol_quiet hfabric hconfig enrols (hf.unregister sender)

/-- Every operation extends the history of each fabric by what it passes there. -/
theorem Follows.operate (follows : session.Follows configs histories) (now : Nat)
    (operation : Operation α)
    : (session.step now operation.command).session.Follows configs (fun number =>
        histories number
          ++ operation.passages number session (session.step now operation.command)) := by
  cases operation with
  | registerProducer number =>
      rcases registerProducer_cases session number with ⟨_, hmiss⟩ | ⟨fabric, hfabric, enrols⟩
      · simp only [Operation.command, step, Operation.passages, hmiss]
        simpa [Outcome.quiet, Event.reissues] using follows
      · obtain ⟨config, hconfig, hf⟩ := follows.fabric hfabric
        have hnext := follows.enrol hfabric hconfig enrols hf.registerProducer
        simp only [Operation.command, step, Operation.passages, enrols.log]
        exact hnext
  | registerConsumer number =>
      apply Follows.unrecorded
      rcases registerConsumer_cases session number with ⟨_, hmiss⟩ | ⟨fabric, hfabric, enrols⟩
      · simp only [Operation.command, step, hmiss]
        exact follows
      · obtain ⟨config, hconfig, hf⟩ := follows.fabric hfabric
        exact follows.enrol_quiet hfabric hconfig enrols hf.registerConsumer
  | unregister number =>
      apply Follows.unrecorded
      simp only [Operation.command, step]
      split
      · exact follows
      · exact follows.unregisterVia _ _
  | unregisterVia number sender =>
      apply Follows.unrecorded
      simp only [Operation.command, step]
      split
      · exact follows
      · exact follows
      · exact follows.unregisterVia _ _
  | dropSender number =>
      apply Follows.unrecorded
      simp only [Operation.command, step]
      split
      · exact follows
      · exact follows.of_fabrics rfl
  | dropReceiver number =>
      apply Follows.unrecorded
      simp only [Operation.command, step]
      split
      · exact follows
      · exact follows.of_fabrics rfl
  | push number value => exact follows.pushed number none value
  | pushTo number consumer value => exact follows.pushed number (some consumer) value
  | pop number => exact follows.popped number

/-- A run of operations extends the history of each fabric by all that they pass there, by
induction over the run.
-/
theorem Follows.after (follows : session.Follows configs histories) (now : Nat)
    (operations : List (Operation α))
    : (session.after now operations).Follows configs (fun number =>
        histories number ++ history now number operations session) := by
  induction operations generalizing session histories with
  | nil => exact follows.unrecorded
  | cons operation rest ih =>
      have hrest := ih (follows.operate now operation)
      simp only [List.append_assoc] at hrest
      exact hrest

/-- A run from the start follows the history of its operations. -/
theorem follows_after_start (shape : Shape) (configs : List Config) (now : Nat)
    (operations : List (Operation α))
    : ((start shape configs).after now operations).Follows configs (fun number =>
        history now number operations (start shape configs)) :=
  (follows_start shape configs).after now operations

end Session

end Crossbar
