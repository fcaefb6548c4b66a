import Crossbar.Channel.Basic

/-! Commands on the two ends of a channel. A command on an end that is closed is refused and
changes nothing.
-/

namespace Crossbar.Channel

/-- What can be asked of a channel. -/
inductive Command (α : Type) where
  | push (value : α)
  | pop
  | pushWait (value : α) (timeout : Timeout)
  | popWait (timeout : Timeout)
  /-- Wait for room while the reader pops once, `delay` nanoseconds after the start. -/
  | pushWaitBesidePop (value : α) (timeout : Timeout) (delay : Nat)
  /-- Wait for a value while the writer pushes once, `delay` nanoseconds after the start. -/
  | popWaitBesidePush (value : α) (timeout : Timeout) (delay : Nat)
  | size
  | isEmpty
  | capacity
  | closeWriter
  | closeReader

/-- What a channel answers. -/
inductive Reply (α : Type) where
  | endClosed
  | offer (offer : Offer α)
  | value (value : Option α)
  | pushed (outcome : Waited α Unit)
  | popped (outcome : Waited Unit α)
  | besidePop (outcome : Waited α Unit) (value : Option α)
  | besidePush (offer : Offer α) (outcome : Waited Unit α)
  | number (count : Nat)
  | flag (holds : Bool)

/-- The outcome of a command: its answer, the values released by it, and the channel after it. -/
structure Outcome (α : Type) where
  reply : Reply α
  released : List α
  channel : Channel α

variable {α : Type}

/-- A command that releases nothing. -/
def Outcome.quiet (reply : Reply α) (channel : Channel α) : Outcome α where
  reply := reply
  released := []
  channel := channel

/-- Whether the ends that a command works on are open. -/
def permits (channel : Channel α) : Command α → Bool
  | .push _ | .pushWait _ _ | .capacity => channel.writerOpen
  | .pop | .popWait _ | .size | .isEmpty => channel.readerOpen
  | .pushWaitBesidePop _ _ _ | .popWaitBesidePush _ _ _ =>
      channel.writerOpen && channel.readerOpen
  | .closeWriter | .closeReader => true

/-- Carries out a command whose ends are open, beginning when the clock reads `now`. -/
def perform (now : Nat) (channel : Channel α) : Command α → Outcome α
  | .push value =>
      let (offer, channel) := channel.push value
      .quiet (.offer offer) channel
  | .pop =>
      let (value, channel) := channel.pop
      .quiet (.value value) channel
  | .pushWait value timeout =>
      let turns := quietTurns now (timeout.deadline now)
      let (outcome, channel) := channel.pushWait timeout now turns value
      .quiet (.pushed outcome) channel
  | .popWait timeout =>
      let turns := quietTurns now (timeout.deadline now)
      let (outcome, channel) := channel.popWait timeout now turns
      .quiet (.popped outcome) channel
  | .pushWaitBesidePop value timeout delay =>
      let (outcome, popped, channel) :=
        awaitBeside .untilPassed timeout now delay pushAttempt pop value channel
      .quiet (.besidePop outcome popped) channel
  | .popWaitBesidePush value timeout delay =>
      let (outcome, offer, channel) :=
        awaitBeside .untilPassed timeout now delay popAttempt
          (fun channel => channel.push value) () channel
      .quiet (.besidePush offer outcome) channel
  | .size => .quiet (.number channel.size) channel
  | .isEmpty => .quiet (.flag channel.isEmpty) channel
  | .capacity => .quiet (.number channel.ring.capacity) channel
  | .closeWriter =>
      let (released, closed) := channel.closeWriter
      ⟨.flag channel.writerOpen, released, closed⟩
  | .closeReader =>
      let (released, closed) := channel.closeReader
      ⟨.flag channel.readerOpen, released, closed⟩

/-- One command, beginning when the clock reads `now`. -/
def step (now : Nat) (channel : Channel α) (command : Command α) : Outcome α :=
  if channel.permits command then
    channel.perform now command
  else
    .quiet .endClosed channel

/-- Closes both ends, the writer's first, with the values released by that. -/
def finish (channel : Channel α) : List α × Channel α :=
  let (first, channel) := channel.closeWriter
  let (second, channel) := channel.closeReader
  (first ++ second, channel)

end Crossbar.Channel
