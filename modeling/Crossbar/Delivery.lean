import Crossbar.Fabric.FanIn
import Crossbar.Fabric.FanOut
import Crossbar.Fabric.Registration

/-! Several producers and consumers at work on one fabric at the same time. Each party's operations
are single steps, and the order of the steps is free; a producer hands over its numbers in order
and then gives its slot back.
-/

namespace Crossbar

/-- A value on its way: the producer slot it was pushed through and its number there. -/
structure Stamp where
  slot : Nat
  number : Nat
deriving Repr, DecidableEq

/-- A producer at work, with the next number to hand over and how many there are in all. -/
structure Writer where
  sender : Sender
  next : Nat
  quota : Nat
  finished : Bool
deriving Repr, DecidableEq

/-- A consumer at work, with what it has received so far, in order. -/
structure Reader where
  receiver : Receiver
  received : Array Stamp
deriving Repr, DecidableEq

/-- What holds the place of a reader that is at work. -/
def Reader.blank : Reader where
  receiver := ⟨0, 0, 0, 0⟩
  received := #[]

/-- A fabric and the parties at work on it. -/
structure Delivery where
  fabric : Fabric Stamp
  writers : Array Writer
  readers : Array Reader

/-- How many values arrived from a producer slot, and the sum of their numbers. -/
structure Arrivals where
  slot : Nat
  count : Nat
  sum : Nat
deriving Repr, DecidableEq

/-- A producer slot and the number of consumers that it is wired to. -/
structure Wiring where
  slot : Nat
  wired : Nat
deriving Repr, DecidableEq

/-- Whose operation comes next. -/
inductive Actor where
  | writer (index : Nat)
  | reader (index : Nat)
deriving Repr, DecidableEq

namespace Delivery

/-- A fabric with nobody at work on it. -/
def start (shape : Shape) (config : Config) : Except ConfigFault Delivery :=
  match Fabric.create 0 shape config with
  | .error fault => .error fault
  | .ok (fabric, _) => .ok ⟨fabric, #[], #[]⟩

/-- Registers one more consumer and sets it to work. It stays out if it gets no slot. -/
def addReader (delivery : Delivery) : Except Failure Delivery :=
  let enrolled := delivery.fabric.registerConsumer
  match enrolled.answer with
  | .failed failure => .error failure
  | .refused => .ok { delivery with fabric := enrolled.fabric }
  | .issued receiver =>
      .ok
        { delivery with
          fabric := enrolled.fabric
          readers := delivery.readers.push ⟨receiver, #[]⟩ }

/-- Registers one more producer and sets it to work on `quota` numbers. It stays out if it gets no
slot.
-/
def addWriter (quota : Nat) (delivery : Delivery) : Except Failure Delivery :=
  let enrolled := delivery.fabric.registerProducer
  match enrolled.answer with
  | .failed failure => .error failure
  | .refused => .ok { delivery with fabric := enrolled.fabric }
  | .issued sender =>
      .ok
        { delivery with
          fabric := enrolled.fabric
          writers := delivery.writers.push ⟨sender, 0, quota, false⟩ }

/-- Registers `count` more consumers, up to the first registration that fails. -/
def addReaders : Nat → Delivery → Except Failure Delivery
  | 0, delivery => .ok delivery
  | count + 1, delivery => delivery.addReader.bind (addReaders count)

/-- Registers `count` more producers, each with `quota` numbers to hand over, up to the first
registration that fails.
-/
def addWriters (quota : Nat) : Nat → Delivery → Except Failure Delivery
  | 0, delivery => .ok delivery
  | count + 1, delivery => (delivery.addWriter quota).bind (addWriters quota count)

/-- Registers `consumers` consumers and then `producers` producers, each producer with `quota`
numbers to hand over.
-/
def staff (consumers producers quota : Nat) (delivery : Delivery) : Except Failure Delivery :=
  (delivery.addReaders consumers).bind (addWriters quota producers)

/-- A writer's operation: one push of its next number, to be tried again if it is refused, and the
end of its registration after the last one.
-/
def writerStep (delivery : Delivery) (index : Nat) : Delivery :=
  match delivery.writers[index]? with
  | none => delivery
  | some writer =>
      if writer.next < writer.quota then
        match delivery.fabric.push writer.sender ⟨writer.sender.slot, writer.next⟩ with
        | (.accepted _, sender, fabric) =>
            let writer := { writer with sender := sender, next := writer.next + 1 }
            { delivery with
              fabric := fabric
              writers := delivery.writers.setIfInBounds index writer }
        | (_, sender, fabric) =>
            { delivery with
              fabric := fabric
              writers := delivery.writers.setIfInBounds index { writer with sender := sender } }
      else if writer.finished then
        delivery
      else
        { delivery with
          fabric := (delivery.fabric.unregister writer.sender).fabric
          writers := delivery.writers.setIfInBounds index { writer with finished := true } }

/-- A reader's operation: one pop. -/
def readerStep (delivery : Delivery) (index : Nat) : Delivery :=
  match takeOut delivery.readers index .blank with
  | (none, readers) => { delivery with readers := readers }
  | (some reader, readers) =>
      let (intake, receiver, fabric) := delivery.fabric.pop reader.receiver
      let received :=
        match intake.taken with
        | some taken => reader.received.push taken.value
        | none => reader.received
      { delivery with
        fabric := fabric
        readers := readers.setIfInBounds index ⟨receiver, received⟩ }

/-- One operation of one party. -/
def step (delivery : Delivery) : Actor → Delivery
  | .writer index => delivery.writerStep index
  | .reader index => delivery.readerStep index

/-- Any sequence of operations. -/
def run (delivery : Delivery) (actors : List Actor) : Delivery :=
  actors.foldl step delivery

/-! ### A fair schedule -/

/-- One operation of each party in turn. -/
def lap (delivery : Delivery) : List Actor :=
  (List.range delivery.writers.size).map .writer
    ++ (List.range delivery.readers.size).map .reader

/-- Number of values received by all readers. -/
def receivedCount (delivery : Delivery) : Nat :=
  delivery.readers.foldl (fun total reader => total + reader.received.size) 0

/-- Number of values to be handed over by all writers. -/
def quotaSum (delivery : Delivery) : Nat :=
  delivery.writers.foldl (fun total writer => total + writer.quota) 0

/-- Every writer has given its slot back and every value has arrived. -/
def isComplete (delivery : Delivery) : Bool :=
  delivery.writers.all Writer.finished && delivery.receivedCount == delivery.quotaSum

/-- Laps until the work is complete, at most `limit` of them. -/
def runLaps : Nat → Delivery → Delivery
  | 0, delivery => delivery
  | limit + 1, delivery =>
      if delivery.isComplete then delivery else runLaps limit (delivery.run delivery.lap)

/-- Lets the parties work until nothing is left to do. With at least one reader every lap moves a
value on, so there are no more laps than values to hand over and to receive, and one to finish.
-/
def complete (delivery : Delivery) : Delivery :=
  delivery.runLaps (2 * delivery.quotaSum + 1)

/-- A round: a new consumer stays on, and a new producer hands over its numbers and leaves. -/
def round (quota : Nat) (delivery : Delivery) : Except Failure Delivery :=
  (delivery.addReader.bind (addWriter quota)).map complete

/-! ### What the readers have seen -/

/-- All values received, reader by reader. -/
def received (delivery : Delivery) : List Stamp :=
  delivery.readers.toList.flatMap fun reader => reader.received.toList

/-- The numbers received from one producer slot. -/
def numbersFrom (stamps : List Stamp) (slot : Nat) : List Nat :=
  (stamps.filter fun stamp => stamp.slot == slot).map Stamp.number

/-- What arrived from every producer slot, leaving out those without a value. -/
def arrivals (delivery : Delivery) : List Arrivals :=
  (List.range delivery.fabric.producerCount).filterMap fun slot =>
    match numbersFrom delivery.received slot with
    | [] => none
    | numbers => some ⟨slot, numbers.length, numbers.foldl (· + ·) 0⟩

/-- Whether a list of numbers increases throughout. -/
def increasing : List Nat → Bool
  | [] | [_] => true
  | first :: second :: rest => decide (first < second) && increasing (second :: rest)

/-- Whether every reader got each producer's numbers in increasing order. -/
def isOrdered (delivery : Delivery) : Bool :=
  delivery.readers.all fun reader =>
    (List.range delivery.fabric.producerCount).all fun slot =>
      increasing (numbersFrom reader.received.toList slot)

/-- The wiring of a writer's slot. -/
def wiring (delivery : Delivery) (index : Nat) : Option Wiring :=
  delivery.writers[index]?.map fun writer =>
    ⟨writer.sender.slot, (delivery.fabric.producerRow writer.sender.slot).wired⟩

/-- Rounds one after the other, with the wiring that each round's producer found. They end at the
first registration that fails.
-/
def rounds (quota : Nat) : Nat → Delivery → Except Failure (List Wiring × Delivery)
  | 0, delivery => .ok ([], delivery)
  | count + 1, delivery =>
      match delivery.round quota with
      | .error failure => .error failure
      | .ok delivery =>
          let found := (delivery.wiring (delivery.writers.size - 1)).toList
          (rounds quota count delivery).map fun (rest, delivery) => (found ++ rest, delivery)

end Delivery

end Crossbar
