import Crossbar.Fabric.Config

/-! The log of a fabric. Only creation and registration are logged; pushes and pops never are. -/

namespace Crossbar

/-- Something that happened to the slots of a fabric. -/
inductive Event where
  | created (shape : Shape) (config : Config)
  | consumerRegistered (consumer : Nat)
  | consumersExhausted (limit : Nat)
  | producerRegistered (producer : Nat)
  | producersExhausted (limit : Nat)
  | staleMarked (producer discarded : Nat)
  | producerReclaimed (producer : Nat)
  | producerUnregistered (producer : Nat)
deriving Repr, DecidableEq

/-- How much detail a log must show for an event to appear in it. -/
inductive Level where
  | debug
  | trace
deriving Repr, DecidableEq

def Level.name : Level → String
  | .debug => "debug"
  | .trace => "trace"

/-- The value of a field of a logged event. -/
inductive FieldValue where
  | number (value : Nat)
  | flag (value : Bool)
deriving Repr, DecidableEq

namespace Event

def level : Event → Level
  | .staleMarked _ _ => .trace
  | _ => .debug

def message : Event → String
  | .created _ _ => "dispatch matrix created"
  | .consumerRegistered _ => "consumer registered"
  | .consumersExhausted _ => "no consumer slot available"
  | .producerRegistered _ => "producer registered"
  | .producersExhausted _ => "no producer slot available"
  | .staleMarked _ _ => "stale values marked for discard"
  | .producerReclaimed _ => "producer slot reclaimed"
  | .producerUnregistered _ => "producer unregistered"

def fields : Event → List (String × FieldValue)
  | .created shape config =>
      [("capacity", .number config.channelCapacity),
        ("max_producers", .number shape.maxProducers),
        ("max_consumers", .number shape.maxConsumers),
        ("drain_on_reclaim", .flag config.drainOnReclaim)]
  | .consumerRegistered consumer => [("consumer", .number consumer)]
  | .consumersExhausted limit => [("max", .number limit)]
  | .producerRegistered producer => [("producer", .number producer)]
  | .producersExhausted limit => [("max", .number limit)]
  | .staleMarked producer discarded =>
      [("producer", .number producer), ("discarded", .number discarded)]
  | .producerReclaimed producer => [("producer", .number producer)]
  | .producerUnregistered producer => [("producer", .number producer)]

end Event

end Crossbar
