import Crossbar.Ring.Basic

/-! One writer and one reader working on a ring at the same time. Each push and pop is cut into
its single accesses to shared memory, every access is one step, and the two parties take their
steps in any order.
-/

namespace Crossbar

variable {α : Type}

/-- Where the writer stands inside a push. -/
inductive WriterPhase (α : Type) where
  /-- Between two pushes. -/
  | ready
  /-- About to look at the reader's total, because the last look left no room. -/
  | looking (value : α)
  /-- About to fill the slot under the cursor. -/
  | storing (value : α)
  /-- About to publish the value just stored. -/
  | publishing
deriving Repr, DecidableEq

/-- Where the reader stands inside a pop. -/
inductive ReaderPhase (α : Type) where
  /-- Between two pops. -/
  | ready
  /-- About to look at the writer's total, because the last look left nothing to take. -/
  | looking
  /-- About to read the slot under the cursor. -/
  | taking
  /-- About to give back the slot just read. -/
  | publishing (value : Option α)
  /-- About to move the cursor on. -/
  | advancing (value : Option α)
deriving Repr, DecidableEq

/-- A ring shared by two parties, each somewhere inside a call of its own. -/
structure Exchange (α : Type) where
  ring : Ring α
  writer : WriterPhase α
  reader : ReaderPhase α
deriving Repr, DecidableEq

/-- Whose access comes next. A writer between two pushes begins one with `value`. -/
inductive Access (α : Type) where
  | writer (value : α)
  | reader
deriving Repr, DecidableEq

/-- The call that an access completes, with its answer. -/
inductive Answer (α : Type) where
  | pushed (offer : Offer α)
  | popped (value : Option α)
deriving Repr, DecidableEq

namespace Exchange

/-- A fresh ring with both parties between calls. -/
def start (ring : Ring α) : Exchange α where
  ring := ring
  writer := .ready
  reader := .ready

/-- The writer's next access. Beginning a push reads only what the writer itself owns. -/
def writerStep (shared : Exchange α) (value : α) : Option (Answer α) × Exchange α :=
  match shared.writer with
  | .ready =>
      if shared.ring.looksFull then
        (none, { shared with writer := .looking value })
      else
        (none, { shared with writer := .storing value })
  | .looking held =>
      let ring := shared.ring.refreshPopped
      if ring.looksFull then
        (some (.pushed (.rejected held)), { shared with ring := ring, writer := .ready })
      else
        (none, { shared with ring := ring, writer := .storing held })
  | .storing held =>
      (none, { shared with ring := shared.ring.store held, writer := .publishing })
  | .publishing =>
      (some (.pushed .accepted),
        { shared with ring := shared.ring.publishPush, writer := .ready })

/-- The reader's next access. Beginning a pop reads only what the reader itself owns. -/
def readerStep (shared : Exchange α) : Option (Answer α) × Exchange α :=
  match shared.reader with
  | .ready =>
      if shared.ring.looksEmpty then
        (none, { shared with reader := .looking })
      else
        (none, { shared with reader := .taking })
  | .looking =>
      let ring := shared.ring.refreshPushed
      if ring.looksEmpty then
        (some (.popped none), { shared with ring := ring, reader := .ready })
      else
        (none, { shared with ring := ring, reader := .taking })
  | .taking =>
      let value := shared.ring.front?
      (none, { shared with ring := shared.ring.vacate, reader := .publishing value })
  | .publishing value =>
      (none, { shared with ring := shared.ring.publishPop, reader := .advancing value })
  | .advancing value =>
      (some (.popped value), { shared with ring := shared.ring.advanceReader, reader := .ready })

/-- One access of either party, with the answer of the call that it completes. -/
def step (shared : Exchange α) : Access α → Option (Answer α) × Exchange α
  | .writer value => shared.writerStep value
  | .reader => shared.readerStep

/-- The answers of the calls completed by a sequence of accesses, in the order of completion. -/
def run : List (Access α) → Exchange α → List (Answer α) × Exchange α
  | [], shared => ([], shared)
  | access :: rest, shared =>
      let (answer, shared) := shared.step access
      let (answers, shared) := run rest shared
      (answer.toList ++ answers, shared)

end Exchange

/-- A writer with values still to hand over and a reader collecting what it takes. -/
structure Transfer (α : Type) where
  shared : Exchange α
  waiting : List α
  received : Array α

namespace Transfer

/-- The writer's next access: it offers its first value until that is taken. -/
def writerTurn (transfer : Transfer α) : Transfer α :=
  match transfer.waiting with
  | [] => transfer
  | value :: rest =>
      match transfer.shared.step (.writer value) with
      | (some (.pushed .accepted), shared) => { transfer with shared := shared, waiting := rest }
      | (_, shared) => { transfer with shared := shared }

/-- The reader's next access: it keeps what a completed pop returned. -/
def readerTurn (transfer : Transfer α) : Transfer α :=
  match transfer.shared.step .reader with
  | (some (.popped (some value)), shared) =>
      { transfer with shared := shared, received := transfer.received.push value }
  | (_, shared) => { transfer with shared := shared }

/-- Alternates the two parties until `total` values have arrived or the turns run out. -/
def alternate (total : Nat) : Nat → Transfer α → Transfer α
  | 0, transfer => transfer
  | turns + 1, transfer =>
      if transfer.received.size < total then
        alternate total turns transfer.writerTurn.readerTurn
      else
        transfer

/-- Turns enough for every value: a push takes at most four accesses and a pop at most five, and
each party can keep the other waiting for no more than two calls a value.
-/
def turnsFor (count : Nat) : Nat :=
  16 * (count + 1)

/-- Moves all of `values` through a ring, the two parties alternating. -/
def complete (ring : Ring α) (values : List α) : Transfer α :=
  alternate values.length (turnsFor values.length)
    { shared := .start ring, waiting := values, received := #[] }

end Transfer

end Crossbar
