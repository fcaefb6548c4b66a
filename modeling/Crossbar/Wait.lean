/-! Waiting by repeated attempts. A wait carries something from one attempt to the next, reads
the clock after each failure, and gives up only there. Clock readings and durations count
nanoseconds.
-/

namespace Crossbar

/-- A length of time in seconds and further nanoseconds. -/
structure Span where
  secs : Nat
  nanos : Nat
deriving Repr, DecidableEq

/-- The whole length in nanoseconds. -/
def Span.total (span : Span) : Nat :=
  span.secs * 1000000000 + span.nanos

/-- The span of `count` milliseconds. -/
def Span.ofMillis (count : Nat) : Span where
  secs := count / 1000
  nanos := count % 1000 * 1000000

/-- How long a wait may last. -/
inductive Timeout where
  | infinite
  | within (span : Span)
deriving Repr, DecidableEq

/-- Number of distinct clock readings, 2^64. -/
def clockRange : Nat := 0x10000000000000000

/-- The clock reading at which a wait that starts at `start` may end. The clock keeps a span
modulo its own range, and a reading past that range never comes.
-/
def Timeout.deadline (start : Nat) : Timeout → Option Nat
  | .infinite => none
  | .within span =>
      let reading := start + span.total % clockRange
      if reading < clockRange then some reading else none

/-- When a reading of the clock ends a wait: once the deadline is reached, or only after it. -/
inductive Patience where
  | untilReached
  | untilPassed
deriving Repr, DecidableEq

/-- Whether a wait that is to end at `deadline` gives up on reading `now`. -/
def Patience.expired (patience : Patience) (deadline : Option Nat) (now : Nat) : Bool :=
  match patience, deadline with
  | _, none => false
  | .untilReached, some deadline => decide (deadline ≤ now)
  | .untilPassed, some deadline => decide (deadline < now)

/-- What happens between one failed attempt and the next: a reading of the clock, then whatever
the other parties do to the shared state.
-/
structure Turn (σ : Type) where
  now : Nat
  meanwhile : σ → σ

/-- How a wait stands: it has its answer, it gave up with what it carried, or it goes on. -/
inductive Waited (γ β : Type) where
  | done (answer : β)
  | gaveUp (carried : γ) (now : Nat)
  | waiting (carried : γ)
deriving Repr, DecidableEq

/-- The same outcome with another answer. -/
def Waited.map {γ β δ : Type} (f : β → δ) : Waited γ β → Waited γ δ
  | .done answer => .done (f answer)
  | .gaveUp carried now => .gaveUp carried now
  | .waiting carried => .waiting carried

/-- Makes an attempt, and after each one that fails looks at the clock, gives up or lets the
others act, and tries again with what the attempt handed back.
-/
def await {γ β σ : Type} (patience : Patience) (deadline : Option Nat)
    (attempt : γ → σ → Except γ β × σ)
    : List (Turn σ) → γ → σ → Waited γ β × σ
  | turns, carried, state =>
      match attempt carried state with
      | (.ok answer, state) => (.done answer, state)
      | (.error carried, state) =>
          match turns with
          | [] => (.waiting carried, state)
          | turn :: turns =>
              if patience.expired deadline turn.now then
                (.gaveUp carried turn.now, state)
              else
                await patience deadline attempt turns carried (turn.meanwhile state)

/-- The turns of a wait that begins at `start` while one other party acts `delay` after it: the
clock is read at the start, at the deadline and just after it, and the act comes between the
readings around it.
-/
def turnsAround {σ : Type} (start : Nat) (deadline : Option Nat) (delay : Nat) (act : σ → σ)
    : List (Turn σ) :=
  match deadline with
  | none => [⟨start, act⟩]
  | some reading =>
      if start + delay ≤ reading then
        [⟨start, act⟩, ⟨reading, id⟩, ⟨reading + 1, id⟩]
      else
        [⟨start, id⟩, ⟨reading, id⟩, ⟨reading + 1, id⟩]

/-- The turns of a wait during which nobody else acts. -/
def quietTurns {σ : Type} (start : Nat) (deadline : Option Nat) : List (Turn σ) :=
  turnsAround start deadline 0 id

/-- A shared state beside the answer of another party that acts on it once. -/
structure Beside (δ σ : Type) where
  answer : Option δ
  state : σ

namespace Beside

variable {γ β δ σ : Type}

/-- The other party acts, unless it has acted before. -/
def act (once : σ → δ × σ) (beside : Beside δ σ) : Beside δ σ :=
  match beside.answer with
  | some _ => beside
  | none =>
      let (answer, state) := once beside.state
      ⟨some answer, state⟩

/-- An attempt made on the shared state. -/
def attempt (inner : γ → σ → Except γ β × σ) (carried : γ) (beside : Beside δ σ)
    : Except γ β × Beside δ σ :=
  let (result, state) := inner carried beside.state
  (result, { beside with state := state })

/-- What the other party has answered by the end. It acts now if it has not acted before. -/
def settle (once : σ → δ × σ) (beside : Beside δ σ) : δ × σ :=
  match beside.answer with
  | some answer => (answer, beside.state)
  | none => once beside.state

end Beside

/-- Waits while another party acts once, `delay` after the start of the wait or after its end. -/
def awaitBeside {γ β δ σ : Type} (patience : Patience) (timeout : Timeout) (start delay : Nat)
    (attempt : γ → σ → Except γ β × σ) (once : σ → δ × σ) (carried : γ) (state : σ)
    : Waited γ β × δ × σ :=
  let deadline := timeout.deadline start
  let (outcome, beside) :=
    await patience deadline (Beside.attempt attempt)
      (turnsAround start deadline delay (Beside.act once)) carried ⟨none, state⟩
  (outcome, beside.settle once)

/-- A wait has lasted if at least half of its nominal length went by. -/
def Timeout.lasted (timeout : Timeout) (elapsed : Nat) : Bool :=
  match timeout with
  | .infinite => false
  | .within span => decide (span.total ≤ 2 * elapsed)

end Crossbar
