import Crossbar.Fabric.Basic

/-! How a producer's values reach the consumers: to the next one in turn with room, or to one that
is named. Both go through single offers to a link, and a refused offer hands the value on.
-/

namespace Crossbar

/-- The answer to a push through a handle. -/
inductive PushAnswer (α : Type) where
  | accepted (consumer : Nat)
  | rejected (value : α)
  /-- The handle is no longer registered; the value goes down with the call. -/
  | failed (failure : Failure) (lost : α)
deriving Repr, DecidableEq

namespace PushAnswer

variable {α : Type}

def isAccepted : PushAnswer α → Bool
  | .accepted _ => true
  | _ => false

/-- The value that the caller has again. -/
def handedBack? : PushAnswer α → Option α
  | .rejected value => some value
  | _ => none

/-- The value that nobody has any more. -/
def lost? : PushAnswer α → Option α
  | .failed _ lost => some lost
  | _ => none

def failure? : PushAnswer α → Option Failure
  | .failed failure _ => some failure
  | _ => none

end PushAnswer

namespace Fabric

variable {α : Type}

/-- Offers a value to one link. -/
def offer (fabric : Fabric α) (link : Nat) (value : α) : Offer α × Fabric α :=
  match takeOut fabric.links link .blank with
  | (none, links) => (.rejected value, { fabric with links := links })
  | (some held, links) =>
      let (answer, held) := held.push value
      (answer, { fabric with links := links.setIfInBounds link held })

/-- Offers a value to each wired entry in turn until one takes it. -/
def offerAlong : List Wire → Fabric α → α → PushAnswer α × Fabric α
  | [], fabric, value => (.rejected value, fabric)
  | wire :: rest, fabric, value =>
      match fabric.offer wire.link value with
      | (.accepted, fabric) => (.accepted wire.position, fabric)
      | (.rejected value, fabric) => offerAlong rest fabric value

/-- Offers a value along a walk of a row, without listing the entries behind the one that takes
it.
-/
def offerRun (row : Row) (first : Nat) : Nat → Fabric α → α → PushAnswer α × Fabric α
  | 0, fabric, value => (.rejected value, fabric)
  | count + 1, fabric, value =>
      match row.link? first with
      | none => (.rejected value, fabric)
      | some link =>
          match fabric.offer link value with
          | (.accepted, fabric) => (.accepted first, fabric)
          | (.rejected value, fabric) => offerRun row (first + 1) count fabric value

/-- Offers a value along a sweep of a row. -/
def offerSweep (row : Row) (cursor : Nat) (fabric : Fabric α) (value : α)
    : PushAnswer α × Fabric α :=
  let start := min cursor row.width
  match offerRun row start (row.width - start) fabric value with
  | (.rejected value, fabric) => offerRun row 0 start fabric value
  | answered => answered

theorem offerRun_eq (row : Row) (first count : Nat) (fabric : Fabric α) (value : α)
    : offerRun row first count fabric value = offerAlong (row.run first count) fabric value := by
  induction count generalizing first fabric value with
  | zero => rfl
  | succ count ih =>
      rw [offerRun, Row.run]
      cases row.link? first with
      | none => rfl
      | some link => simp only [offerAlong, ih]

/-- What one list of entries refuses goes on to the next. -/
theorem offerAlong_append (front back : List Wire) (fabric : Fabric α) (value : α)
    : offerAlong (front ++ back) fabric value
        = match offerAlong front fabric value with
          | (.rejected value, fabric) => offerAlong back fabric value
          | answered => answered := by
  induction front generalizing fabric value with
  | nil => rfl
  | cons wire rest ih =>
      rw [List.cons_append, offerAlong, offerAlong]
      split
      · rfl
      · exact ih _ _

/-- A sweep offers the value to the entries that it lists, in that order. -/
theorem offerSweep_eq (row : Row) (cursor : Nat) (fabric : Fabric α) (value : α)
    : offerSweep row cursor fabric value = offerAlong (row.sweep cursor) fabric value := by
  rw [Row.sweep, offerAlong_append, offerSweep]
  simp only [offerRun_eq]

/-- Pushes to the next consumer in turn that has room, starting just after the one that took the
previous value.
-/
def push (fabric : Fabric α) (sender : Sender) (value : α)
    : PushAnswer α × Sender × Fabric α :=
  if fabric.isRegistered sender then
    match offerSweep (fabric.producerRow sender.slot) sender.cursor fabric value with
    | (.accepted consumer, fabric) =>
        (.accepted consumer, { sender with cursor := consumer + 1 }, fabric)
    | (answer, fabric) => (answer, sender, fabric)
  else
    (.failed (.unregisteredPush sender.slot) value, sender, fabric)

/-- Pushes to one consumer, without turning to another and without moving the cursor. -/
def pushTo (fabric : Fabric α) (sender : Sender) (consumer : Nat) (value : α)
    : PushAnswer α × Fabric α :=
  if fabric.isRegistered sender then
    match (fabric.producerRow sender.slot).link? consumer with
    | none => (.rejected value, fabric)
    | some link =>
        match fabric.offer link value with
        | (.accepted, fabric) => (.accepted consumer, fabric)
        | (.rejected value, fabric) => (.rejected value, fabric)
  else
    (.failed (.unregisteredPush sender.slot) value, fabric)

end Fabric

/-- A sender at work on its fabric. -/
structure Writing (α : Type) where
  fabric : Fabric α
  sender : Sender

namespace Writing

variable {α : Type}

/-- One push: by fan-out, or to one consumer if one is named. -/
def push (writing : Writing α) (consumer : Option Nat) (value : α) : PushAnswer α × Writing α :=
  match consumer with
  | none =>
      let (answer, sender, fabric) := writing.fabric.push writing.sender value
      (answer, ⟨fabric, sender⟩)
  | some consumer =>
      let (answer, fabric) := writing.fabric.pushTo writing.sender consumer value
      (answer, { writing with fabric := fabric })

/-- The loop of `pushEach`, with the answers so far. -/
def pushEachOnto (consumer : Option Nat)
    : List α → Array (PushAnswer α) → Writing α → Array (PushAnswer α) × Writing α
  | [], answers, writing => (answers, writing)
  | value :: rest, answers, writing =>
      match writing.push consumer value with
      | (.failed failure lost, writing) => (answers.push (.failed failure lost), writing)
      | (answer, writing) => pushEachOnto consumer rest (answers.push answer) writing

/-- Pushes values one by one, whether or not some are refused. The first failure ends it. -/
def pushEach (consumer : Option Nat) (values : List α) (writing : Writing α)
    : List (PushAnswer α) × Writing α :=
  let (answers, writing) := pushEachOnto consumer values #[] writing
  (answers.toList, writing)

/-- Earlier answers stay in front, because the loop only adds at the end. -/
theorem pushEachOnto_eq (consumer : Option Nat) (values : List α)
    (answers : Array (PushAnswer α)) (writing : Writing α)
    : pushEachOnto consumer values answers writing
        = (answers ++ (writing.pushEach consumer values).1.toArray,
            (writing.pushEach consumer values).2) := by
  induction values generalizing answers writing with
  | nil => simp [pushEach, pushEachOnto]
  | cons value rest ih =>
      simp only [pushEach, pushEachOnto]
      split
      · simp
      · next answer next _ _ =>
          rw [ih (answers.push answer), ih (#[].push answer)]
          simp

/-- One push, and then the others unless it failed. -/
theorem pushEach_cons (consumer : Option Nat) (value : α) (rest : List α) (writing : Writing α)
    : pushEach consumer (value :: rest) writing
        = match writing.push consumer value with
          | (.failed failure lost, writing) => ([.failed failure lost], writing)
          | (answer, writing) =>
              (answer :: (writing.pushEach consumer rest).1,
                (writing.pushEach consumer rest).2) := by
  rw [pushEach, pushEachOnto]
  rcases writing.push consumer value with ⟨answer, next⟩
  cases answer <;> simp [pushEachOnto_eq]

end Writing

end Crossbar
