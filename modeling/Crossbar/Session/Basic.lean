import Crossbar.Fabric.Registration
import Crossbar.Fabric.Reading

/-! A session works on several fabrics of one shape through numbered handles. A handle that its
owner has let go keeps its number and can no longer be used.
-/

namespace Crossbar

/-- A handle that has been issued, and whether its owner still holds it. -/
structure Issued (η : Type) where
  handle : η
  held : Bool
deriving Repr, DecidableEq

/-- The fabrics of a session, with a gap for each configuration that was refused, and all handles
ever issued on them, in the order of issue.
-/
structure Session (α : Type) where
  fabrics : Array (Option (Fabric α))
  senders : Array (Issued Sender)
  receivers : Array (Issued Receiver)

namespace Session

variable {α : Type}

/-- The fabric of a number, unless its configuration was refused. -/
def fabric? (session : Session α) (number : Nat) : Option (Fabric α) :=
  session.fabrics[number]?.join

/-- The sender of a number, if it is still held. -/
def sender? (session : Session α) (number : Nat) : Option Sender :=
  match session.senders[number]? with
  | some issued => if issued.held then some issued.handle else none
  | none => none

/-- The receiver of a number, if it is still held. -/
def receiver? (session : Session α) (number : Nat) : Option Receiver :=
  match session.receivers[number]? with
  | some issued => if issued.held then some issued.handle else none
  | none => none

/-- The fabric of a number, taken out of the session to be worked on and put back by `setFabric`. -/
def lend (session : Session α) (number : Nat) : Option (Fabric α) × Session α :=
  let (fabric, fabrics) := takeOut session.fabrics number none
  (fabric.join, { session with fabrics := fabrics })

def setFabric (session : Session α) (number : Nat) (fabric : Fabric α) : Session α :=
  { session with fabrics := session.fabrics.setIfInBounds number (some fabric) }

def setSender (session : Session α) (number : Nat) (sender : Sender) : Session α :=
  { session with senders := session.senders.setIfInBounds number ⟨sender, true⟩ }

def setReceiver (session : Session α) (number : Nat) (receiver : Receiver) : Session α :=
  { session with receivers := session.receivers.setIfInBounds number ⟨receiver, true⟩ }

/-- Lending what is not there changes nothing. -/
theorem lend_of_none {session : Session α} {number : Nat} (h : session.fabric? number = none)
    : session.lend number = (none, session) := by
  have hsame : session.fabrics.setIfInBounds number none = session.fabrics := by
    apply Array.ext_getElem?
    intro other
    rw [Array.getElem?_setIfInBounds]
    by_cases ho : number = other
    · subst ho
      by_cases hb : number < session.fabrics.size
      · rw [fabric?, Array.getElem?_eq_getElem hb] at h
        simp [hb, show session.fabrics[number] = none from h]
      · simp [hb]
    · rw [if_neg ho]
  rw [lend, takeOut, hsame]
  exact congrArg (·, session) h

/-- A fabric that is put back replaces the one that was lent. -/
@[simp] theorem setFabric_lend (session : Session α) (number : Nat) (fabric : Fabric α)
    : (session.lend number).2.setFabric number fabric = session.setFabric number fabric := by
  simp only [setFabric, lend, setIfInBounds_takeOut]

/-- What the creation of fabrics answers, one after the other, the first one numbered `id`. -/
def createFrom (shape : Shape) (id : Nat)
    : List Config → List (Except ConfigFault (Fabric α × Event))
  | [] => []
  | config :: rest => Fabric.create id shape config :: createFrom shape (id + 1) rest

/-- A session on new fabrics of one shape, before any handle has been issued. -/
def start (shape : Shape) (configs : List Config) : Session α where
  fabrics :=
    ((createFrom shape 0 configs).map fun
      | .ok (fabric, _) => some fabric
      | .error _ => none).toArray
  senders := #[]
  receivers := #[]

/-- The counts of every fabric. -/
def counts (session : Session α) : List (Option Counts) :=
  session.fabrics.toList.map fun fabric => fabric.map Fabric.counts

/-- What each fabric still holds, torn down one after the other once all handles are gone. -/
def release (session : Session α) : List (List α) :=
  session.fabrics.toList.map fun
    | some fabric => fabric.release
    | none => []

end Session

end Crossbar
