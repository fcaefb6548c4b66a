import Crossbar.Proofs.FabricHistory
import Crossbar.Session.Step

/-! The histories of a session, one for each fabric. Handles come and go without a trace in them: an
operation is recorded with the slot of the handle it used, and only in the fabric that issued the
handle.
-/

namespace Crossbar.Session

variable {α : Type}

/-- The histories in which `more` comes last for one fabric. -/
def extend (histories : Nat → List (Passage α)) (number : Nat) (more : List (Passage α))
    : Nat → List (Passage α) :=
  fun other => histories other ++ if number = other then more else []

/-- A session follows histories if each of its fabrics follows the history of its number, with the
configuration of that number, and nothing is recorded where there is no fabric.
-/
structure Follows (configs : List Config) (session : Session α)
    (histories : Nat → List (Passage α)) : Prop where
  fabric
    : ∀ {number fabric},
        session.fabric? number = some fabric
        → ∃ config,
            configs[number]? = some config ∧ fabric.Follows config (histories number)
  absent : ∀ {number}, session.fabric? number = none → histories number = []

section Follows

variable {configs : List Config} {session : Session α} {histories : Nat → List (Passage α)}

/-- Only the fabrics matter to what a session follows, not its handles. -/
theorem Follows.of_fabrics {after : Session α} (follows : session.Follows configs histories)
    (same : after.fabrics = session.fabrics)
    : after.Follows configs histories := by
  have hfabric (number : Nat) : after.fabric? number = session.fabric? number := by
    rw [fabric?, fabric?, same]
  constructor
  · intro number fabric found
    rw [hfabric] at found
    exact follows.fabric found
  · intro number gap
    rw [hfabric] at gap
    exact follows.absent gap

/-- A fabric that is put in the place of another is the only one that changes. -/
theorem fabric?_setFabric {number : Nat} {fabric : Fabric α}
    (found : session.fabric? number = some fabric) (next : Fabric α) (other : Nat)
    : (session.setFabric number next).fabric? other
        = if number = other then some next else session.fabric? other := by
  have hlt : number < session.fabrics.size := by
    rw [fabric?] at found
    by_cases hlt : number < session.fabrics.size
    · exact hlt
    · rw [Array.getElem?_eq_none (Nat.le_of_not_lt hlt)] at found
      cases found
  rw [fabric?, setFabric, Array.getElem?_setIfInBounds]
  split
  · next hsame =>
      subst hsame
      rfl
  · rfl

/-- Work on one fabric extends the history of that fabric. -/
theorem Follows.setFabric (follows : session.Follows configs histories) {number : Nat}
    {fabric next : Fabric α} (found : session.fabric? number = some fabric) {config : Config}
    (configured : configs[number]? = some config) {more : List (Passage α)}
    (followed : next.Follows config (histories number ++ more))
    : (session.setFabric number next).Follows configs (extend histories number more) where
  fabric := by
    intro other fabric' found'
    rw [fabric?_setFabric found] at found'
    rw [extend]
    split at found'
    · next hsame =>
        subst hsame
        obtain rfl := Option.some.inj found'
        rw [if_pos rfl]
        exact ⟨config, configured, followed⟩
    · next hother =>
        rw [if_neg hother, List.append_nil]
        exact follows.fabric found'
  absent := by
    intro other gap
    rw [fabric?_setFabric found] at gap
    rw [extend]
    split at gap
    · cases gap
    · next hother =>
        rw [if_neg hother, List.append_nil]
        exact follows.absent gap

-----------------------------------------------------------------------------------------
-- A handle at work borrows the fabric that issued it
-----------------------------------------------------------------------------------------

/-- A fabric that is lent comes with a session to put it back into. -/
theorem lend_of_some {session : Session α} {number : Nat} {fabric : Fabric α}
    (found : session.fabric? number = some fabric)
    : ∃ lent,
        session.lend number = (some fabric, lent)
        ∧ ∀ next, lent.setFabric number next = session.setFabric number next := by
  refine ⟨(session.lend number).2, Prod.ext found rfl, ?_⟩
  intro next
  exact setFabric_lend session number next

/-- A sender that is held works on its fabric, as long as its work leaves it with that fabric. -/
theorem withWriting_of_held {β : Type} {session : Session α} {number : Nat} {sender : Sender}
    {fabric : Fabric α} (hsender : session.sender? number = some sender)
    (hfabric : session.fabric? sender.fabric = some fabric) {work : Writing α → β × Writing α}
    (kept : (work ⟨fabric, sender⟩).2.sender.fabric = sender.fabric) (reply : β → Reply α)
    : session.withWriting number work reply
        = .quiet (reply (work ⟨fabric, sender⟩).1)
            (session.keepWriting number (work ⟨fabric, sender⟩).2) := by
  obtain ⟨lent, hlend, hput⟩ := lend_of_some hfabric
  simp only [withWriting, hsender, hlend, keepWriting, kept, hput]

/-- Without a sender or a fabric no work is done. -/
theorem withWriting_cases {β : Type} (session : Session α) (number : Nat)
    (work : Writing α → β × Writing α) (reply : β → Reply α)
    : session.withWriting number work reply = .quiet .noSuchHandle session
      ∨ ∃ sender fabric,
          session.sender? number = some sender
          ∧ session.fabric? sender.fabric = some fabric := by
  simp only [withWriting]
  cases hsender : session.sender? number with
  | none => exact .inl rfl
  | some sender =>
      cases hfabric : session.fabric? sender.fabric with
      | none =>
          simp only [lend_of_none hfabric]
          exact .inl trivial
      | some fabric => exact .inr ⟨sender, fabric, rfl, hfabric⟩

/-- A receiver that is held works on its fabric, as long as its work leaves it with that fabric. -/
theorem withReading_of_held {β : Type} {session : Session α} {number : Nat}
    {receiver : Receiver} {fabric : Fabric α}
    (hreceiver : session.receiver? number = some receiver)
    (hfabric : session.fabric? receiver.fabric = some fabric)
    {work : Reading α → β × Reading α}
    (kept : (work ⟨fabric, receiver, #[]⟩).2.receiver.fabric = receiver.fabric)
    (reply : β → Reply α)
    : session.withReading number work reply
        = { reply := reply (work ⟨fabric, receiver, #[]⟩).1
            discarded := (work ⟨fabric, receiver, #[]⟩).2.discarded.toList
            log := []
            session := session.keepReading number (work ⟨fabric, receiver, #[]⟩).2 } := by
  obtain ⟨lent, hlend, hput⟩ := lend_of_some hfabric
  simp only [withReading, hreceiver, hlend, keepReading, kept, hput]

/-- Without a receiver or a fabric no work is done. -/
theorem withReading_cases {β : Type} (session : Session α) (number : Nat)
    (work : Reading α → β × Reading α) (reply : β → Reply α)
    : session.withReading number work reply = .quiet .noSuchHandle session
      ∨ ∃ receiver fabric,
          session.receiver? number = some receiver
          ∧ session.fabric? receiver.fabric = some fabric := by
  simp only [withReading]
  cases hreceiver : session.receiver? number with
  | none => exact .inl rfl
  | some receiver =>
      cases hfabric : session.fabric? receiver.fabric with
      | none =>
          simp only [lend_of_none hfabric]
          exact .inl trivial
      | some fabric => exact .inr ⟨receiver, fabric, rfl, hfabric⟩

/-- What a sender's work passes extends the history of its fabric. -/
theorem Follows.keepWriting (follows : session.Follows configs histories) {number : Nat}
    {fabric : Fabric α} (found : session.fabric? number = some fabric) {config : Config}
    (configured : configs[number]? = some config) {writing : Writing α}
    (kept : writing.sender.fabric = number) {more : List (Passage α)}
    (followed : writing.fabric.Follows config (histories number ++ more)) (place : Nat)
    : (session.keepWriting place writing).Follows configs (extend histories number more) := by
  subst kept
  exact (follows.setFabric found configured followed).of_fabrics rfl

/-- What a receiver's work passes extends the history of its fabric. -/
theorem Follows.keepReading (follows : session.Follows configs histories) {number : Nat}
    {fabric : Fabric α} (found : session.fabric? number = some fabric) {config : Config}
    (configured : configs[number]? = some config) {reading : Reading α}
    (kept : reading.receiver.fabric = number) {more : List (Passage α)}
    (followed : reading.fabric.Follows config (histories number ++ more)) (place : Nat)
    : (session.keepReading place reading).Follows configs (extend histories number more) := by
  subst kept
  exact (follows.setFabric found configured followed).of_fabrics rfl

end Follows

-----------------------------------------------------------------------------------------
-- An operation on slots hands no value to anybody
-----------------------------------------------------------------------------------------

/-- An answer without a value in it. -/
def Reply.isSilent : Reply α → Bool
  | .pushed _ | .pushedEach _ | .popped _ | .poppedMany _ | .poppedAll _ | .waited _
  | .besidePush _ _ => false
  | _ => true

/-- The outcome of an operation on the slots of one fabric: it logs what the operation logged and
puts the fabric back, without handing any value to anybody.
-/
structure Outcome.Enrols {β : Type} (session : Session α) (number : Nat)
    (enrolled : Enrolment β α) (outcome : Outcome α) : Prop where
  silent : outcome.reply.isSilent = true
  discarded : outcome.discarded = []
  log : outcome.log = enrolled.log
  fabrics : outcome.session.fabrics = (session.setFabric number enrolled.fabric).fabrics

theorem registerProducer_cases (session : Session α) (number : Nat)
    : (session.fabric? number = none
        ∧ session.registerProducer number = .quiet .noSuchFabric session)
      ∨ ∃ fabric,
          session.fabric? number = some fabric
          ∧ (session.registerProducer number).Enrols session number fabric.registerProducer := by
  rw [registerProducer]
  cases hfabric : session.fabric? number with
  | none =>
      rw [lend_of_none hfabric]
      exact .inl ⟨rfl, rfl⟩
  | some fabric =>
      obtain ⟨lent, hlend, hput⟩ := lend_of_some hfabric
      refine .inr ⟨fabric, rfl, ?_⟩
      rw [hlend]
      simp only [hput]
      split <;> exact ⟨rfl, rfl, rfl, rfl⟩

theorem registerConsumer_cases (session : Session α) (number : Nat)
    : (session.fabric? number = none
        ∧ session.registerConsumer number = .quiet .noSuchFabric session)
      ∨ ∃ fabric,
          session.fabric? number = some fabric
          ∧ (session.registerConsumer number).Enrols session number fabric.registerConsumer := by
  rw [registerConsumer]
  cases hfabric : session.fabric? number with
  | none =>
      rw [lend_of_none hfabric]
      exact .inl ⟨rfl, rfl⟩
  | some fabric =>
      obtain ⟨lent, hlend, hput⟩ := lend_of_some hfabric
      refine .inr ⟨fabric, rfl, ?_⟩
      rw [hlend]
      simp only [hput]
      split <;> exact ⟨rfl, rfl, rfl, rfl⟩

theorem unregisterVia_cases (session : Session α) (number : Nat) (sender : Sender)
    : (session.fabric? number = none
        ∧ session.unregisterVia number sender = .quiet .noSuchFabric session)
      ∨ ∃ fabric,
          session.fabric? number = some fabric
          ∧ (session.unregisterVia number sender).Enrols session number
              (fabric.unregister sender) := by
  rw [unregisterVia]
  cases hfabric : session.fabric? number with
  | none =>
      rw [lend_of_none hfabric]
      exact .inl ⟨rfl, rfl⟩
  | some fabric =>
      obtain ⟨lent, hlend, hput⟩ := lend_of_some hfabric
      refine .inr ⟨fabric, rfl, ?_⟩
      rw [hlend]
      simp only [hput]
      split <;> exact ⟨rfl, rfl, rfl, rfl⟩

/-- An operation on the slots of a fabric extends its history by what the operation passes. -/
theorem Follows.enrol {configs : List Config} {session : Session α}
    {histories : Nat → List (Passage α)} (follows : session.Follows configs histories)
    {β : Type} {number : Nat} {fabric : Fabric α}
    (found : session.fabric? number = some fabric) {config : Config}
    (configured : configs[number]? = some config) {enrolled : Enrolment β α}
    {outcome : Outcome α} (enrols : outcome.Enrols session number enrolled)
    {more : List (Passage α)}
    (followed : enrolled.fabric.Follows config (histories number ++ more))
    : outcome.session.Follows configs (extend histories number more) :=
  (follows.setFabric found configured followed).of_fabrics enrols.fabrics

theorem extend_nil (histories : Nat → List (Passage α)) (number : Nat)
    : extend histories number [] = histories := by
  funext other
  rw [extend, ite_self, List.append_nil]

/-- An operation on the slots of a fabric that means nothing for the links keeps the histories. -/
theorem Follows.enrol_quiet {configs : List Config} {session : Session α}
    {histories : Nat → List (Passage α)} (follows : session.Follows configs histories)
    {β : Type} {number : Nat} {fabric : Fabric α}
    (found : session.fabric? number = some fabric) {config : Config}
    (configured : configs[number]? = some config) {enrolled : Enrolment β α}
    {outcome : Outcome α} (enrols : outcome.Enrols session number enrolled)
    (followed : enrolled.fabric.Follows config (histories number))
    : outcome.session.Follows configs histories := by
  rw [← extend_nil histories number]
  apply follows.enrol found configured enrols
  rwa [List.append_nil]

-----------------------------------------------------------------------------------------
-- Every history is empty at the start
-----------------------------------------------------------------------------------------

/-- What a session starts with: the fabric of each configuration that is not refused. -/
theorem createFrom_getElem? (shape : Shape) (id : Nat) (configs : List Config) (number : Nat)
    : (createFrom shape id configs : List (Except ConfigFault (Fabric α × Event)))[number]?
        = configs[number]?.map fun config => Fabric.create (id + number) shape config := by
  induction configs generalizing id number with
  | nil => rfl
  | cons config rest ih =>
      cases number with
      | zero => rfl
      | succ number =>
          rw [createFrom, List.getElem?_cons_succ, List.getElem?_cons_succ, ih, Nat.add_assoc,
            Nat.add_comm 1 number]

/-- A session starts with empty histories. -/
theorem follows_start (shape : Shape) (configs : List Config)
    : (start shape configs : Session α).Follows configs (fun _ => []) where
  fabric := by
    intro number fabric found
    rw [fabric?, start, List.getElem?_toArray, List.getElem?_map, createFrom_getElem?] at found
    cases hconfig : configs[number]? with
    | none =>
        rw [hconfig] at found
        cases found
    | some config =>
        rw [hconfig] at found
        refine ⟨config, rfl, ?_⟩
        cases hcreate : (Fabric.create (0 + number) shape config
          : Except ConfigFault (Fabric α × Event)) with
        | error fault =>
            simp only [Option.map_some, hcreate, Option.join_some, reduceCtorEq] at found
        | ok created =>
            obtain ⟨fresh, event⟩ := created
            simp only [Option.map_some, hcreate, Option.join_some] at found
            obtain rfl := Option.some.inj found
            exact Fabric.follows_create hcreate
  absent := fun _ => rfl

end Crossbar.Session
