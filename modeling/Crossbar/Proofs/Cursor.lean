import Crossbar.Proofs.Likeness

/-! The cursor of a producer always stands among the consumers that its slot is wired to, or just
behind the last one. It stays there when a slot passes it from one occupant to the next, and when
consumers arrive.
-/

namespace Crossbar

variable {α : Type}

-----------------------------------------------------------------------------------------
-- Cursors that slots keep
-----------------------------------------------------------------------------------------

namespace Fabric

/-- No slot keeps a cursor past the consumers. -/
def Aligned (fabric : Fabric α) : Prop :=
  ∀ producer cursor, fabric.cursor? producer = some cursor → cursor ≤ fabric.consumerCount

variable {fabric : Fabric α}

/-- Where the cursors stay as they are and no consumer leaves, slots stay aligned. -/
theorem Aligned.of_cursors (aligned : fabric.Aligned) {after : Fabric α}
    (cursors : ∀ producer, after.cursor? producer = fabric.cursor? producer)
    (consumers : fabric.consumerCount ≤ after.consumerCount)
    : after.Aligned := by
  intro producer cursor kept
  rw [cursors] at kept
  exact Nat.le_trans (aligned producer cursor kept) consumers

theorem Aligned.worked (aligned : fabric.Aligned) {after : Fabric α}
    (only : OnlyLinks fabric after)
    : after.Aligned := by
  obtain ⟨links, _, rfl⟩ := only
  exact aligned.of_cursors (fun _ => rfl) (Nat.le_refl _)

/-- A slot may be replaced by one that keeps a cursor among the consumers. -/
theorem Aligned.setSlot (aligned : fabric.Aligned) {producer : Nat} {slot : ProducerSlot}
    (found : fabric.producers[producer]? = some slot) {changed : ProducerSlot}
    (cursor_le : changed.cursor ≤ fabric.consumerCount)
    : (fabric.setSlot producer changed).Aligned := by
  intro producer' cursor kept
  rw [cursor?_setSlot fabric found] at kept
  split at kept
  · obtain rfl := Option.some.inj kept
    exact cursor_le
  · exact aligned producer' cursor kept

theorem ConsumerEnrolled.aligned {enrolled : Enrolment (Registration Receiver) α}
    (enrols : fabric.ConsumerEnrolled enrolled) (aligned : fabric.Aligned)
    : enrolled.fabric.Aligned := by
  cases enrols with
  | refused => exact aligned
  | failed => exact aligned.of_cursors (fun _ => rfl) (Nat.le_refl _)
  | issued =>
      refine aligned.of_cursors (cursor?_addConsumer fabric _) ?_
      rw [consumerCount_addConsumer]
      exact Nat.le_succ _

/-- The new occupant of a slot starts where the last one stopped, that of a fresh slot in front. -/
theorem ProducerEnrolled.aligned {enrolled : Enrolment (Registration Sender) α}
    (enrols : fabric.ProducerEnrolled enrolled) (aligned : fabric.Aligned)
    : enrolled.fabric.Aligned
      ∧ ∀ sender,
          enrolled.answer = .issued sender → sender.cursor ≤ enrolled.fabric.consumerCount := by
  cases enrols with
  | @reissued producer _ rest slot links freed found size =>
      have hcursor : slot.cursor ≤ fabric.consumerCount :=
        aligned producer slot.cursor (by rw [cursor?, found, Option.map_some])
      have hsame : { fabric with links := links, freed := rest }.Aligned :=
        aligned.of_cursors (fun _ => rfl) (Nat.le_refl _)
      refine ⟨hsame.setSlot found hcursor, fun sender issued => ?_⟩
      obtain rfl := Registration.issued.inj issued
      exact hcursor
  | fresh spent taken =>
      cases taken with
      | refused | failed =>
          exact ⟨aligned.of_cursors (fun _ => rfl) (Nat.le_refl _), fun _ issued => by cases issued⟩
      | issued =>
          constructor
          · intro producer cursor kept
            rw [cursor?_addProducer] at kept
            rw [consumerCount_addProducer]
            split at kept
            · exact Option.some.inj kept ▸ Nat.zero_le _
            · exact aligned producer cursor kept
          · intro sender issued
            obtain rfl := Registration.issued.inj issued
            exact Nat.zero_le _

/-- A slot that is given back keeps the cursor of its last occupant. -/
theorem Ended.aligned {sender : Sender} {enrolled : Enrolment (Except UsageFault Unit) α}
    (ends : fabric.Ended sender enrolled) (aligned : fabric.Aligned)
    (cursor_le : sender.fabric = fabric.id → sender.cursor ≤ fabric.consumerCount)
    : enrolled.fabric.Aligned := by
  cases ends with
  | misused => exact aligned
  | ended own found =>
      have hsame : { fabric with freed := sender.slot :: fabric.freed }.Aligned :=
        aligned.of_cursors (fun _ => rfl) (Nat.le_refl _)
      exact hsame.setSlot found (cursor_le own)

/-- A consumer that accepts a value is one the slot of the sender is wired to. -/
theorem Wired.offerAlong_lt {fabric : Fabric α} (wired : fabric.Wired) {producer : Nat}
    {wires : List Wire}
    (named : ∀ wire ∈ wires, fabric.name? producer wire.position = some wire.link)
    (fabric' : Fabric α) (value : α) {consumer : Nat}
    (accepted : (offerAlong wires fabric' value).1 = .accepted consumer)
    : consumer < fabric.consumerCount := by
  induction wires generalizing fabric' value with
  | nil => cases accepted
  | cons wire rest ih =>
      rcases hresult : fabric'.offer wire.link value with ⟨_ | returned, next⟩
      · simp only [offerAlong, hresult, PushAnswer.accepted.injEq] at accepted
        have hname := named wire List.mem_cons_self
        have hwithin := (wired.grid.wired_iff producer wire.position).mp (by rw [hname]; rfl)
        exact accepted ▸ hwithin.2
      · simp only [offerAlong, hresult] at accepted
        exact ih (fun other member => named other (List.mem_cons_of_mem _ member)) next returned
          accepted

/-- A push leaves a cursor among the consumers. -/
theorem Wired.push_cursor_le (wired : fabric.Wired) (sender : Sender) (consumer : Option Nat)
    (value : α) (cursor_le : sender.cursor ≤ fabric.consumerCount)
    : (Writing.push ⟨fabric, sender⟩ consumer value).2.sender.cursor ≤ fabric.consumerCount := by
  cases consumer with
  | some consumer => exact cursor_le
  | none =>
      simp only [Writing.push, push, offerSweep_eq]
      have hlt {consumer : Nat}
          (accepted
            : (offerAlong ((fabric.producerRow sender.slot).sweep sender.cursor) fabric value).1
                = .accepted consumer)
          : consumer < fabric.consumerCount :=
        wired.offerAlong_lt (fun _ member => Row.link?_of_mem_sweep member) fabric value accepted
      split
      · split
        · next hresult => exact hlt (congrArg Prod.fst hresult)
        · exact cursor_le
      · exact cursor_le

end Fabric

-----------------------------------------------------------------------------------------
-- Cursors of senders
-----------------------------------------------------------------------------------------

namespace Session

variable {session : Session α} {operation : Operation α} {shape : Shape} {configs : List Config}

/-- Every cursor of a producer stands among the consumers, in the hands of a sender or kept by its
slot.
-/
structure Aligned (session : Session α) : Prop where
  slot : ∀ {number fabric}, session.fabric? number = some fabric → fabric.Aligned
  sender
    : ∀ {place : Nat} {issued : Issued Sender} {fabric : Fabric α},
        session.senders[place]? = some issued
        → session.fabric? issued.handle.fabric = some fabric
        → issued.handle.cursor ≤ fabric.consumerCount

/-- What becomes of a sender: it stays as it is, is new, or has pushed. -/
inductive Sent (session : Session α) (operation : Operation α) (outcome : Outcome α)
    (place : Nat) (sender : Sender) : Prop
  | kept {held : Bool} (before : session.senders[place]? = some ⟨sender, held⟩)
  | new {number : Nat} {fabric : Fabric α} (found : session.fabric? number = some fabric)
    (issued : fabric.registerProducer.answer = .issued sender)
    (after : outcome.session.fabric? number = some fabric.registerProducer.fabric)
  | pushed {before : Sender} {fabric : Fabric α} {consumer : Option Nat} {value : α}
    (asked : operation = .pushing place consumer value)
    (held : session.sender? place = some before)
    (found : session.fabric? before.fabric = some fabric)
    (moved : sender = (Writing.push ⟨fabric, before⟩ consumer value).2.sender)

theorem Transition.sent {outcome : Outcome α} (transition : session.Transition operation outcome)
    {place : Nat} {issued : Issued Sender}
    (found : outcome.session.senders[place]? = some issued)
    : session.Sent operation outcome place issued.handle := by
  cases transition with
  | missed | letGoReceiver | unregistered | popped => exact .kept found
  | @letGoSender place' sender held =>
      simp only [Outcome.quiet, dropSender, Array.getElem?_setIfInBounds] at found
      split at found
      · next here =>
          split at found
          · obtain rfl := Option.some.inj found
            exact .kept (here ▸ senders_of_held held)
          · cases found
      · exact .kept found
  | @consumer number fabric =>
      cases hanswer : fabric.registerConsumer.answer <;>
        simp only [hanswer, Outcome.logged, issueReceiver] at found <;> exact .kept found
  | @producer number fabric hfabric =>
      have hafter := (fabric?_setFabric hfabric fabric.registerProducer.fabric number).trans
        (if_pos rfl)
      simp only [Outcome.logged] at found
      cases hanswer : fabric.registerProducer.answer with
      | refused | failed =>
          rw [hanswer] at found
          exact .kept found
      | issued sender =>
          rw [hanswer] at found
          simp only [issueSender, setFabric, Array.getElem?_push] at found
          split at found
          · obtain rfl := Option.some.inj found
            exact .new hfabric hanswer ((fabric?_issueSender _ _ _).trans hafter)
          · exact .kept found
  | @pushed place' consumer value sender fabric held hfabric =>
      simp only [Outcome.quiet, keepWriting, setSender, setFabric,
        Array.getElem?_setIfInBounds] at found
      split at found
      · next here =>
          split at found
          · obtain rfl := Option.some.inj found
            subst here
            exact .pushed rfl held hfabric rfl
          · cases found
      · exact .kept found

theorem aligned_start (shape : Shape) (configs : List Config)
    : (start shape configs : Session α).Aligned where
  slot := by
    intro number fabric found
    obtain ⟨config, _, rfl⟩ := bare_of_start found
    intro producer cursor kept
    cases kept
  sender := fun held => by cases held

/-- Work on one fabric keeps the slots of all fabrics aligned. -/
theorem Aligned.slot_setFabric (aligned : session.Aligned) {number : Nat}
    {fabric next : Fabric α} (found : session.fabric? number = some fabric)
    (worked : next.Aligned) {other : Nat} {after : Fabric α}
    (hafter : (session.setFabric number next).fabric? other = some after)
    : after.Aligned := by
  rw [fabric?_setFabric found] at hafter
  split at hafter
  · obtain rfl := Option.some.inj hafter
    exact worked
  · exact aligned.slot hafter

/-- Senders get their cursors from slots, move them to consumers that accept, and hand them back. -/
theorem Aligned.transition {outcome : Outcome α} (aligned : session.Aligned)
    (housed : session.Housed shape configs) (transition : session.Transition operation outcome)
    : outcome.session.Aligned where
  slot := by
    intro other after hafter
    cases transition with
    | missed | letGoSender | letGoReceiver => exact aligned.slot hafter
    | @producer number fabric found =>
        rw [Outcome.logged, fabric?_issueSender] at hafter
        exact aligned.slot_setFabric found
          (fabric.producerEnrolled.aligned (aligned.slot found)).1 hafter
    | @consumer number fabric found =>
        rw [Outcome.logged, fabric?_issueReceiver] at hafter
        exact aligned.slot_setFabric found
          (fabric.consumerEnrolled.aligned (aligned.slot found)) hafter
    | @unregistered _ number place sender fabric _ held found =>
        refine aligned.slot_setFabric found
          ((fabric.ended sender).aligned (aligned.slot found) fun own => ?_) hafter
        obtain ⟨_, _, hinstalled⟩ := housed.fabric found
        have hnumber : sender.fabric = number := own.trans hinstalled.id_eq
        exact aligned.sender (senders_of_held held) (hnumber ▸ found)
    | @pushed place consumer value sender fabric _ found =>
        have hkept := congrArg Badge.fabric (push_badge ⟨fabric, sender⟩ consumer value)
        exact aligned.slot_setFabric found
          ((aligned.slot found).worked (onlyLinks_writing ⟨fabric, sender⟩ consumer value))
          ((fabric?_keepWriting session place hkept other).symm.trans hafter)
    | @popped place receiver fabric _ found =>
        have hkept := congrArg Seat.fabric (pop_seat ⟨fabric, receiver, #[]⟩)
        exact aligned.slot_setFabric found
          ((aligned.slot found).worked (fabric.onlyLinks_pop receiver))
          ((fabric?_keepReading session place hkept other).symm.trans hafter)
  sender := by
    intro place issued after found hafter
    have hgrown {number : Nat} {fabric : Fabric α} (hfabric : session.fabric? number = some fabric)
        (hnumber : issued.handle.fabric = number)
        : fabric.consumerCount ≤ after.consumerCount := by
      obtain ⟨next, _, hnext, _, _, hextends⟩ := housed.transition_fabric transition hfabric
      obtain rfl := Option.some.inj (hnext.symm.trans (hnumber ▸ hafter))
      exact hextends.consumers_le
    cases transition.sent found with
    | kept before =>
        rcases transition.fabric? issued.handle.fabric
          with ⟨_, gap⟩ | ⟨fabric, _, hfabric, _, _⟩
        · cases gap.symm.trans hafter
        · have hcursor := aligned.sender before hfabric
          exact Nat.le_trans hcursor (hgrown hfabric rfl)
    | @new number fabric hfabric hissued hput =>
        obtain ⟨_, _, hinstalled⟩ := housed.fabric hfabric
        have hown := (fabric.producerEnrolled.issued_within hissued).1.trans hinstalled.id_eq
        rw [hown, hput] at hafter
        obtain rfl := Option.some.inj hafter
        exact (fabric.producerEnrolled.aligned (aligned.slot hfabric)).2 _ hissued
    | @pushed before fabric consumer value _ held hfabric moved =>
        obtain ⟨_, _, hinstalled⟩ := housed.fabric hfabric
        have hown : issued.handle.fabric = before.fabric :=
          moved ▸ congrArg Badge.fabric (push_badge ⟨fabric, before⟩ consumer value)
        have hcursor := hinstalled.wired.push_cursor_le before consumer value
          (aligned.sender (senders_of_held held) hfabric)
        rw [← moved] at hcursor
        exact Nat.le_trans hcursor (hgrown hfabric hown)

/-- A run keeps all cursors among the consumers, by induction over its operations. -/
theorem Aligned.after (aligned : session.Aligned) (housed : session.Housed shape configs)
    (now : Nat) (operations : List (Operation α))
    : (session.after now operations).Aligned := by
  induction operations generalizing session with
  | nil => exact aligned
  | cons operation rest ih =>
      have htransition := step_transition now session operation
      exact ih (aligned.transition housed htransition) (housed.transition htransition)

end Session

end Crossbar
