import Mathlib.Logic.ExistsUnique
import Crossbar.Proofs.Completeness
import Crossbar.Proofs.Roll

/-! The registrations of a fabric over runs. Every operation does to the roll of a fabric what can
happen to a roll, so every run leaves it sound: one sender is registered for each slot that is not
free, none for a slot that is, and nobody else can write into the links of a slot.
-/

namespace Crossbar

variable {α : Type}

namespace Passage

/-- Whether a slot is issued again. -/
def reissues (producer : Nat) : Passage α → Bool
  | .reissued producer' => producer' == producer
  | _ => false

/-- How often a history has a slot issued again. -/
def reissueCount (history : List (Passage α)) (producer : Nat) : Nat :=
  history.countP (reissues producer)

theorem reissueCount_append (history more : List (Passage α)) (producer : Nat)
    : reissueCount (history ++ more) producer
        = reissueCount history producer + reissueCount more producer :=
  List.countP_append

theorem reissueCount_pos_of_mem {history : List (Passage α)} {producer : Nat}
    (member : .reissued producer ∈ history)
    : 0 < reissueCount history producer :=
  List.countP_pos_iff.mpr ⟨_, member, beq_self_eq_true producer⟩

end Passage

open Passage

namespace Fabric

/-- The ticket of a producer slot. -/
def ticket? (fabric : Fabric α) (producer : Nat) : Option Ticket :=
  fabric.producers[producer]?.map ProducerSlot.ticket

/-- A slot has a ticket if it has ever been allocated. -/
theorem ticket?_eq_none_iff {fabric : Fabric α} {producer : Nat}
    : fabric.ticket? producer = none ↔ fabric.producers[producer]? = none :=
  Option.map_eq_none_iff

/-- A slot that is there has a ticket. -/
theorem ticket?_of_lt {fabric : Fabric α} {producer : Nat}
    (within : producer < fabric.producerCount)
    : ∃ ticket, fabric.ticket? producer = some ticket :=
  ⟨fabric.producers[producer].ticket,
    Option.map_eq_some_iff.mpr ⟨_, Array.getElem?_eq_getElem within, rfl⟩⟩

theorem isRegistered_iff {fabric : Fabric α} {sender : Sender}
    : fabric.isRegistered sender = true ↔ fabric.ticket? sender.slot = some sender.ticket := by
  rw [isRegistered, ticket?]
  cases fabric.producers[sender.slot]? with
  | none => simp
  | some slot => simp

theorem ticket?_addConsumer (fabric : Fabric α) (total : Counter) (producer : Nat)
    : (fabric.addConsumer total).ticket? producer = fabric.ticket? producer := by
  simp only [ticket?, addConsumer, updateEach_eq_mapIdx, Array.getElem?_mapIdx, Option.map_map]
  rfl

theorem ticket?_addProducer (fabric : Fabric α) (total : Counter) (producer : Nat)
    : (fabric.addProducer total).ticket? producer
        = if producer = fabric.producerCount then some .first else fabric.ticket? producer := by
  simp only [ticket?, addProducer, Array.getElem?_push]
  split
  · next fresh => exact (if_pos fresh).symm
  · next other => exact (if_neg other).symm

theorem ticket?_setSlot (fabric : Fabric α) {producer : Nat} {slot : ProducerSlot}
    (found : fabric.producers[producer]? = some slot) (changed : ProducerSlot) (producer' : Nat)
    : (fabric.setSlot producer changed).ticket? producer'
        = if producer' = producer then some changed.ticket else fabric.ticket? producer' := by
  obtain ⟨within, _⟩ := Array.getElem?_eq_some_iff.mp found
  simp only [ticket?, setSlot, Array.getElem?_setIfInBounds]
  by_cases same : producer' = producer
  · simp [same, within]
  · simp [same, Ne.symm same]

/-- Both fabrics have the same slots free and the same tickets. -/
def SameRoll (before after : Fabric α) : Prop :=
  after.freed = before.freed ∧ ∀ producer, after.ticket? producer = before.ticket? producer

theorem OnlyLinks.sameRoll {before after : Fabric α} (only : OnlyLinks before after)
    : SameRoll before after := by
  obtain ⟨links, _, rfl⟩ := only
  exact ⟨rfl, fun _ => rfl⟩

theorem ConsumerEnrolled.sameRoll {fabric : Fabric α}
    {enrolled : Enrolment (Registration Receiver) α} (enrols : fabric.ConsumerEnrolled enrolled)
    : SameRoll fabric enrolled.fabric := by
  cases enrols with
  | refused | failed => exact ⟨rfl, fun _ => rfl⟩
  | issued => exact ⟨rfl, ticket?_addConsumer fabric _⟩

end Fabric

namespace Session

/-- What the sender of a number claims on a fabric, if it was issued there. -/
def claim? (session : Session α) (number place : Nat) : Option Claim :=
  (session.badge? place).bind fun badge =>
    if badge.fabric = number then some ⟨badge.slot, badge.ticket⟩ else none

/-- The roll of the fabric of a number, given its history. -/
def roll (session : Session α) (number : Nat) (fabric : Fabric α) (history : List (Passage α))
    : Roll where
  freed := fabric.freed
  ticket? := fabric.ticket?
  claim? := session.claim? number
  reissues := reissueCount history

/-- The sender of a number is still held by its owner. -/
def Holds (session : Session α) (place : Nat) : Prop :=
  (session.sender? place).isSome

/-- The sender whose registration an operation with this answer has ended, if it ended one. -/
def Operation.ending? : Operation α → Reply α → Option Nat
  | .unregister place, .done | .unregisterVia _ place, .done => some place
  | _, _ => none

/-- An operation with this outcome ends the registration of the sender of a number. -/
def Ends (session : Session α) (operation : Operation α) (outcome : Outcome α) (place : Nat)
    : Prop :=
  session.Holds place ∧ operation.ending? outcome.reply = some place

section Step

variable {session after : Session α} {number : Nat} {fabric next : Fabric α}
  {history passages : List (Passage α)}

theorem claim?_congr (badges : ∀ place, after.badge? place = session.badge? place)
    : after.claim? number = session.claim? number := by
  funext place
  rw [claim?, badges, claim?]

/-- Where slots, tickets and senders stay as they are, the roll does. -/
theorem roll_eq (same : fabric.SameRoll next)
    (claims : after.claim? number = session.claim? number)
    (quiet : ∀ producer, reissueCount passages producer = 0)
    : after.roll number next (history ++ passages) = session.roll number fabric history := by
  obtain ⟨hfreed, htickets⟩ := same
  have hreissues : reissueCount (history ++ passages) = reissueCount history := by
    funext producer
    rw [reissueCount_append, quiet, Nat.add_zero]
  simp only [roll, hfreed, funext htickets, claims, hreissues]

/-- An operation that logs no reissue on a fabric has none of its slots issued again. -/
theorem reissueCount_passages {operation : Operation α} (outcome : Outcome α)
    (quiet
      : operation = .registerProducer number
        → (Event.reissues outcome.log : List (Passage α)) = [])
    (producer : Nat)
    : reissueCount (operation.passages number session outcome) producer = 0 := by
  have hanswer (slot : Nat) (value : α) (answer : PushAnswer α)
      : reissueCount (answer.passages slot value) producer = 0 := by
    cases answer <;> rfl
  have hintake (slot : Nat) (intake : Intake α)
      : reissueCount (intake.passages slot) producer = 0 := by
    rw [Intake.passages, reissueCount_append, reissueCount, reissueCount, List.countP_map,
      List.countP_map]
    simp [Function.comp_def, reissues]
  cases operation with
  | registerProducer number' =>
      rw [Operation.passages]
      split
      · next same => rw [quiet (same ▸ rfl)]; rfl
      · rfl
  | push place value | pushTo place consumer value =>
      simp only [Operation.passages, Operation.pushed]
      split
      · split
        · exact hanswer _ _ _
        · rfl
      · rfl
  | pop place =>
      simp only [Operation.passages, Operation.popped]
      split
      · split
        · exact hintake _ _
        · rfl
      · rfl
  | registerConsumer | unregister | unregisterVia | dropSender | dropReceiver => rfl

end Step

section Transition

variable {session : Session α} {number : Nat} {fabric : Fabric α} {operation : Operation α}
  {outcome : Outcome α}

theorem claim?_size (session : Session α) (number : Nat)
    : session.claim? number session.senders.size = none := by
  simp [claim?, badge?]

/-- A sender that is issued elsewhere claims nothing here. -/
theorem claim?_issueSender_of_ne {after : Session α} (senders : after.senders = session.senders)
    {answer : Registration Sender}
    (elsewhere : ∀ sender, answer = .issued sender → sender.fabric ≠ number)
    : (after.issueSender answer).claim? number = session.claim? number := by
  have hclaims : after.claim? number = session.claim? number :=
    claim?_congr fun place => by rw [badge?, senders, badge?]
  cases answer with
  | refused | failed => exact hclaims
  | issued sender =>
      funext place
      simp only [claim?, badge?, issueSender, senders, Array.getElem?_push]
      split
      · next here =>
          simp only [here, Array.getElem?_size, Option.map_some, Option.map_none,
            Option.bind_some, Option.bind_none]
          exact if_neg (elsewhere sender rfl)
      · rfl

/-- A sender that is issued on a fabric is on its roll, with the ticket that its slot then has. -/
theorem roll_issueSender {after : Session α} (senders : after.senders = session.senders)
    (sender : Sender) (own : sender.fabric = number) {next : Fabric α}
    (tickets
      : ∀ producer,
          next.ticket? producer
            = if producer = sender.slot then some sender.ticket else fabric.ticket? producer)
    (history more : List (Passage α))
    : (after.issueSender (.issued sender)).roll number next (history ++ more)
        = (session.roll number fabric history).issue ⟨sender.slot, sender.ticket⟩
            session.senders.size next.freed (reissueCount (history ++ more)) := by
  have hclaims : (after.issueSender (.issued sender)).claim? number
      = fun place =>
          if place = session.senders.size then some ⟨sender.slot, sender.ticket⟩
          else session.claim? number place := by
    funext place
    simp only [claim?, badge?, issueSender, senders, Array.getElem?_push]
    split
    · exact if_pos own
    · rfl
  simp only [roll, Roll.issue, funext tickets, hclaims]

/-- The registration of a producer puts its sender on the roll, if it issues one. -/
theorem roll_registerProducer {enrolled : Enrolment (Registration Sender) α}
    (enrols : fabric.ProducerEnrolled enrolled) (id_eq : fabric.id = number)
    (history : List (Passage α)) {after : Session α} (senders : after.senders = session.senders)
    : Roll.Step (session.Ends operation outcome) (session.roll number fabric history)
        ((after.issueSender enrolled.answer).roll number enrolled.fabric
          (history ++ Event.reissues enrolled.log)) := by
  have hclaims : after.claim? number = session.claim? number :=
    claim?_congr fun place => by rw [badge?, senders, badge?]
  cases enrols with
  | @reissued producer stale rest slot links freed found =>
      have hticket : fabric.ticket? producer = some slot.ticket := by
        rw [Fabric.ticket?, found, Option.map_some]
      have hcount : reissueCount (history ++ Event.reissues (Fabric.reissueLog producer stale))
          = fun other =>
              if other = producer then reissueCount history other + 1
              else reissueCount history other := by
        funext other
        rw [Fabric.reissues_reissueLog, reissueCount_append]
        split
        · next same => simp [reissueCount, reissues, same]
        · next other => simp [reissueCount, reissues, Ne.symm other]
      rw [roll_issueSender senders _ id_eq (Fabric.ticket?_setSlot _ found _), hcount]
      exact .reissued freed hticket (claim?_size session number)
  | fresh spent taken =>
      have hmissing
          : ∀ producer ∈ (session.roll number fabric history).freed.head?,
              (session.roll number fabric history).ticket? producer = none :=
        fun producer first => Fabric.ticket?_eq_none_iff.mpr (spent producer first)
      cases taken with
      | refused | failed =>
          have hroll
              : after.roll number { fabric with freed := fabric.freed.tail } (history ++ [])
                = session.roll number { fabric with freed := fabric.freed.tail } history :=
            roll_eq ⟨rfl, fun _ => rfl⟩ hclaims fun _ => rfl
          exact hroll ▸ Roll.Step.spent hmissing
      | issued room =>
          have hunused : fabric.ticket? fabric.producerCount = none :=
            Fabric.ticket?_eq_none_iff.mpr (Array.getElem?_eq_none (Nat.le_refl _))
          have hroll :=
            roll_issueSender senders ⟨fabric.id, fabric.producerCount, .first, 0⟩ id_eq
              (fun producer =>
                Fabric.ticket?_addProducer { fabric with freed := fabric.freed.tail }
                  (fabric.linkCount + .ofNat fabric.consumerCount) producer)
              history []
          refine (congrArg _ hroll).mpr ?_
          rw [List.append_nil]
          exact .fresh hmissing hunused (claim?_size session number)

/-- A fabric that is put back with the same roll leaves all rolls as they are. -/
theorem fabric?_setFabric_sameRoll (found : session.fabric? number = some fabric) {number' : Nat}
    {fabric' next : Fabric α} (found' : session.fabric? number' = some fabric')
    (same : fabric'.SameRoll next)
    : ∃ after,
        (session.setFabric number' next).fabric? number = some after
        ∧ fabric.SameRoll after := by
  rw [fabric?_setFabric found']
  split
  · next here =>
      subst here
      obtain rfl := Option.some.inj (found.symm.trans found')
      exact ⟨next, rfl, same⟩
  · exact ⟨fabric, found, rfl, fun _ => rfl⟩

/-- The end of a registration takes its sender off the roll. -/
theorem roll_unregister {place : Nat} {sender : Sender}
    (held : session.sender? place = some sender) (id_eq : fabric.id = number)
    {enrolled : Enrolment (Except UsageFault Unit) α} (ended : fabric.Ended sender enrolled)
    (history : List (Passage α)) {after : Session α} (senders : after.senders = session.senders)
    (ending : enrolled.answer = .ok () → session.Ends operation outcome place)
    : Roll.Step (session.Ends operation outcome) (session.roll number fabric history)
        (after.roll number enrolled.fabric (history ++ [])) := by
  have hclaims : after.claim? number = session.claim? number :=
    claim?_congr fun place => by rw [badge?, senders, badge?]
  cases ended with
  | misused =>
      rw [roll_eq ⟨rfl, fun _ => rfl⟩ hclaims fun _ => rfl]
      exact .kept
  | @ended slot own found current =>
      have hclaimed : session.claim? number place = some ⟨sender.slot, sender.ticket⟩ := by
        rw [claim?, badge?, senders_of_held held]
        exact if_pos (own.trans id_eq)
      have hticket : fabric.ticket? sender.slot = some sender.ticket := by
        rw [Fabric.ticket?, found, Option.map_some, current]
      have hroll
          : after.roll number
              ({ fabric with freed := sender.slot :: fabric.freed }.setSlot sender.slot
                { slot with ticket := sender.ticket.ended, cursor := sender.cursor })
              (history ++ [])
            = (session.roll number fabric history).finish ⟨sender.slot, sender.ticket⟩ := by
        have htickets :=
          Fabric.ticket?_setSlot { fabric with freed := sender.slot :: fabric.freed } found
            { slot with ticket := sender.ticket.ended, cursor := sender.cursor }
        simp only [roll, Roll.finish, funext htickets, hclaims, List.append_nil]
        rfl
      rw [hroll]
      exact .finished (ending rfl) hclaimed hticket

/-- An operation keeps the roll of a fabric if it leaves the slots, their tickets and the claims as
they are, and issues none of its slots again.
-/
theorem roll_kept (history : List (Passage α)) {next : Fabric α}
    (found : outcome.session.fabric? number = some next) (same : fabric.SameRoll next)
    (claims : outcome.session.claim? number = session.claim? number)
    (quiet
      : operation = .registerProducer number
        → (Event.reissues outcome.log : List (Passage α)) = [])
    : ∃ next,
        outcome.session.fabric? number = some next
        ∧ Roll.Step (session.Ends operation outcome) (session.roll number fabric history)
            (outcome.session.roll number next
              (history ++ operation.passages number session outcome)) := by
  refine ⟨next, found, ?_⟩
  rw [roll_eq same claims (reissueCount_passages outcome quiet)]
  exact .kept

/-- Every operation does to the roll of a fabric what can happen to a roll. -/
theorem Transition.roll {shape : Shape} {configs : List Config}
    (transition : session.Transition operation outcome) (housed : session.Housed shape configs)
    (found : session.fabric? number = some fabric) (history : List (Passage α))
    : ∃ next,
        outcome.session.fabric? number = some next
        ∧ Roll.Step (session.Ends operation outcome) (session.roll number fabric history)
            (outcome.session.roll number next
              (history ++ operation.passages number session outcome)) := by
  cases transition with
  | missed silent => exact roll_kept history found ⟨rfl, fun _ => rfl⟩ rfl fun _ => rfl
  | letGoSender held =>
      exact roll_kept history found ⟨rfl, fun _ => rfl⟩
        (claim?_congr (map_getElem?_setIfInBounds (senders_of_held held) rfl))
        fun asked => by cases asked
  | letGoReceiver =>
      exact roll_kept history found ⟨rfl, fun _ => rfl⟩ rfl fun asked => by cases asked
  | @producer number' fabric' found' =>
      by_cases same : number' = number
      · subst same
        obtain rfl := Option.some.inj (found.symm.trans found')
        obtain ⟨_, _, hinstalled⟩ := housed.fabric found
        refine ⟨fabric.registerProducer.fabric, ?_, ?_⟩
        · exact (fabric?_issueSender _ _ _).trans
            ((fabric?_setFabric found _ _).trans (if_pos rfl))
        · rw [Operation.passages, if_pos rfl]
          exact roll_registerProducer fabric.producerEnrolled hinstalled.id_eq history rfl
      · obtain ⟨_, _, hinstalled⟩ := housed.fabric found'
        refine roll_kept history ?_ ⟨rfl, fun _ => rfl⟩ ?_ fun asked => ?_
        · exact (fabric?_issueSender _ _ _).trans
            ((fabric?_setFabric found' _ _).trans ((if_neg same).trans found))
        · refine claim?_issueSender_of_ne rfl fun sender issued => ?_
          rw [(fabric'.producerEnrolled.issued_within issued).1, hinstalled.id_eq]
          exact same
        · exact absurd (Operation.registerProducer.inj asked) same
  | @consumer number' fabric' found' =>
      obtain ⟨next, hnext, hsame⟩ :=
        fabric?_setFabric_sameRoll found found' fabric'.consumerEnrolled.sameRoll
      exact roll_kept history ((fabric?_issueReceiver _ _ _).trans hnext) hsame
        (claim?_congr fun place => badge?_issueReceiver _ _ place) fun asked => by cases asked
  | @unregistered _ number' place sender fabric' asks held found' =>
      have hasks : operation ≠ .registerProducer number := by
        rintro rfl
        rcases asks with ⟨asked, _⟩ | asked <;> cases asked
      by_cases same : number' = number
      · subst same
        obtain rfl := Option.some.inj (found.symm.trans found')
        obtain ⟨_, _, hinstalled⟩ := housed.fabric found
        have hpassages (outcome : Outcome α)
            : operation.passages number' session outcome = [] := by
          rcases asks with ⟨rfl, _⟩ | rfl <;> rfl
        refine ⟨_, (fabric?_setFabric found _ _).trans (if_pos rfl), ?_⟩
        rw [hpassages]
        refine roll_unregister held hinstalled.id_eq (fabric.ended sender) history rfl ?_
        intro ended
        have hreply
            : operation.ending? (.ofUsage (fabric.unregister sender).answer) = some place := by
          rw [ended]
          rcases asks with ⟨rfl, _⟩ | rfl <;> rfl
        exact ⟨Option.isSome_iff_exists.mpr ⟨sender, held⟩, hreply⟩
      · exact roll_kept history ((fabric?_setFabric found' _ _).trans ((if_neg same).trans found))
          ⟨rfl, fun _ => rfl⟩ rfl fun asked => absurd asked hasks
  | @pushed place consumer value sender fabric' held found' =>
      have hbadge := push_badge ⟨fabric', sender⟩ consumer value
      obtain ⟨next, hnext, hsame⟩ :=
        fabric?_setFabric_sameRoll found found'
          (onlyLinks_writing ⟨fabric', sender⟩ consumer value).sameRoll
      refine roll_kept history
        ((fabric?_keepWriting _ _ (congrArg Badge.fabric hbadge) _).trans hnext) hsame
        (claim?_congr (map_getElem?_setIfInBounds (senders_of_held held) hbadge)) ?_
      intro asked
      cases consumer <;> cases asked
  | @popped place receiver fabric' held found' =>
      have hseat := pop_seat ⟨fabric', receiver, #[]⟩
      obtain ⟨next, hnext, hsame⟩ :=
        fabric?_setFabric_sameRoll found found' (fabric'.onlyLinks_pop receiver).sameRoll
      exact roll_kept history ((fabric?_keepReading _ _ (congrArg Seat.fabric hseat) _).trans hnext)
        hsame rfl fun asked => by cases asked

theorem holds_congr {after : Session α} {place : Nat}
    (same : after.senders[place]? = session.senders[place]?)
    : after.Holds place ↔ session.Holds place := by
  rw [Holds, sender?, same, Holds, sender?]

/-- A sender that has been let go is never held again. -/
theorem Transition.unheld (transition : session.Transition operation outcome) {place : Nat}
    (within : place < session.senders.size) (unheld : ¬session.Holds place)
    : ¬outcome.session.Holds place := by
  -- A sender that is at work is held, so it stands at another place.
  have hother {place' : Nat} {sender : Sender} (held : session.sender? place' = some sender)
      : place' ≠ place := by
    rintro rfl
    exact unheld (Option.isSome_iff_exists.mpr ⟨sender, held⟩)
  cases transition with
  | missed | letGoReceiver | unregistered | popped => exact unheld
  | consumer =>
      refine (holds_congr ?_).not.mpr unheld
      simp only [Outcome.logged, issueReceiver]
      split <;> rfl
  | producer =>
      refine (holds_congr ?_).not.mpr unheld
      simp only [Outcome.logged, issueSender]
      split
      · exact Array.getElem?_push_lt within |>.trans (Array.getElem?_eq_getElem within).symm
      · rfl
  | letGoSender held =>
      exact (holds_congr (Array.getElem?_setIfInBounds_ne (hother held))).not.mpr unheld
  | pushed held =>
      exact (holds_congr (Array.getElem?_setIfInBounds_ne (hother held))).not.mpr unheld

end Transition

-----------------------------------------------------------------------------------------
-- Runs
-----------------------------------------------------------------------------------------

/-- A claim stands for a sender that was issued on the fabric. -/
theorem claim?_eq_some_iff {session : Session α} {number place : Nat} {claim : Claim}
    : session.claim? number place = some claim
        ↔ ∃ issued,
            session.senders[place]? = some issued
            ∧ issued.handle.fabric = number
            ∧ claim = ⟨issued.handle.slot, issued.handle.ticket⟩ := by
  rw [claim?, badge?]
  cases session.senders[place]? with
  | none => simp
  | some issued =>
      simp only [Option.map_some, Option.bind_some, Option.some.injEq, exists_eq_left']
      rw [Option.ite_none_right_eq_some, Option.some.injEq, eq_comm (a := claim)]
      rfl

/-- The roll of a new fabric is empty. -/
theorem sound_roll_bare (shape : Shape) (configs : List Config) (number : Nat) (config : Config)
    : ((start shape configs : Session α).roll number (.bare number shape config) []).Sound where
  freed_nodup := List.nodup_nil
  mem_freed_iff := by
    intro slot
    refine iff_of_false List.not_mem_nil ?_
    rintro ⟨ticket, found, _⟩
    cases found
  generation_eq := fun found => by cases found
  unissued := fun _ => rfl
  claim_active := fun claimed => by cases claimed
  claim_le := fun claimed => by cases claimed
  claim_inj := fun claimed => by cases claimed
  claimed := fun found => by cases found

/-- A run keeps the roll of a fabric sound as long as no slot is issued again so often that its
tickets repeat. The induction is over the operations of the run.
-/
theorem Housed.roll_after {shape : Shape} {configs : List Config} {session : Session α}
    (housed : session.Housed shape configs) {number : Nat} {fabric : Fabric α}
    (found : session.fabric? number = some fabric) {past : List (Passage α)}
    (sound : (session.roll number fabric past).Sound) (now : Nat)
    (operations : List (Operation α))
    (few
      : ∀ producer,
          reissueCount (past ++ history now number operations session) producer
            < Roll.reissueLimit)
    : ∃ next,
        (session.after now operations).fabric? number = some next
        ∧ ((session.after now operations).roll number next
            (past ++ history now number operations session)).Sound
        ∧ Roll.Since session.Holds (session.after now operations).Holds
            (session.roll number fabric past)
            ((session.after now operations).roll number next
              (past ++ history now number operations session)) := by
  induction operations generalizing session fabric past with
  | nil =>
      have hpast : past ++ history now number [] session = past := List.append_nil past
      rw [hpast]
      exact ⟨fabric, found, sound, .refl _ _⟩
  | cons operation rest ih =>
      have htransition := step_transition now session operation
      obtain ⟨next, hnext, hends⟩ := htransition.roll housed found past
      have hstep := hends.mono fun _ ends => ends.1
      rw [history, ← List.append_assoc] at few ⊢
      have hfew : ∀ producer,
          reissueCount
              (past ++ operation.passages number session (session.step now operation.command))
              producer
            < Roll.reissueLimit := by
        intro producer
        have hall := few producer
        rw [reissueCount_append] at hall
        omega
      have hgone : ∀ place claim,
          (session.roll number fabric past).claim? place = some claim
          → ¬session.Holds place
          → ¬(session.step now operation.command).session.Holds place := by
        intro place claim claimed unheld
        obtain ⟨issued, hplace, _⟩ := claim?_eq_some_iff.mp claimed
        exact htransition.unheld (Array.getElem?_eq_some_iff.mp hplace).1 unheld
      have hsince := sound.since_step hstep hfew hgone
      obtain ⟨last, hlast, hsound, hmore⟩ :=
        ih (housed.transition htransition) hnext (sound.step hstep hfew) few
      exact ⟨last, hlast, hsound, hsince.trans hmore⟩

end Session

-----------------------------------------------------------------------------------------
-- Only the registered sender of a slot writes into its links
-----------------------------------------------------------------------------------------

namespace Fabric

/-- A sender may write into a link: it is registered, and the row of its slot names the link. -/
def Reaches (fabric : Fabric α) (sender : Sender) (name : Nat) : Prop :=
  fabric.isRegistered sender = true
    ∧ ∃ consumer, (fabric.producerRow sender.slot).link? consumer = some name

/-- Some push through a sender changes a link. -/
def Writes (fabric : Fabric α) (sender : Sender) (name : Nat) : Prop :=
  ∃ consumer value,
    ((⟨fabric, sender⟩ : Writing α).push consumer value).2.fabric.links[name]?
      ≠ fabric.links[name]?

theorem links_offer_of_ne (fabric : Fabric α) {name other : Nat} (ne : name ≠ other) (value : α)
    : (fabric.offer name value).2.links[other]? = fabric.links[other]? := by
  simp only [offer, takeOut]
  cases fabric.links[name]? with
  | none => exact Array.getElem?_setIfInBounds_ne ne
  | some link =>
      refine (Array.getElem?_setIfInBounds_ne ne).trans ?_
      exact Array.getElem?_setIfInBounds_ne ne

/-- Offers along a list of entries leave all links alone that the list does not name. -/
theorem links_offerAlong_of_ne {other : Nat} (wires : List Wire)
    (unnamed : ∀ wire ∈ wires, wire.link ≠ other) (fabric : Fabric α) (value : α)
    : (offerAlong wires fabric value).2.links[other]? = fabric.links[other]? := by
  induction wires generalizing fabric value with
  | nil => rfl
  | cons wire rest ih =>
      have hfirst := links_offer_of_ne fabric (unnamed wire List.mem_cons_self) value
      have hrest := ih fun wire member => unnamed wire (List.mem_cons_of_mem _ member)
      rcases hresult : fabric.offer wire.link value with ⟨_ | returned, next⟩
      · simpa only [offerAlong, hresult] using hfirst
      · simp only [offerAlong, hresult] at hfirst ⊢
        exact (hrest next returned).trans hfirst

/-- A push changes a link only if the sender is registered and its row names the link. -/
theorem Writes.reaches {fabric : Fabric α} {sender : Sender} {name : Nat}
    (writes : fabric.Writes sender name)
    : fabric.Reaches sender name := by
  obtain ⟨consumer, value, changed⟩ := writes
  refine Classical.byContradiction fun unreached => changed ?_
  cases consumer with
  | none =>
      simp only [Writing.push, push, offerSweep_eq]
      split
      · next registered =>
          have hunnamed
              : ∀ wire ∈ (fabric.producerRow sender.slot).sweep sender.cursor,
                  wire.link ≠ name := by
            rintro wire member rfl
            exact unreached ⟨registered, wire.position, Row.link?_of_mem_sweep member⟩
          have hsame := links_offerAlong_of_ne _ hunnamed fabric value
          split <;> (next hresult => simpa only [hresult] using hsame)
      · rfl
  | some consumer =>
      simp only [Writing.push, pushTo]
      split
      · next registered =>
          split
          · rfl
          · next other named =>
              have hother : other ≠ name := by
                rintro rfl
                exact unreached ⟨registered, consumer, named⟩
              have hsame := links_offer_of_ne fabric hother value
              split <;> (next hresult => simpa only [hresult] using hsame)
      · rfl

end Fabric

namespace Session

/-- The sender of a number was issued for a slot, and its registration is the current one. -/
def IsCurrent (session : Session α) (number : Nat) (fabric : Fabric α) (producer place : Nat)
    : Prop :=
  ∃ issued,
    session.senders[place]? = some issued
    ∧ issued.handle.fabric = number
    ∧ issued.handle.slot = producer
    ∧ fabric.isRegistered issued.handle = true

/-- The registrations of a fabric are in order. -/
structure Registry (session : Session α) (number : Nat) (fabric : Fabric α) : Prop where
  freed_nodup : fabric.freed.Nodup
  freed_lt : ∀ producer ∈ fabric.freed, producer < fabric.producerCount
  /-- A slot is free exactly if its state is inactive. -/
  mem_freed_iff
    : ∀ {producer slot},
        fabric.producers[producer]? = some slot
        → (producer ∈ fabric.freed ↔ slot.ticket.isActive = false)
  /-- Of all senders ever issued for a slot that is not free, one is registered. -/
  holder
    : ∀ producer < fabric.producerCount,
        producer ∉ fabric.freed → ∃! place, session.IsCurrent number fabric producer place
  /-- Of all senders ever issued for a free slot, none is registered. -/
  vacant
    : ∀ producer ∈ fabric.freed,
        ∀ place, ¬session.IsCurrent number fabric producer place
  /-- No two senders can write into one link. -/
  single_writer
    : ∀ {place place' : Nat} {issued issued' : Issued Sender} {name : Nat},
        session.senders[place]? = some issued
        → session.senders[place']? = some issued'
        → issued.handle.fabric = number
        → issued'.handle.fabric = number
        → fabric.Reaches issued.handle name
        → fabric.Reaches issued'.handle name
        → place = place'
  writes_reaches : ∀ {sender name}, fabric.Writes sender name → fabric.Reaches sender name
  /-- A registration finds the slot freed last, inactive, and issues it. -/
  reissued
    : ∀ {producer rest},
        fabric.freed = producer :: rest
        → ∃ slot,
            fabric.producers[producer]? = some slot
            ∧ slot.ticket.isActive = false
            ∧ fabric.registerProducer = { fabric with freed := rest }.reclaim producer slot
            ∧ fabric.registerProducer.answer
              = .issued ⟨fabric.id, producer, slot.ticket.next, slot.cursor⟩

section Registry

variable {session : Session α} {number : Nat} {fabric : Fabric α} {past : List (Passage α)}

/-- A registered sender of a slot is one that claims the slot with its ticket. -/
theorem isCurrent_iff {producer place : Nat}
    : session.IsCurrent number fabric producer place
        ↔ ∃ claim,
            session.claim? number place = some claim
            ∧ claim.slot = producer
            ∧ fabric.ticket? claim.slot = some claim.ticket := by
  constructor
  · rintro ⟨issued, hplace, own, hslot, registered⟩
    exact ⟨_, claim?_eq_some_iff.mpr ⟨issued, hplace, own, rfl⟩, hslot,
      Fabric.isRegistered_iff.mp registered⟩
  · rintro ⟨claim, claimed, hslot, current⟩
    obtain ⟨issued, hplace, own, rfl⟩ := claim?_eq_some_iff.mp claimed
    exact ⟨issued, hplace, own, hslot, Fabric.isRegistered_iff.mpr current⟩

/-- A sound roll has the registrations of its fabric in order. -/
theorem registry_of_sound (sound : (session.roll number fabric past).Sound)
    (wired : fabric.Wired)
    : session.Registry number fabric where
  freed_nodup := sound.freed_nodup
  freed_lt := by
    intro producer freed
    obtain ⟨ticket, found, _⟩ := (sound.mem_freed_iff producer).mp freed
    obtain ⟨slot, hslot, _⟩ := Option.map_eq_some_iff.mp found
    exact (Array.getElem?_eq_some_iff.mp hslot).1
  mem_freed_iff := by
    intro producer slot found
    have hticket : fabric.ticket? producer = some slot.ticket := by
      rw [Fabric.ticket?, found, Option.map_some]
    refine (sound.mem_freed_iff producer).trans ?_
    constructor
    · rintro ⟨ticket, found', inactive⟩
      obtain rfl := Option.some.inj (hticket.symm.trans found')
      exact inactive
    · exact fun inactive => ⟨slot.ticket, hticket, inactive⟩
  holder := by
    intro producer within taken
    obtain ⟨ticket, found⟩ := Fabric.ticket?_of_lt within
    obtain ⟨place, claimed⟩ := sound.holder found taken
    refine ⟨place, isCurrent_iff.mpr ⟨_, claimed, rfl, found⟩, ?_⟩
    intro place' current
    obtain ⟨claim, claimed', rfl, found'⟩ := isCurrent_iff.mp current
    obtain rfl := Option.some.inj (found.symm.trans found')
    exact sound.claim_inj claimed' claimed
  vacant := by
    intro producer freed place current
    obtain ⟨claim, claimed, rfl, found⟩ := isCurrent_iff.mp current
    exact sound.tidy.vacant claimed freed found
  single_writer := by
    rintro place place' issued issued' name hplace hplace' own own' ⟨registered, consumer, named⟩
      ⟨registered', consumer', named'⟩
    -- The link belongs to one slot, and the two registrations have the ticket of that slot.
    have hslot : issued.handle.slot = issued'.handle.slot :=
      (wired.grid.name_inj named named').1
    have hticket := Fabric.isRegistered_iff.mp registered
    have hticket' := Fabric.isRegistered_iff.mp registered'
    rw [hslot] at hticket
    have hclaim := claim?_eq_some_iff.mpr ⟨issued, hplace, own, rfl⟩
    have hclaim' := claim?_eq_some_iff.mpr ⟨issued', hplace', own', rfl⟩
    rw [hslot, Option.some.inj (hticket.symm.trans hticket')] at hclaim
    exact sound.claim_inj hclaim hclaim'
  writes_reaches := Fabric.Writes.reaches
  reissued := by
    intro producer rest freed
    have hfreed : producer ∈ fabric.freed := freed ▸ List.mem_cons_self
    obtain ⟨ticket, found, inactive⟩ := (sound.mem_freed_iff producer).mp hfreed
    obtain ⟨slot, hslot, rfl⟩ := Option.map_eq_some_iff.mp found
    have hreclaim := Fabric.registerProducer_of_freed freed hslot
    obtain ⟨links, _, hissued⟩ := Fabric.reclaim_eq { fabric with freed := rest } producer slot
    refine ⟨slot, hslot, inactive, hreclaim, ?_⟩
    rw [hreclaim, hissued]

end Registry

/-- The registrations of a fabric are in order at every moment of every run in which no slot has
been issued again 2^63 times: the free slots are the inactive ones, each listed once; every other
slot has one registered sender among all that were ever issued, dropped or not, and no two senders
can write into one link; and a registration always finds the slot freed last. In any run that goes
on from there a sender whose registration has ended stays unregistered, and a slot whose registered
sender was dropped is not issued again.
-/
theorem registry_in_order (shape : Shape) (configs : List Config) (now : Nat)
    (operations : List (Operation α)) {number : Nat} {config : Config}
    (configured : configs[number]? = some config) (positive : 0 < config.channelCapacity)
    (few
      : ∀ producer,
          reissueCount (history now number operations (start shape configs)) producer
            < Roll.reissueLimit)
    : let reached := (start shape configs).after now operations
      ∃ fabric,
        reached.fabric? number = some fabric
        ∧ reached.Registry number fabric
        ∧ ∀ more,
            (∀ producer,
              reissueCount (history now number (operations ++ more) (start shape configs)) producer
                < Roll.reissueLimit)
            → ∃ later,
                (reached.after now more).fabric? number = some later
                ∧ (∀ (place : Nat) (issued : Issued Sender),
                    reached.senders[place]? = some issued
                    → issued.handle.fabric = number
                    → fabric.isRegistered issued.handle = false
                    → ∃ issued' : Issued Sender,
                        (reached.after now more).senders[place]? = some issued'
                        ∧ issued'.handle.badge = issued.handle.badge
                        ∧ later.isRegistered issued'.handle = false)
                ∧ ∀ (place : Nat) (issued : Issued Sender),
                    reached.senders[place]? = some issued
                    → issued.handle.fabric = number
                    → issued.held = false
                    → fabric.isRegistered issued.handle = true
                    → .reissued issued.handle.slot ∉ history now number more reached := by
  intro reached
  have hstart : (start shape configs : Session α).fabric? number
      = some (.bare number shape config) := by
    rw [fabric?_start, configured, Option.bind_some, if_neg (Nat.ne_of_gt positive)]
  obtain ⟨fabric, found, hsound, _⟩ :=
    (housed_start shape configs).roll_after hstart (sound_roll_bare shape configs number config)
      now operations few
  have hhoused : reached.Housed shape configs := (housed_start shape configs).after now operations
  obtain ⟨_, _, hinstalled⟩ := hhoused.fabric found
  refine ⟨fabric, found, registry_of_sound hsound hinstalled.wired, fun more few' => ?_⟩
  simp only [history_append] at few'
  obtain ⟨later, hlater, _, hsince⟩ := hhoused.roll_after found hsound now more few'
  refine ⟨later, hlater, ?_, ?_⟩
  · intro place issued hplace own unregistered
    have hclaim : reached.claim? number place = some ⟨issued.handle.slot, issued.handle.ticket⟩ :=
      claim?_eq_some_iff.mpr ⟨issued, hplace, own, rfl⟩
    have houtdated : fabric.ticket? issued.handle.slot ≠ some issued.handle.ticket := by
      intro current
      rw [Fabric.isRegistered_iff.mpr current] at unregistered
      cases unregistered
    obtain ⟨hclaimed, houtdated'⟩ := hsince.outdated hclaim houtdated
    obtain ⟨issued', hplace', own', hsame⟩ := claim?_eq_some_iff.mp hclaimed
    obtain ⟨hslot, hticket⟩ := Claim.mk.inj hsame
    refine ⟨issued', hplace', ?_, ?_⟩
    · simp only [Sender.badge, own, own', hslot, hticket]
    · rw [← Bool.not_eq_true, Fabric.isRegistered_iff, ← hslot, ← hticket]
      exact houtdated'
  · intro place issued hplace own dropped registered member
    have hunheld : ¬reached.Holds place := by
      simp [Holds, sender?, hplace, dropped]
    obtain ⟨_, _, _, hcount⟩ :=
      hsince.unheld (claim?_eq_some_iff.mpr ⟨issued, hplace, own, rfl⟩)
        (Fabric.isRegistered_iff.mp registered) hunheld
    have hpositive := reissueCount_pos_of_mem member
    simp only [roll, reissueCount_append] at hcount
    omega

/-- In a history with few passages no slot is issued again often. -/
theorem fewReissues_of_short {history : List (Passage α)}
    (short : history.length < Roll.reissueLimit) (producer : Nat)
    : reissueCount history producer < Roll.reissueLimit :=
  Nat.lt_of_le_of_lt List.countP_le_length short

/-- Two occupants of the first slot come and go, and the only one of the second is dropped. -/
def occupants : List (Operation Nat) :=
  [.registerProducer 0, .registerConsumer 0, .registerProducer 0, .push 1 5, .unregister 0,
    .registerProducer 0, .dropSender 1, .push 2 6, .unregister 2]

/-- The first slot is free, nobody is registered for it any more, and two more producers get that
slot and a third one, because nobody can free the second.
-/
theorem registry_in_order_occupants
    : (∀ producer,
        reissueCount (history 0 0 occupants (start ⟨3, 2⟩ [⟨4, true⟩])) producer
          < Roll.reissueLimit)
      ∧ ∃ fabric,
          ((start ⟨3, 2⟩ [⟨4, true⟩]).after 0 occupants).fabric? 0 = some fabric
          ∧ fabric.freed = [0]
          ∧ (∀ place,
              ¬((start ⟨3, 2⟩ [⟨4, true⟩]).after 0 occupants).IsCurrent 0 fabric 0 place)
          ∧ (∃! place,
              ((start ⟨3, 2⟩ [⟨4, true⟩]).after 0 occupants).IsCurrent 0 fabric 1 place)
          ∧ .reissued 1 ∉ history 0 0 [.registerProducer 0, .registerProducer 0]
              ((start ⟨3, 2⟩ [⟨4, true⟩]).after 0 occupants) := by
  have hconfig : ([⟨4, true⟩] : List Config)[0]? = some ⟨4, true⟩ := rfl
  have hfew : ∀ producer,
      reissueCount (history 0 0 occupants (start ⟨3, 2⟩ [⟨4, true⟩])) producer
        < Roll.reissueLimit :=
    fewReissues_of_short (by decide)
  obtain ⟨fabric, found, hregistry, hmore⟩ :=
    registry_in_order ⟨3, 2⟩ [⟨4, true⟩] 0 occupants hconfig (by decide) hfew
  obtain ⟨_, _, _, hnever⟩ :=
    hmore [.registerProducer 0, .registerProducer 0] (fewReissues_of_short (by decide))
  obtain rfl := Option.some.inj found
  refine ⟨hfew, _, rfl, rfl, hregistry.vacant 0 (by decide), ?_, ?_⟩
  · exact hregistry.holder 1 (by decide) (by decide)
  · exact hnever 1 _ rfl rfl rfl rfl

end Session

end Crossbar
