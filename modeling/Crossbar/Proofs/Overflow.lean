import Crossbar.Proofs.FanOut
import Crossbar.Proofs.Ledger

/-! Fabrics whose links are too large to allocate. Parties of one side come and go, and whoever
registers on the other side fails before it has taken a slot. Such a failure leaves the fabric as it
was but for the count of links, and everything goes on as if nobody had tried.
-/

namespace Crossbar

variable {α : Type}

-----------------------------------------------------------------------------------------
-- Fabrics without links
-----------------------------------------------------------------------------------------

namespace Row

variable {row : Row}

/-- A walk along a row without wired entries meets none. -/
theorem run_of_unwired (unwired : ∀ position, row.link? position = none) (first count : Nat)
    : row.run first count = [] := by
  cases count with
  | zero => rfl
  | succ count => rw [run, unwired]

theorem sweep_of_unwired (unwired : ∀ position, row.link? position = none) (cursor : Nat)
    : row.sweep cursor = [] := by
  rw [sweep, run_of_unwired unwired, run_of_unwired unwired, List.append_nil]

end Row

/-- The fabric with another count of links. -/
def Fabric.recount (fabric : Fabric α) (total : Counter) : Fabric α :=
  { fabric with linkCount := total }

/-- The outcome of an operation on slots with another count of links. -/
def Enrolment.recount {β : Type} (enrolled : Enrolment β α) (total : Counter) : Enrolment β α :=
  { enrolled with fabric := enrolled.fabric.recount total }

namespace Fabric

/-- A fabric whose links cannot be allocated: it has slots on one side at most, and no entry of any
row is wired.
-/
structure Linkless (fabric : Fabric α) : Prop where
  large : Ring.allocationLimit ≤ fabric.config.channelCapacity
  one_sided : fabric.producerCount = 0 ∨ fabric.consumerCount = 0
  producer_unwired
    : ∀ producer consumer, (fabric.producerRow producer).link? consumer = none
  consumer_unwired
    : ∀ consumer producer, (fabric.consumerRow consumer).link? producer = none

section Linkless

variable {fabric next : Fabric α} {sender : Sender}

/-- Slots on one side have nobody to be wired to. -/
theorem Wired.linkless (wired : fabric.Wired)
    (large : Ring.allocationLimit ≤ fabric.config.channelCapacity)
    (one_sided : fabric.producerCount = 0 ∨ fabric.consumerCount = 0)
    : fabric.Linkless := by
  have hunwired (producer consumer : Nat) : fabric.name? producer consumer = none :=
    wired.grid.name_eq_none (by omega)
  exact ⟨large, one_sided, hunwired,
    fun consumer producer => (wired.shared producer consumer).trans (hunwired _ _)⟩

theorem linkless_recount (linkless : fabric.Linkless) (total : Counter)
    : (fabric.recount total).Linkless :=
  ⟨linkless.large, linkless.one_sided, linkless.producer_unwired, linkless.consumer_unwired⟩

/-- A push through a registered sender finds nobody and hands its value back. -/
theorem Linkless.push (linkless : fabric.Linkless) (registered : fabric.isRegistered sender = true)
    (consumer : Option Nat) (value : α)
    : (⟨fabric, sender⟩ : Writing α).push consumer value
        = (.rejected value, ⟨fabric, sender⟩) := by
  cases consumer with
  | none =>
      rw [Writing.push, push_of_registered registered,
        Row.sweep_of_unwired (linkless.producer_unwired sender.slot)]
      rfl
  | some consumer =>
      rw [Writing.push, pushTo_of_registered registered, name?, linkless.producer_unwired]
      rfl

/-- A pop finds nobody and has no value. -/
theorem Linkless.pop (linkless : fabric.Linkless) (receiver : Receiver)
    : fabric.pop receiver = (⟨none, []⟩, { receiver with streak := 0 }, fabric) := by
  have hsticky : fabric.stickyWire receiver = [] := by
    rw [stickyWire, linkless.consumer_unwired]
    exact ite_self []
  rw [Fabric.pop, hsticky, drawAlong]
  simp only [scan, drawSweep_eq, Row.sweep_of_unwired (linkless.consumer_unwired receiver.slot),
    drawAlong, List.append_nil]

/-- Nobody comes to a fabric from the other side. -/
theorem Move.one_sided (move : fabric.Move next)
    (large : Ring.allocationLimit ≤ fabric.config.channelCapacity)
    (one_sided : fabric.producerCount = 0 ∨ fabric.consumerCount = 0)
    : next.producerCount = 0 ∨ next.consumerCount = 0 := by
  cases move with
  | worked only =>
      obtain ⟨_, _, rfl⟩ := only
      exact one_sided
  | consumer enrols =>
      cases enrols with
      | refused | failed => exact one_sided
      | issued room small =>
          have hnone : fabric.producerCount = 0 := by omega
          exact .inl ((producerCount_addConsumer _).trans hnone)
  | producer enrols =>
      cases enrols with
      | reissued => exact one_sided.imp_left (Array.size_setIfInBounds.trans ·)
      | fresh _ taken =>
          cases taken with
          | refused | failed => exact one_sided
          | issued room small =>
              have hsmall
                  : 0 < fabric.consumerCount
                    → fabric.config.channelCapacity < Ring.allocationLimit := small
              have hnone : fabric.consumerCount = 0 := by omega
              exact .inr ((consumerCount_addProducer _).trans hnone)
  | unregistered ends =>
      cases ends with
      | misused => exact one_sided
      | ended => exact one_sided.imp_left (Array.size_setIfInBounds.trans ·)

-----------------------------------------------------------------------------------------
-- Registrations on a fabric without links
-----------------------------------------------------------------------------------------

/-- The registration of a consumer fails exactly if there is room for it and a producer slot. -/
theorem Linkless.registerConsumer_failed_iff (linkless : fabric.Linkless)
    : fabric.registerConsumer.answer = .failed .capacityOverflow
        ↔ 0 < fabric.producerCount ∧ fabric.consumerCount < fabric.shape.maxConsumers := by
  have henrols := fabric.consumerEnrolled
  generalize fabric.registerConsumer = enrolled at henrols
  cases henrols with
  | refused full => exact iff_of_false nofun fun room => Nat.not_le.mpr room.2 full
  | failed room paired => exact iff_of_true rfl ⟨paired, room⟩
  | issued _ small =>
      exact iff_of_false nofun fun room => Nat.not_le.mpr (small room.1) linkless.large

/-- A registration of a consumer that fails leaves a trace in the count of links alone. -/
theorem registerConsumer_of_failed {failure : Failure}
    (failed : fabric.registerConsumer.answer = .failed failure)
    : fabric.registerConsumer
        = ⟨.failed .capacityOverflow, [], fabric.recount (fabric.linkCount + 1)⟩ := by
  have henrols := fabric.consumerEnrolled
  generalize fabric.registerConsumer = enrolled at failed henrols
  cases henrols with
  | refused | issued => cases failed
  | failed => rfl

/-- The registration of a producer fails exactly if there is a consumer. -/
theorem Linkless.registerProducer_failed_iff (linkless : fabric.Linkless)
    (room : 0 < fabric.shape.maxProducers) (freed_le : fabric.freed.length ≤ fabric.producerCount)
    : fabric.registerProducer.answer = .failed .capacityOverflow ↔ 0 < fabric.consumerCount := by
  have hside := linkless.one_sided
  have henrols := fabric.producerEnrolled
  generalize fabric.registerProducer = enrolled at henrols
  cases henrols with
  | reissued freed =>
      rw [freed, List.length_cons] at freed_le
      exact iff_of_false nofun (by omega)
  | fresh _ taken =>
      cases taken with
      | refused full =>
          exact iff_of_false nofun fun paired => by
            have hle : fabric.shape.maxProducers ≤ fabric.producerCount := full
            omega
      | failed _ paired => exact iff_of_true rfl paired
      | issued _ small =>
          exact iff_of_false nofun fun paired => Nat.not_le.mpr (small paired) linkless.large

/-- A registration of a producer that fails leaves a trace in the count of links alone, as there is
no free slot that it could have taken.
-/
theorem Linkless.registerProducer_of_failed (linkless : fabric.Linkless)
    (freed_le : fabric.freed.length ≤ fabric.producerCount) {failure : Failure}
    (failed : fabric.registerProducer.answer = .failed failure)
    : fabric.registerProducer
        = ⟨.failed .capacityOverflow, [], fabric.recount (fabric.linkCount + 1)⟩ := by
  have hside := linkless.one_sided
  have henrols := fabric.producerEnrolled
  generalize fabric.registerProducer = enrolled at failed henrols
  cases henrols with
  | reissued => cases failed
  | fresh _ taken =>
      cases taken with
      | refused | issued => cases failed
      | failed _ paired =>
          have hpaired : 0 < fabric.consumerCount := paired
          have hnone : fabric.freed = [] := List.length_eq_zero_iff.mp (by omega)
          simp only [recount, hnone, List.tail_nil]

end Linkless

-----------------------------------------------------------------------------------------
-- The count of links matters to no other result
-----------------------------------------------------------------------------------------

section Recount

/-- No links are added for no pairs. -/
theorem addLinks_zero (fabric : Fabric α)
    : fabric.addLinks 0 = .ok (fabric.links.size, fabric) := rfl

/-- A registration in a fresh slot adds no links where there are no consumers. -/
theorem registerFresh_recount (fabric : Fabric α) (total : Counter)
    (empty : fabric.consumerCount = 0)
    : (fabric.recount total).registerFresh = fabric.registerFresh.recount total := by
  have hempty : (fabric.recount total).consumerCount = 0 := empty
  simp only [registerFresh]
  by_cases full : fabric.shape.maxProducers ≤ fabric.producerCount
  · rw [if_pos full]
    exact if_pos full
  · rw [if_neg full, empty, hempty, addLinks_zero, addLinks_zero]
    exact if_neg full

/-- A reissue retires nothing where no entry is wired. -/
theorem reclaim_recount (fabric : Fabric α) (total : Counter) (producer : Nat) {slot : ProducerSlot}
    (unwired : slot.row.front = [])
    : (fabric.recount total).reclaim producer slot
        = (fabric.reclaim producer slot).recount total := by
  simp only [reclaim, unwired, retireAlong, ite_self]
  rfl

variable {fabric : Fabric α} (total : Counter)

/-- A registration of a consumer that does not fail finds no producer slots. -/
theorem Linkless.registerConsumer_recount (linkless : fabric.Linkless)
    (unfailed : ∀ failure, fabric.registerConsumer.answer ≠ .failed failure)
    : (fabric.recount total).registerConsumer = fabric.registerConsumer.recount total := by
  simp only [registerConsumer]
  by_cases full : fabric.shape.maxConsumers ≤ fabric.consumerCount
  · rw [if_pos full]
    exact if_pos full
  · have hnone : fabric.producerCount = 0 := by
      by_contra some
      exact unfailed _ (linkless.registerConsumer_failed_iff.mpr (by omega))
    have hnone' : (fabric.recount total).producerCount = 0 := hnone
    rw [if_neg full, hnone, hnone', addLinks_zero, addLinks_zero]
    exact if_neg full

/-- A registration of a producer that does not fail finds no consumers, whichever slot it gets. -/
theorem Linkless.registerProducer_recount (linkless : fabric.Linkless)
    (room : 0 < fabric.shape.maxProducers) (freed_le : fabric.freed.length ≤ fabric.producerCount)
    (unfailed : ∀ failure, fabric.registerProducer.answer ≠ .failed failure)
    : (fabric.recount total).registerProducer = fabric.registerProducer.recount total := by
  have hempty : fabric.consumerCount = 0 := by
    by_contra some
    exact unfailed _
      ((linkless.registerProducer_failed_iff room freed_le).mpr (Nat.pos_of_ne_zero some))
  cases freed : fabric.freed with
  | nil =>
      have hfreed : (fabric.recount total).freed = [] := freed
      rw [registerProducer_of_none_freed freed, registerProducer_of_none_freed hfreed]
      exact registerFresh_recount fabric total hempty
  | cons producer rest =>
      have hfreed : (fabric.recount total).freed = producer :: rest := freed
      cases found : fabric.producers[producer]? with
      | none =>
          have hmissing : (fabric.recount total).producers[producer]? = none := found
          rw [registerProducer_of_missing freed found, registerProducer_of_missing hfreed hmissing]
          exact registerFresh_recount { fabric with freed := rest } total hempty
      | some slot =>
          have hfound : (fabric.recount total).producers[producer]? = some slot := found
          have hunwired : slot.row.front = [] := by
            refine Row.run_of_unwired (fun consumer => ?_) 0 _
            have hgap := linkless.producer_unwired producer consumer
            rwa [producerRow, found] at hgap
          rw [registerProducer_of_freed freed found, registerProducer_of_freed hfreed hfound]
          exact reclaim_recount { fabric with freed := rest } total producer hunwired

/-- The end of a registration is not about links. -/
theorem unregister_recount (sender : Sender)
    : (fabric.recount total).unregister sender = (fabric.unregister sender).recount total := by
  by_cases own : sender.fabric = fabric.id
  · cases found : fabric.producers[sender.slot]? with
    | none => simp [unregister, recount, Enrolment.recount, own, found]
    | some slot =>
        by_cases current : slot.ticket = sender.ticket <;>
          simp [unregister, recount, Enrolment.recount, own, found, current]
  · simp [unregister, recount, Enrolment.recount, own]

end Recount

end Fabric

namespace Session

-----------------------------------------------------------------------------------------
-- Sessions with another count
-----------------------------------------------------------------------------------------

/-- The session with another count of links for the fabric of a number. -/
def recount (session : Session α) (number : Nat) (total : Counter) : Session α :=
  { session with
    fabrics := session.fabrics.modify number fun fabric => fabric.map (·.recount total) }

/-- The outcome of an operation with another count of links for the fabric of a number. -/
def Outcome.recount (outcome : Outcome α) (number : Nat) (total : Counter) : Outcome α :=
  { outcome with session := outcome.session.recount number total }

/-- The fabric that failed to register somebody, if an operation with this answer is such a failure.
-/
def Operation.failed? : Operation α → Reply α → Option Nat
  | .registerProducer number, .failed _ | .registerConsumer number, .failed _ => some number
  | _, _ => none

/-- The fabric of a number has no links, and never will. -/
structure Barren (shape : Shape) (configs : List Config) (number : Nat) (session : Session α)
    (fabric : Fabric α) : Prop where
  housed : session.Housed shape configs
  tidy : session.Tidy
  found : session.fabric? number = some fabric
  linkless : fabric.Linkless
  room : 0 < fabric.shape.maxProducers

section Recount

variable {shape : Shape} {configs : List Config} {session : Session α} {number : Nat}
  {fabric : Fabric α} (total : Counter)

/-- The fabric with another count is put in the place of the one that is there. -/
theorem recount_of_found (found : session.fabric? number = some fabric)
    : session.recount number total = session.setFabric number (fabric.recount total) := by
  have hget : session.fabrics[number]? = some (some fabric) := Option.join_eq_some_iff.mp found
  have hsame : session.fabrics.modify number (fun fabric => fabric.map (·.recount total))
      = session.fabrics.setIfInBounds number (some (fabric.recount total)) := by
    apply Array.ext_getElem?
    intro other
    rw [Array.getElem?_modify, Array.getElem?_setIfInBounds]
    split
    · next here =>
        subst here
        rw [if_pos (Array.getElem?_eq_some_iff.mp hget).1, hget]
        rfl
    · rfl
  rw [recount, setFabric, hsame]

@[simp] theorem sender?_recount (session : Session α) (number : Nat) (total : Counter) (place : Nat)
    : (session.recount number total).sender? place = session.sender? place := rfl

@[simp] theorem receiver?_recount (session : Session α) (number : Nat) (total : Counter)
    (place : Nat)
    : (session.recount number total).receiver? place = session.receiver? place := rfl

/-- No fabric comes or goes by another count of links. -/
theorem fabric?_recount (found : session.fabric? number = some fabric) (other : Nat)
    : (session.recount number total).fabric? other
        = if number = other then some (fabric.recount total) else session.fabric? other := by
  rw [recount_of_found total found, fabric?_setFabric found]

/-- Counting the links as they are counted changes nothing. -/
theorem recount_self (found : session.fabric? number = some fabric)
    : session.recount number fabric.linkCount = session := by
  rw [recount_of_found _ found]
  exact setFabric_self found

theorem recount_recount (found : session.fabric? number = some fabric) (total last : Counter)
    : (session.recount number total).recount number last = session.recount number last := by
  have hcounted := (fabric?_recount total found number).trans (if_pos rfl)
  rw [recount_of_found _ hcounted, recount_of_found _ found, recount_of_found _ found,
    setFabric_setFabric]
  rfl

/-- Fabrics under different numbers can be put in either order. -/
theorem setFabric_comm (session : Session α) {first second : Nat} (apart : first ≠ second)
    (one other : Fabric α)
    : (session.setFabric first one).setFabric second other
        = (session.setFabric second other).setFabric first one := by
  simp only [setFabric, Array.setIfInBounds_comm _ _ apart]

/-- A fabric that is put under its number is counted anew afterwards or before. -/
theorem setFabric_recount (found : session.fabric? number = some fabric) (next : Fabric α)
    : (session.recount number total).setFabric number (next.recount total)
        = (session.setFabric number next).recount number total := by
  have hput : (session.setFabric number next).fabric? number = some next :=
    (fabric?_setFabric found next number).trans (if_pos rfl)
  rw [recount_of_found total found, recount_of_found total hput, setFabric_setFabric,
    setFabric_setFabric]

/-- A fabric that is put under another number does not matter to the count. -/
theorem setFabric_recount_of_ne (found : session.fabric? number = some fabric) {number' : Nat}
    {fabric' : Fabric α} (found' : session.fabric? number' = some fabric')
    (apart : number' ≠ number) (next : Fabric α)
    : (session.recount number total).setFabric number' next
        = (session.setFabric number' next).recount number total := by
  have hkept : (session.setFabric number' next).fabric? number = some fabric :=
    (fabric?_setFabric found' next number).trans ((if_neg apart).trans found)
  rw [recount_of_found total found, recount_of_found total hkept, setFabric_comm _ apart.symm]

/-- What an operation enrols with one fabric, whether or not it is the one that is counted anew. -/
theorem put_recount (found : session.fabric? number = some fabric) {number' : Nat}
    {fabric' : Fabric α} (found' : session.fabric? number' = some fabric') {β : Type}
    (work : Fabric α → Enrolment β α)
    (uncounted : number' = number → work (fabric.recount total) = (work fabric).recount total)
    : ∃ counted count,
        (session.recount number total).fabric? number' = some counted
        ∧ work counted = (work fabric').recount count
        ∧ (session.recount number total).setFabric number' ((work fabric').recount count).fabric
          = (session.setFabric number' (work fabric').fabric).recount number total := by
  rw [fabric?_recount total found]
  by_cases here : number' = number
  · subst here
    obtain rfl := Option.some.inj (found.symm.trans found')
    exact ⟨_, total, if_pos rfl, uncounted rfl, setFabric_recount total found _⟩
  · exact ⟨fabric', (work fabric').fabric.linkCount, (if_neg (Ne.symm here)).trans found', rfl,
      setFabric_recount_of_ne total found found' here _⟩

/-- Where there is no fabric there is none after another count either. -/
theorem fabric?_recount_of_none (found : session.fabric? number = some fabric) {number' : Nat}
    (gap : session.fabric? number' = none)
    : (session.recount number total).fabric? number' = none := by
  rw [fabric?_recount total found, if_neg, gap]
  rintro rfl
  cases found.symm.trans gap

theorem fabric?_recount_of_some (found : session.fabric? number = some fabric) {number' : Nat}
    {fabric' : Fabric α} (found' : session.fabric? number' = some fabric')
    : ∃ counted, (session.recount number total).fabric? number' = some counted := by
  rw [fabric?_recount total found]
  split
  · exact ⟨_, rfl⟩
  · exact ⟨fabric', found'⟩

-----------------------------------------------------------------------------------------
-- Operations whatever the count is
-----------------------------------------------------------------------------------------

theorem issueSender_recount (session : Session α) (number : Nat) (total : Counter)
    (answer : Registration Sender)
    : (session.recount number total).issueSender answer
        = (session.issueSender answer).recount number total := by
  cases answer <;> rfl

theorem issueReceiver_recount (session : Session α) (number : Nat) (total : Counter)
    (answer : Registration Receiver)
    : (session.recount number total).issueReceiver answer
        = (session.issueReceiver answer).recount number total := by
  cases answer <;> rfl

/-- What a registration answers does not show the count of links. -/
theorem ofSender_recount (place : Nat) (fabric : Fabric α) (total : Counter)
    (answer : Registration Sender)
    : (Reply.ofSender place (fabric.recount total) answer : Reply α)
        = .ofSender place fabric answer := by
  cases answer <;> rfl

theorem ofReceiver_recount (place : Nat) (fabric : Fabric α) (total : Counter)
    (answer : Registration Receiver)
    : (Reply.ofReceiver place (fabric.recount total) answer : Reply α)
        = .ofReceiver place fabric answer := by
  cases answer <;> rfl

theorem registerProducer_recount (found : session.fabric? number = some fabric) (number' : Nat)
    (uncounted
      : number' = number
        → (fabric.recount total).registerProducer = fabric.registerProducer.recount total)
    : (session.recount number total).registerProducer number'
        = (session.registerProducer number').recount number total := by
  cases found' : session.fabric? number' with
  | none =>
      have hgap := fabric?_recount_of_none total found found'
      rw [registerProducer_of_gap found', registerProducer_of_gap hgap]
      rfl
  | some fabric' =>
      obtain ⟨counted, count, hcounted, hwork, hput⟩ :=
        put_recount total found found' Fabric.registerProducer uncounted
      rw [registerProducer_of_found found', registerProducer_of_found hcounted, hwork, hput,
        issueSender_recount]
      simp only [Enrolment.recount, ofSender_recount]
      rfl

theorem registerConsumer_recount (found : session.fabric? number = some fabric) (number' : Nat)
    (uncounted
      : number' = number
        → (fabric.recount total).registerConsumer = fabric.registerConsumer.recount total)
    : (session.recount number total).registerConsumer number'
        = (session.registerConsumer number').recount number total := by
  cases found' : session.fabric? number' with
  | none =>
      have hgap := fabric?_recount_of_none total found found'
      rw [registerConsumer_of_gap found', registerConsumer_of_gap hgap]
      rfl
  | some fabric' =>
      obtain ⟨counted, count, hcounted, hwork, hput⟩ :=
        put_recount total found found' Fabric.registerConsumer uncounted
      rw [registerConsumer_of_found found', registerConsumer_of_found hcounted, hwork, hput,
        issueReceiver_recount]
      simp only [Enrolment.recount, ofReceiver_recount]
      rfl

theorem unregisterVia_recount (found : session.fabric? number = some fabric) (number' : Nat)
    (sender : Sender)
    : (session.recount number total).unregisterVia number' sender
        = (session.unregisterVia number' sender).recount number total := by
  cases found' : session.fabric? number' with
  | none =>
      have hgap := fabric?_recount_of_none total found found'
      rw [unregisterVia_of_gap found', unregisterVia_of_gap hgap]
      rfl
  | some fabric' =>
      obtain ⟨counted, count, hcounted, hwork, hput⟩ :=
        put_recount total found found' (fun fabric => fabric.unregister sender) fun _ =>
          fabric.unregister_recount total sender
      rw [unregisterVia_of_found found', unregisterVia_of_found hcounted, hwork, hput]
      rfl

/-- A push on a fabric without links changes nothing, whoever makes it. -/
theorem step_pushing_of_linkless {place : Nat} {sender : Sender}
    (held : session.sender? place = some sender)
    (found : session.fabric? sender.fabric = some fabric) (linkless : fabric.Linkless) (now : Nat)
    (consumer : Option Nat) (value : α)
    : session.step now (Operation.pushing place consumer value).command
        = .quiet
            (.pushed
              (if fabric.isRegistered sender = true then .rejected value
                else .failed (.unregisteredPush sender.slot) value))
            session := by
  rw [step_pushing now held found]
  cases registered : fabric.isRegistered sender with
  | true =>
      rw [linkless.push registered, keepWriting_self held found]
      rfl
  | false =>
      rw [Fabric.push_of_outdated registered, keepWriting_self held found]
      rfl

/-- A pop on a fabric without links changes nothing but the streak of the receiver. -/
theorem step_pop_of_linkless {place : Nat} {receiver : Receiver}
    (held : session.receiver? place = some receiver)
    (found : session.fabric? receiver.fabric = some fabric) (linkless : fabric.Linkless) (now : Nat)
    : session.step now (.pop place)
        = .quiet (.popped ⟨none, []⟩)
            (session.setReceiver place { receiver with streak := 0 }) := by
  have hpop : Reading.pop ⟨fabric, receiver, #[]⟩
      = (⟨none, []⟩, ⟨fabric, { receiver with streak := 0 }, #[]⟩) := by
    rw [Reading.pop, linkless.pop]
    rfl
  have hkept : (Reading.pop ⟨fabric, receiver, #[]⟩).2.receiver.fabric = receiver.fabric := by
    rw [hpop]
  rw [step, withReading_of_held held found hkept, hpop, keepReading]
  simp only [setFabric_self found]
  rfl

/-- Work on another fabric is kept whatever the count is. -/
theorem keepWriting_recount (found : session.fabric? number = some fabric) {writing : Writing α}
    {fabric' : Fabric α} (found' : session.fabric? writing.sender.fabric = some fabric')
    (apart : writing.sender.fabric ≠ number) (place : Nat)
    : (session.recount number total).keepWriting place writing
        = (session.keepWriting place writing).recount number total := by
  rw [keepWriting, setFabric_recount_of_ne total found found' apart]
  rfl

theorem keepReading_recount (found : session.fabric? number = some fabric) {reading : Reading α}
    {fabric' : Fabric α} (found' : session.fabric? reading.receiver.fabric = some fabric')
    (apart : reading.receiver.fabric ≠ number) (place : Nat)
    : (session.recount number total).keepReading place reading
        = (session.keepReading place reading).recount number total := by
  rw [keepReading, setFabric_recount_of_ne total found found' apart]
  rfl

theorem Barren.step_pushing_recount (barren : session.Barren shape configs number fabric)
    (now place : Nat) (consumer : Option Nat) (value : α)
    : (session.recount number total).step now (Operation.pushing place consumer value).command
        = (session.step now (Operation.pushing place consumer value).command).recount number
            total := by
  cases held : session.sender? place with
  | none =>
      cases consumer <;>
        simp only [Operation.pushing, Operation.command, step, withWriting, sender?_recount,
          held] <;>
        rfl
  | some sender =>
      have held' : (session.recount number total).sender? place = some sender := held
      have hcounted := fabric?_recount total barren.found sender.fabric
      by_cases here : number = sender.fabric
      · subst here
        rw [if_pos rfl] at hcounted
        rw [step_pushing_of_linkless held barren.found barren.linkless,
          step_pushing_of_linkless held' hcounted (Fabric.linkless_recount barren.linkless total)]
        rfl
      · obtain ⟨fabric', found', _⟩ :=
          barren.housed.sender (Option.map_eq_some_iff.mpr ⟨_, senders_of_held held, rfl⟩)
        have hkept : (Writing.push ⟨fabric', sender⟩ consumer value).2.sender.fabric
            = sender.fabric :=
          congrArg Badge.fabric (push_badge ⟨fabric', sender⟩ consumer value)
        rw [if_neg here] at hcounted
        rw [step_pushing now held found', step_pushing now held' (hcounted.trans found'),
          keepWriting_recount total barren.found
            ((congrArg session.fabric? hkept).trans found') (hkept ▸ Ne.symm here)]
        rfl

theorem Barren.step_pop_recount (barren : session.Barren shape configs number fabric)
    (now place : Nat)
    : (session.recount number total).step now (.pop place)
        = (session.step now (.pop place)).recount number total := by
  cases held : session.receiver? place with
  | none =>
      simp only [step, withReading, receiver?_recount, held]
      rfl
  | some receiver =>
      have held' : (session.recount number total).receiver? place = some receiver := held
      have hcounted := fabric?_recount total barren.found receiver.fabric
      by_cases here : number = receiver.fabric
      · subst here
        rw [if_pos rfl] at hcounted
        rw [step_pop_of_linkless held barren.found barren.linkless,
          step_pop_of_linkless held' hcounted (Fabric.linkless_recount barren.linkless total)]
        rfl
      · obtain ⟨fabric', found', _⟩ :=
          barren.housed.receiver (Option.map_eq_some_iff.mpr ⟨_, receivers_of_held held, rfl⟩)
        have hkept : (Reading.pop ⟨fabric', receiver, #[]⟩).2.receiver.fabric = receiver.fabric :=
          congrArg Seat.fabric (pop_seat ⟨fabric', receiver, #[]⟩)
        rw [if_neg here] at hcounted
        simp only [step]
        rw [withReading_of_held held found' hkept,
          withReading_of_held held' (hcounted.trans found') hkept,
          keepReading_recount total barren.found
            ((congrArg session.fabric? hkept).trans found') (hkept ▸ Ne.symm here)]
        rfl

theorem Barren.step_unregisterVia_recount
    (barren : session.Barren shape configs number fabric) (now number' place : Nat)
    : (session.recount number total).step now (.unregisterVia number' place)
        = (session.step now (.unregisterVia number' place)).recount number total := by
  cases found' : session.fabric? number' with
  | none =>
      have hgap := fabric?_recount_of_none total barren.found found'
      simp only [step, found', hgap]
      rfl
  | some fabric' =>
      obtain ⟨counted, hcounted⟩ := fabric?_recount_of_some total barren.found found'
      cases held : session.sender? place with
      | none =>
          simp only [step, found', hcounted, sender?_recount, held]
          rfl
      | some sender =>
          rw [step_unregisterVia now found' held, step_unregisterVia now hcounted held]
          exact unregisterVia_recount total barren.found number' sender

/-- An operation that is no failed registration with the fabric does the same whatever the count of
its links is.
-/
theorem Barren.step_recount (barren : session.Barren shape configs number fabric) (now : Nat)
    {operation : Operation α}
    (unfailed : operation.failed? (session.step now operation.command).reply ≠ some number)
    : (session.recount number total).step now operation.command
        = (session.step now operation.command).recount number total := by
  cases operation with
  | registerProducer number' =>
      refine registerProducer_recount total barren.found number' fun here => ?_
      subst here
      have hfreed := barren.tidy.freed_le barren.found
      refine barren.linkless.registerProducer_recount total barren.room hfreed fun _ failed =>
        unfailed ?_
      simp only [Operation.command, step, registerProducer_of_found barren.found, failed]
      rfl
  | registerConsumer number' =>
      refine registerConsumer_recount total barren.found number' fun here => ?_
      subst here
      refine barren.linkless.registerConsumer_recount total fun _ failed => unfailed ?_
      simp only [Operation.command, step, registerConsumer_of_found barren.found, failed]
      rfl
  | unregister place =>
      cases held : session.sender? place with
      | none =>
          simp only [Operation.command, step, sender?_recount, held]
          rfl
      | some sender =>
          have held' : (session.recount number total).sender? place = some sender := held
          rw [Operation.command, step_unregister now held, step_unregister now held']
          exact unregisterVia_recount total barren.found _ sender
  | unregisterVia number' place => exact barren.step_unregisterVia_recount total now number' place
  | dropSender place =>
      simp only [Operation.command, step, sender?_recount]
      cases session.sender? place <;> rfl
  | dropReceiver place =>
      simp only [Operation.command, step, receiver?_recount]
      cases session.receiver? place <;> rfl
  | push place value => exact barren.step_pushing_recount total now place none value
  | pushTo place consumer value =>
      exact barren.step_pushing_recount total now place (some consumer) value
  | pop place => exact barren.step_pop_recount total now place

end Recount

-----------------------------------------------------------------------------------------
-- Runs with failed registrations
-----------------------------------------------------------------------------------------

/-- The operations of a run that are not failed registrations with the fabric of a number, each with
its outcome.
-/
def unfailed (now number : Nat) (operations : List (Operation α)) (session : Session α)
    : List (Operation α × Outcome α) :=
  (course now operations session).filter fun entry =>
    entry.1.failed? entry.2.reply ≠ some number

/-- How many registrations with the fabric of a number have failed in a run. -/
def failures (now number : Nat) (operations : List (Operation α)) (session : Session α) : Nat :=
  (course now operations session).countP fun entry =>
    entry.1.failed? entry.2.reply = some number

theorem ofSender_eq_failed_iff {place : Nat} {fabric : Fabric α} {answer : Registration Sender}
    {failure : Failure}
    : Reply.ofSender place fabric answer = .failed failure ↔ answer = .failed failure := by
  cases answer <;> simp [Reply.ofSender]

theorem ofReceiver_eq_failed_iff {place : Nat} {fabric : Fabric α}
    {answer : Registration Receiver} {failure : Failure}
    : Reply.ofReceiver place fabric answer = .failed failure ↔ answer = .failed failure := by
  cases answer <;> simp [Reply.ofReceiver]

theorem Operation.failed?_eq_some {operation : Operation α} {reply : Reply α} {number : Nat}
    (failed : operation.failed? reply = some number)
    : (∃ failure, reply = .failed failure)
      ∧ (operation = .registerProducer number ∨ operation = .registerConsumer number) := by
  unfold failed? at failed
  split at failed
  · obtain rfl := Option.some.inj failed
    exact ⟨⟨_, rfl⟩, .inl rfl⟩
  · obtain rfl := Option.some.inj failed
    exact ⟨⟨_, rfl⟩, .inr rfl⟩
  · cases failed

section Barren

variable {shape : Shape} {configs : List Config} {session : Session α} {number : Nat}
  {fabric : Fabric α}

/-- A registration that fails takes and frees no slot, wires and logs nothing, and leaves all but
the count of links as it was.
-/
theorem Barren.step_of_failed (barren : session.Barren shape configs number fabric) {now : Nat}
    {operation : Operation α}
    (failed : operation.failed? (session.step now operation.command).reply = some number)
    : session.step now operation.command
        = .quiet (.failed .capacityOverflow) (session.recount number (fabric.linkCount + 1)) := by
  obtain ⟨⟨failure, hreply⟩, rfl | rfl⟩ := Operation.failed?_eq_some failed
  · have hstep := registerProducer_of_found barren.found
    have hanswer : fabric.registerProducer.answer = .failed failure :=
      ofSender_eq_failed_iff.mp ((congrArg Outcome.reply hstep).symm.trans hreply)
    have hfreed := barren.tidy.freed_le barren.found
    rw [barren.linkless.registerProducer_of_failed hfreed hanswer] at hstep
    rw [recount_of_found _ barren.found]
    exact hstep
  · have hstep := registerConsumer_of_found barren.found
    have hanswer : fabric.registerConsumer.answer = .failed failure :=
      ofReceiver_eq_failed_iff.mp ((congrArg Outcome.reply hstep).symm.trans hreply)
    rw [Fabric.registerConsumer_of_failed hanswer] at hstep
    rw [recount_of_found _ barren.found]
    exact hstep

/-- An operation leaves the fabric without links, and counts one more if it fails to register
somebody.
-/
theorem Barren.step (barren : session.Barren shape configs number fabric) (now : Nat)
    (operation : Operation α)
    : ∃ next,
        (session.step now operation.command).session.Barren shape configs number next
        ∧ next.linkCount
          = fabric.linkCount
            + if operation.failed? (session.step now operation.command).reply = some number then 1
              else 0 := by
  obtain ⟨_, _, hinstalled⟩ := barren.housed.fabric barren.found
  have htransition := step_transition now session operation
  rcases htransition.fabric? number with ⟨gap, _⟩ | ⟨before, next, hbefore, hnext, move⟩
  · cases gap.symm.trans barren.found
  · obtain rfl := Option.some.inj (hbefore.symm.trans barren.found)
    obtain ⟨hnew, hextends⟩ := move.installed hinstalled
    have hlinkless : next.Linkless :=
      hnew.wired.linkless (hextends.config ▸ barren.linkless.large)
        (move.one_sided barren.linkless.large barren.linkless.one_sided)
    have htidy := barren.tidy.step barren.housed now operation
    refine ⟨next, ⟨barren.housed.transition htransition, htidy, hnext, hlinkless,
      hextends.shape ▸ barren.room⟩, ?_⟩
    split
    · next failed =>
        rw [barren.step_of_failed failed] at hnext
        have hcounted :=
          (fabric?_recount (before.linkCount + 1) barren.found number).trans (if_pos rfl)
        obtain rfl := Option.some.inj (hcounted.symm.trans hnext)
        rfl
    · next unfailed =>
        have hstep := barren.step_recount before.linkCount now unfailed
        rw [recount_self barren.found] at hstep
        have hcounted := (fabric?_recount before.linkCount hnext number).trans (if_pos rfl)
        have hafter := congrArg (fun outcome => outcome.session.fabric? number) hstep
        have hsame : next = next.recount before.linkCount :=
          Option.some.inj (hnext.symm.trans (hafter.trans hcounted))
        exact (congrArg Fabric.linkCount hsame).trans (UInt64.add_zero _).symm

theorem failures_cons (now number : Nat) (operation : Operation α) (rest : List (Operation α))
    (session : Session α)
    : failures now number (operation :: rest) session
        = (if operation.failed? (session.step now operation.command).reply = some number then 1
            else 0)
          + failures now number rest (session.step now operation.command).session := by
  rw [failures, course_cons, List.countP_cons, failures, Nat.add_comm]
  simp only [decide_eq_true_eq]

/-- The links that a fabric without links counts are the registrations that have failed, as far as
a word counts.
-/
theorem Barren.after (barren : session.Barren shape configs number fabric) (now : Nat)
    (operations : List (Operation α))
    : ∃ later,
        (session.after now operations).Barren shape configs number later
        ∧ later.linkCount
          = fabric.linkCount + .ofNat (failures now number operations session) := by
  induction operations generalizing session fabric with
  | nil => exact ⟨fabric, barren, (UInt64.add_zero _).symm⟩
  | cons operation rest ih =>
      obtain ⟨next, hnext, hcount⟩ := barren.step now operation
      obtain ⟨later, hlater, htotal⟩ := ih hnext
      refine ⟨later, hlater, ?_⟩
      rw [htotal, hcount, failures_cons, UInt64.ofNat_add, apply_ite UInt64.ofNat,
        UInt64.add_assoc]
      rfl

/-- A run without its failed registrations has the same outcomes otherwise, but for the count of
links. The induction is over the operations; a failed one leaves the session that the next one
starts from, but for that count.
-/
theorem Barren.course_unfailed (barren : session.Barren shape configs number fabric) (now : Nat)
    (operations : List (Operation α)) (total : Counter)
    : let kept := unfailed now number operations session
      course now (kept.map Prod.fst) (session.recount number total)
          = kept.map (fun entry => (entry.1, entry.2.recount number total))
        ∧ (session.recount number total).after now (kept.map Prod.fst)
          = (session.after now operations).recount number total := by
  induction operations generalizing session fabric with
  | nil => exact ⟨rfl, rfl⟩
  | cons operation rest ih =>
      obtain ⟨next, hnext, _⟩ := barren.step now operation
      obtain ⟨hcourse, hafter⟩ := ih hnext
      dsimp only
      rw [unfailed, course_cons]
      by_cases failed : operation.failed? (session.step now operation.command).reply = some number
      · have hsession := congrArg Outcome.session (barren.step_of_failed failed)
        have hsame : (session.step now operation.command).session.recount number total
            = session.recount number total :=
          (congrArg (·.recount number total) hsession).trans (recount_recount barren.found _ total)
        rw [List.filter_cons_of_neg (by simpa using failed)]
        rw [hsame] at hcourse hafter
        exact ⟨hcourse, hafter⟩
      · have hstep := barren.step_recount total now failed
        rw [List.filter_cons_of_pos (by simpa using failed), List.map_cons, List.map_cons,
          course_cons, hstep]
        refine ⟨congrArg (List.cons _) hcourse, ?_⟩
        rw [after_cons, hstep]
        exact hafter

end Barren

-----------------------------------------------------------------------------------------
-- The lock on the slots
-----------------------------------------------------------------------------------------

/-- A session in which the slots of every fabric are behind a lock. A failure that strikes while the
lock of a fabric is held leaves it poisoned for good.
-/
structure Locked (α : Type) where
  session : Session α
  poisoned : List Nat

namespace Locked

/-- What is guarded by the lock of a fabric, with a warning if the lock is poisoned. -/
def take (locked : Locked α) (number : Nat) : Except (Session α) (Session α) :=
  if number ∈ locked.poisoned then .error locked.session else .ok locked.session

/-- What an operation works on. One that asks for slots takes the lock and heeds no warning. -/
def enter (locked : Locked α) (operation : Operation α) : Session α :=
  match operation.home? locked.session with
  | none => locked.session
  | some number =>
      match locked.take number with
      | .ok session | .error session => session

/-- One operation behind the lock of its fabric. -/
def step (now : Nat) (locked : Locked α) (operation : Operation α) : Outcome α × Locked α :=
  let outcome := (locked.enter operation).step now operation.command
  (outcome, ⟨outcome.session, (operation.failed? outcome.reply).toList ++ locked.poisoned⟩)

/-- The operations of a run, each with its outcome, and what is behind the locks at the end. -/
def run (now : Nat) : List (Operation α) → Locked α → List (Operation α × Outcome α) × Locked α
  | [], locked => ([], locked)
  | operation :: rest, locked =>
      let stepped := locked.step now operation
      let later := run now rest stepped.2
      ((operation, stepped.1) :: later.1, later.2)

/-- A poisoned lock lets everybody in. -/
theorem enter_eq (locked : Locked α) (operation : Operation α)
    : locked.enter operation = locked.session := by
  rw [enter]
  cases operation.home? locked.session with
  | none => rfl
  | some number =>
      simp only [take]
      by_cases poisoned : number ∈ locked.poisoned <;> simp [poisoned]

/-- An operation goes the same way whether or not the lock it takes is poisoned. -/
theorem step_eq (now : Nat) (locked : Locked α) (operation : Operation α)
    : locked.step now operation
        = (locked.session.step now operation.command,
            ⟨(locked.session.step now operation.command).session,
              (operation.failed? (locked.session.step now operation.command).reply).toList
                ++ locked.poisoned⟩) := by
  rw [step, enter_eq]

/-- Behind locks everything goes the same way, and the locks that are poisoned are those of the
fabrics on which a registration has failed.
-/
theorem run_eq (now : Nat) (operations : List (Operation α)) (locked : Locked α)
    : (locked.run now operations).1 = course now operations locked.session
      ∧ ∀ number,
          number ∈ (locked.run now operations).2.poisoned
            ↔ number ∈ locked.poisoned ∨ 0 < failures now number operations locked.session := by
  induction operations generalizing locked with
  | nil => exact ⟨rfl, fun number => by simp [run, failures, course]⟩
  | cons operation rest ih =>
      obtain ⟨hcourse, hpoisoned⟩ := ih (locked.step now operation).2
      rw [step_eq] at hcourse hpoisoned
      simp only [run, step_eq, hcourse, hpoisoned, course_cons, failures_cons]
      refine ⟨trivial, fun number => ?_⟩
      rw [List.mem_append, Option.mem_toList, Nat.add_pos_iff_pos_or_pos]
      by_cases failed
        : operation.failed? (locked.session.step now operation.command).reply = some number
      · simp [failed]
      · simp [failed]

end Locked

-----------------------------------------------------------------------------------------
-- Failed registrations do no harm
-----------------------------------------------------------------------------------------

/-- A fabric whose links are too large to allocate stays usable whatever fails on it, at every
moment of every run. It has slots on one side only and no entry of any row is wired, so every push
through a registered sender hands its value back and every pop comes back empty. The registration of
a consumer fails exactly if there is room for it and a producer slot, that of a producer exactly if
there is a consumer, in which case there are no producer slots. A registration that fails leaves all
but the count of links as it was and logs nothing. That count is the number of registrations that
have failed: it is kept in a word, so it is that number as long as there are fewer than 2^64, and
that number modulo 2^64 after that. Without them everything else in the run is the same. The first
one that fails poisons the lock, which goes on letting everybody in.
-/
theorem failed_registrations_harmless (shape : Shape) (configs : List Config) (now : Nat)
    (operations : List (Operation α)) {number : Nat} {config : Config}
    (room : 0 < shape.maxProducers) (configured : configs[number]? = some config)
    (large : Ring.allocationLimit ≤ config.channelCapacity)
    : let first : Session α := start shape configs
      let reached := first.after now operations
      let kept := unfailed now number operations first
      let locked := Locked.run now operations ⟨first, []⟩
      ∃ fabric,
        reached.fabric? number = some fabric
        ∧ fabric.Linkless
        ∧ (∀ place sender consumer value,
            reached.sender? place = some sender
            → sender.fabric = number
            → fabric.isRegistered sender = true
            → reached.step now (Operation.pushing place consumer value).command
              = .quiet (.pushed (.rejected value)) reached)
        ∧ (∀ place receiver,
            reached.receiver? place = some receiver
            → receiver.fabric = number
            → (reached.step now (.pop place)).reply = .popped ⟨none, []⟩)
        ∧ ((reached.step now (.registerConsumer number)).reply = .failed .capacityOverflow
          ↔ 0 < fabric.producerCount ∧ fabric.consumerCount < shape.maxConsumers)
        ∧ ((reached.step now (.registerProducer number)).reply = .failed .capacityOverflow
          ↔ 0 < fabric.consumerCount)
        ∧ (0 < fabric.consumerCount → fabric.producerCount = 0 ∧ fabric.freed = [])
        ∧ (∀ operation : Operation α,
            operation.failed? (reached.step now operation.command).reply = some number
            → reached.step now operation.command
              = .quiet (.failed .capacityOverflow)
                  (reached.recount number (fabric.linkCount + 1)))
        ∧ fabric.linkCount = .ofNat (failures now number operations first)
        ∧ (failures now number operations first < 0x10000000000000000
          → fabric.counts.links = failures now number operations first)
        ∧ course now (kept.map Prod.fst) first
          = kept.map (fun entry => (entry.1, entry.2.recount number 0))
        ∧ first.after now (kept.map Prod.fst) = reached.recount number 0
        ∧ locked.1 = course now operations first
        ∧ (number ∈ locked.2.poisoned ↔ 0 < failures now number operations first) := by
  intro first reached kept locked
  have hpositive : 0 < config.channelCapacity := Nat.lt_of_lt_of_le (by decide) large
  have hfirst : first.fabric? number = some (.bare number shape config) :=
    fabric?_start_of_positive shape configured hpositive
  have hhoused : first.Housed shape configs := housed_start shape configs
  obtain ⟨_, _, hinstalled⟩ := hhoused.fabric hfirst
  have hbarren : first.Barren shape configs number (.bare number shape config) :=
    ⟨hhoused, tidy_start shape configs, hfirst, hinstalled.wired.linkless large (.inl rfl), room⟩
  obtain ⟨fabric, hlast, hcount⟩ := hbarren.after now operations
  obtain ⟨hcourse, hafter⟩ := hbarren.course_unfailed now operations 0
  have hsame : first.recount number 0 = first := recount_self hfirst
  obtain ⟨hlocked, hpoisoned⟩ := Locked.run_eq now operations ⟨first, []⟩
  obtain ⟨_, _, hinstalled⟩ := hlast.housed.fabric hlast.found
  have hshape : fabric.shape = shape := hinstalled.shape_eq
  have hfreed := hlast.tidy.freed_le hlast.found
  have htotal : fabric.linkCount = .ofNat (failures now number operations first) :=
    hcount.trans (UInt64.zero_add _)
  rw [hsame] at hcourse hafter
  have hconsumer := congrArg Outcome.reply (registerConsumer_of_found hlast.found)
  have hproducer := congrArg Outcome.reply (registerProducer_of_found hlast.found)
  refine ⟨fabric, hlast.found, hlast.linkless, ?_, ?_, ?_, ?_, ?_,
    fun _ => hlast.step_of_failed, htotal, ?_, hcourse, hafter, hlocked, ?_⟩
  · rintro place sender consumer value held rfl registered
    rw [step_pushing_of_linkless held hlast.found hlast.linkless, if_pos registered]
  · rintro place receiver held rfl
    rw [step_pop_of_linkless held hlast.found hlast.linkless]
    rfl
  · rw [← hshape]
    exact (Eq.congr_left hconsumer).trans
      (ofReceiver_eq_failed_iff.trans hlast.linkless.registerConsumer_failed_iff)
  · exact (Eq.congr_left hproducer).trans
      (ofSender_eq_failed_iff.trans
        (hlast.linkless.registerProducer_failed_iff hlast.room hfreed))
  · intro paired
    have hnone : fabric.producerCount = 0 :=
      hlast.linkless.one_sided.resolve_right (Nat.ne_of_gt paired)
    rw [hnone, Nat.le_zero, List.length_eq_zero_iff] at hfreed
    exact ⟨hnone, hfreed⟩
  · intro fits
    rw [Fabric.counts, htotal, UInt64.toNat_ofNat_of_lt' fits]
  · rw [hpoisoned]
    exact or_iff_right List.not_mem_nil

/-- Two producers come to a fabric whose links are too large, one of them in a slot given up before,
and two consumers try to; the fabric beside it works as ever.
-/
def standstill : List (Operation Nat) :=
  [.registerProducer 0, .registerConsumer 0, .push 0 5, .unregister 0, .registerProducer 0,
    .registerProducer 0, .registerProducer 0, .registerConsumer 0, .registerProducer 1,
    .registerConsumer 1, .push 3 6]

/-- Both consumers fail and are counted, a third one would fail as well, and pushes are handed back.
Without the two the run ends in the same way, and the lock that they poisoned is taken all the same.
-/
theorem failed_registrations_harmless_standstill
    : let first := start ⟨2, 2⟩ [⟨Ring.allocationLimit, true⟩, ⟨1, true⟩]
      let reached := first.after 0 standstill
      let kept := (unfailed 0 0 standstill first).map Prod.fst
      let locked := Locked.run 0 standstill ⟨first, []⟩
      (reached.fabric? 0).map Fabric.counts = some ⟨2, 0, 2⟩
      ∧ failures 0 0 standstill first = 2
      ∧ (reached.step 0 (.registerConsumer 0)).reply = .failed .capacityOverflow
      ∧ (reached.step 0 (.push 1 7)).reply = .pushed (.rejected 7)
      ∧ kept.length = 9
      ∧ first.after 0 kept = reached.recount 0 0
      ∧ 0 ∈ locked.2.poisoned
      ∧ locked.1 = course 0 standstill first := by
  intro first reached kept locked
  have hconfig : ([⟨Ring.allocationLimit, true⟩, ⟨1, true⟩] : List Config)[0]?
      = some ⟨Ring.allocationLimit, true⟩ := rfl
  obtain ⟨fabric, found, _, hpush, _, hconsumer, _, _, _, _, hlinks, _, hafter, hlocked,
      hpoisoned⟩ :=
    failed_registrations_harmless ⟨2, 2⟩ _ 0 standstill (by decide) hconfig (Nat.le_refl _)
  have hfailures : failures 0 0 standstill first = 2 := by decide +kernel
  have hsizes
      : (reached.fabric? 0).map (fun fabric => (fabric.producerCount, fabric.consumerCount))
        = some (2, 0) := by
    decide +kernel
  have hlength : kept.length = 9 := by decide +kernel
  have hheld : reached.sender? 1 = some ⟨0, 0, ⟨3⟩, 0⟩ := by decide +kernel
  have hregistered
      : (reached.fabric? 0).map (fun fabric => fabric.isRegistered ⟨0, 0, ⟨3⟩, 0⟩) = some true := by
    decide +kernel
  rw [found, Option.map_some] at hsizes hregistered
  obtain ⟨hproducers, hconsumers⟩ := Prod.mk.inj (Option.some.inj hsizes)
  have hcount : fabric.linkCount.toNat = 2 :=
    (hlinks (by rw [hfailures]; decide)).trans hfailures
  refine ⟨?_, hfailures, ?_, ?_, hlength, hafter, ?_, hlocked⟩
  · rw [found, Option.map_some, Fabric.counts, hproducers, hconsumers, hcount]
  · exact hconsumer.mpr (by rw [hproducers, hconsumers]; decide)
  · have hpushed := hpush 1 _ none 7 hheld rfl (Option.some.inj hregistered)
    exact congrArg Outcome.reply hpushed
  · exact hpoisoned.mpr (by rw [hfailures]; decide)

end Session

end Crossbar
