import Mathlib.Data.List.Infix
import Mathlib.Data.List.Perm.Subperm
import Mathlib.Order.Bounds.Basic
import Crossbar.Proofs.Standing

/-! Slots are allocated exactly. The answers of a run show which producer slots of a fabric were
issued and which were given back, and this alone decides what the next registration gets: the slot
given back last that has not been issued since, a slot never used before, or a refusal. There are as
many slots as producers were ever registered at once.
-/

namespace Crossbar

variable {α : Type}

-----------------------------------------------------------------------------------------
-- What answers show of producer slots
-----------------------------------------------------------------------------------------

/-- What an answer shows of a producer slot: a registration was issued it, or one that ended has
given it back.
-/
inductive Allotment where
  | issued (slot : Nat)
  | returned (slot : Nat)
deriving Repr, DecidableEq

namespace Allotment

def isIssue : Allotment → Bool
  | .issued _ => true
  | .returned _ => false

def isReturn : Allotment → Bool
  | .issued _ => false
  | .returned _ => true

section Count

variable (allotments : List Allotment) (slot : Nat)

@[simp] theorem countP_isIssue_issued
    : (allotments ++ [issued slot]).countP isIssue = allotments.countP isIssue + 1 :=
  List.countP_append

@[simp] theorem countP_isIssue_returned
    : (allotments ++ [returned slot]).countP isIssue = allotments.countP isIssue :=
  List.countP_append

@[simp] theorem countP_isReturn_issued
    : (allotments ++ [issued slot]).countP isReturn = allotments.countP isReturn :=
  List.countP_append

@[simp] theorem countP_isReturn_returned
    : (allotments ++ [returned slot]).countP isReturn = allotments.countP isReturn + 1 :=
  List.countP_append

end Count

/-- How many producers are registered: one more for each slot issued, one fewer for each returned.
-/
def registered (allotments : List Allotment) : Nat :=
  allotments.countP isIssue - allotments.countP isReturn

/-- A slot was returned and not issued since, and every slot returned after it was issued since. -/
def LastReturned (allotments : List Allotment) (slot : Nat) : Prop :=
  ∃ before after,
    allotments = before ++ .returned slot :: after
    ∧ .issued slot ∉ after
    ∧ ∀ between other rest, after = between ++ .returned other :: rest → .issued other ∈ rest

/-- Every slot that was returned was issued since. -/
def AllReissued (allotments : List Allotment) : Prop :=
  ∀ before slot after, allotments = before ++ .returned slot :: after → .issued slot ∈ after

/-- The slots that are open after one more allotment. -/
def vacate (vacant : List Nat) : Allotment → List Nat
  | .issued slot => vacant.filter (· ≠ slot)
  | .returned slot => slot :: vacant

/-- The slot in front is taken off if it is issued. -/
theorem vacate_issued_front {slot : Nat} {rest : List Nat} (fresh : slot ∉ rest)
    : vacate (slot :: rest) (.issued slot) = rest := by
  rw [vacate, List.filter_cons_of_neg (by simp), List.filter_eq_self]
  intro other member
  rw [decide_eq_true_iff]
  rintro rfl
  exact fresh member

/-- The slots that were returned and not issued since, the one returned last in front. -/
def vacated (allotments : List Allotment) : List Nat :=
  allotments.foldl vacate []

theorem vacated_concat (allotments : List Allotment) (last : Allotment)
    : vacated (allotments ++ [last]) = vacate (vacated allotments) last :=
  List.foldl_concat ..

/-- Every vacated slot was returned and not issued since, and what was returned later and does not
stand in front of it was issued since. The induction is on the last allotment.
-/
theorem returned_of_vacated {allotments : List Allotment} {front rest : List Nat} {slot : Nat}
    (split : vacated allotments = front ++ slot :: rest)
    : ∃ before after,
        allotments = before ++ .returned slot :: after
        ∧ .issued slot ∉ after
        ∧ ∀ between other later,
            after = between ++ .returned other :: later
            → .issued other ∈ later ∨ other ∈ front := by
  induction allotments using List.reverseRecOn generalizing front rest with
  | nil => simp [vacated] at split
  | append_singleton allotments last ih =>
      rw [vacated_concat] at split
      cases last with
      | returned newest =>
          rw [vacate] at split
          cases front with
          | nil =>
              obtain ⟨rfl, _⟩ := List.cons.inj split
              exact ⟨allotments, [], rfl, List.not_mem_nil, by simp⟩
          | cons first front =>
              obtain ⟨rfl, htail⟩ := List.cons.inj split
              obtain ⟨before, after, rfl, unissued, later⟩ := ih htail
              refine ⟨before, after ++ [.returned newest], by simp, by simpa using unissued, ?_⟩
              intro between other following same
              rcases split_concat same with ⟨_, hlast, _⟩ | ⟨init, rfl, hafter⟩
              · obtain rfl := Allotment.returned.inj hlast
                exact .inr List.mem_cons_self
              · exact (later between other init hafter).imp (List.mem_append_left _)
                  (List.mem_cons_of_mem _)
      | issued taken =>
          -- The slot issued is gone, wherever it stood.
          rw [vacate] at split
          obtain ⟨left, _, hvacated, rfl, hright⟩ := List.filter_eq_append_iff.mp split
          obtain ⟨gap, _, rfl, hgap, hslot, _⟩ := List.filter_eq_cons_iff.mp hright
          rw [← List.append_assoc] at hvacated
          obtain ⟨before, after, rfl, unissued, later⟩ := ih hvacated
          have hother : slot ≠ taken := by simpa using hslot
          refine ⟨before, after ++ [.issued taken], by simp, by simp [unissued, hother], ?_⟩
          intro between other following same
          rcases split_concat same with ⟨_, hlast, _⟩ | ⟨init, rfl, hafter⟩
          · cases hlast
          · by_cases here : other = taken
            · exact .inl (by simp [here])
            · refine (later between other init hafter).imp (List.mem_append_left _) fun member => ?_
              rcases List.mem_append.mp member with hleft | hgone
              · exact List.mem_filter.mpr ⟨hleft, by simpa using here⟩
              · exact absurd (hgap other hgone) (by simpa using here)

/-- What stands in front of the vacated slots was returned last. -/
theorem lastReturned_of_vacated {allotments : List Allotment} {slot : Nat} {rest : List Nat}
    (vacant : vacated allotments = slot :: rest)
    : LastReturned allotments slot := by
  have hfront : vacated allotments = [] ++ slot :: rest := vacant
  obtain ⟨before, after, same, unissued, later⟩ := returned_of_vacated hfront
  exact ⟨before, after, same, unissued, fun between other rest split =>
    (later between other rest split).resolve_right List.not_mem_nil⟩

/-- A slot that was returned is vacated unless it was issued since. The induction is on the last
allotment.
-/
theorem mem_vacated_of_returned {before after : List Allotment} {slot : Nat}
    (unissued : .issued slot ∉ after)
    : slot ∈ vacated (before ++ .returned slot :: after) := by
  induction after using List.reverseRecOn with
  | nil =>
      rw [vacated_concat]
      exact List.mem_cons_self
  | append_singleton after last ih =>
      simp only [List.mem_append, List.mem_singleton, not_or] at unissued
      have hmember := ih unissued.1
      rw [← List.cons_append, ← List.append_assoc, vacated_concat]
      cases last with
      | returned newest => exact List.mem_cons_of_mem _ hmember
      | issued taken =>
          refine List.mem_filter.mpr ⟨hmember, ?_⟩
          simpa using unissued.2

theorem allReissued_of_vacated {allotments : List Allotment} (vacant : vacated allotments = [])
    : AllReissued allotments := by
  rintro before slot after rfl
  refine Classical.byContradiction fun unissued => ?_
  have hmember : slot ∈ vacated (before ++ .returned slot :: after) :=
    mem_vacated_of_returned unissued
  rw [vacant] at hmember
  exact List.not_mem_nil hmember

end Allotment

-----------------------------------------------------------------------------------------
-- What one operation does to the slots of a fabric
-----------------------------------------------------------------------------------------

namespace Fabric

/-- What becomes of the slots of a fabric when an answer shows an allotment, or none. -/
inductive Allots (fabric : Fabric α) : Option Allotment → Fabric α → Prop
  | kept {next : Fabric α} (freed : next.freed = fabric.freed)
    (count : next.producerCount = fabric.producerCount)
    : Allots fabric none next
  | reissued {slot : Nat} {next : Fabric α} (freed : fabric.freed = slot :: next.freed)
    (count : next.producerCount = fabric.producerCount)
    : Allots fabric (some (.issued slot)) next
  | fresh {next : Fabric α} (none : fabric.freed = []) (freed : next.freed = [])
    (count : next.producerCount = fabric.producerCount + 1)
    : Allots fabric (some (.issued fabric.producerCount)) next
  | returned {slot : Nat} {next : Fabric α} (freed : next.freed = slot :: fabric.freed)
    (count : next.producerCount = fabric.producerCount)
    : Allots fabric (some (.returned slot)) next

theorem OnlyLinks.allots {fabric next : Fabric α} (only : OnlyLinks fabric next)
    : fabric.Allots none next :=
  .kept only.sameRoll.1 only.sameWiring.producers

theorem ConsumerEnrolled.allots {fabric : Fabric α}
    {enrolled : Enrolment (Registration Receiver) α} (enrols : fabric.ConsumerEnrolled enrolled)
    : fabric.Allots none enrolled.fabric := by
  cases enrols with
  | refused | failed => exact .kept rfl rfl
  | issued => exact .kept rfl (producerCount_addConsumer _)

/-- What becomes of the seats of a fabric when an answer shows a seating, or none. -/
inductive Seats (fabric : Fabric α) : Option (Option Nat) → Fabric α → Prop
  | kept {next : Fabric α} (count : next.consumerCount = fabric.consumerCount)
    : Seats fabric none next
  | taken {next : Fabric α} (room : fabric.consumerCount < fabric.shape.maxConsumers)
    (count : next.consumerCount = fabric.consumerCount + 1)
    : Seats fabric (some (some fabric.consumerCount)) next
  | refused {next : Fabric α} (full : fabric.shape.maxConsumers ≤ fabric.consumerCount)
    (count : next.consumerCount = fabric.consumerCount)
    : Seats fabric (some none) next

/-- The slot that an answer to a registration shows. -/
def issuedSlot? : Registration Sender → Option Allotment
  | .issued sender => some (.issued sender.slot)
  | _ => none

/-- The seat that an answer to a registration shows, or that there was none. -/
def issuedSeat? : Registration Receiver → Option (Option Nat)
  | .issued receiver => some (some receiver.slot)
  | .refused => some none
  | .failed _ => none

/-- A sender whose registration ends is one of the fabric's own. -/
theorem own_of_unregister {fabric : Fabric α} {sender : Sender}
    (ok : (fabric.unregister sender).answer = .ok ())
    : sender.fabric = fabric.id := by
  have hended := fabric.ended sender
  generalize fabric.unregister sender = enrolled at ok hended
  cases hended with
  | misused => cases ok
  | ended own => exact own

/-- A registration issues the slot in front of the free ones, or a new one if none is free. -/
theorem ProducerEnrolled.allots {fabric : Fabric α}
    {enrolled : Enrolment (Registration Sender) α} (enrols : fabric.ProducerEnrolled enrolled)
    (none_of_missing
      : (∀ slot ∈ fabric.freed.head?, fabric.ticket? slot = none) → fabric.freed = [])
    : fabric.Allots (issuedSlot? enrolled.answer) enrolled.fabric := by
  cases enrols with
  | @reissued slot _ rest held links freed found size =>
      exact .reissued freed Array.size_setIfInBounds
  | fresh spent taken =>
      have hnone := none_of_missing fun slot first => ticket?_eq_none_iff.mpr (spent slot first)
      have htail : fabric.freed.tail = fabric.freed := by rw [hnone, List.tail_nil]
      cases taken with
      | refused | failed => exact .kept htail rfl
      | issued room =>
          exact .fresh hnone (htail.trans hnone) (producerCount_addProducer _)

/-- What the registration of a producer is answered: the slot in front of the free ones is issued,
and only if there is none a new slot, as long as there is room for one and its links can be
allocated.
-/
inductive Answers (fabric : Fabric α) : Enrolment (Registration Sender) α → Prop
  | reissued {sender : Sender} {rest : List Nat} {log : List Event} {next : Fabric α}
    (freed : fabric.freed = sender.slot :: rest)
    : Answers fabric ⟨.issued sender, log, next⟩
  | fresh {sender : Sender} {log : List Event} {next : Fabric α} (freed : fabric.freed = [])
    (slot : sender.slot = fabric.producerCount)
    (room : fabric.producerCount < fabric.shape.maxProducers)
    : Answers fabric ⟨.issued sender, log, next⟩
  | failed {failure : Failure} {log : List Event} {next : Fabric α} (freed : fabric.freed = [])
    (room : fabric.producerCount < fabric.shape.maxProducers)
    (large : Ring.allocationLimit ≤ fabric.config.channelCapacity)
    : Answers fabric ⟨.failed failure, log, next⟩
  | refused {log : List Event} (freed : fabric.freed = [])
    (full : fabric.shape.maxProducers ≤ fabric.producerCount)
    : Answers fabric ⟨.refused, log, fabric⟩

theorem ProducerEnrolled.answers {fabric : Fabric α}
    {enrolled : Enrolment (Registration Sender) α} (enrols : fabric.ProducerEnrolled enrolled)
    (none_of_missing
      : (∀ slot ∈ fabric.freed.head?, fabric.ticket? slot = none) → fabric.freed = [])
    : fabric.Answers enrolled := by
  cases enrols with
  | reissued freed => exact .reissued freed
  | fresh spent taken =>
      have hnone := none_of_missing fun slot first => ticket?_eq_none_iff.mpr (spent slot first)
      have hsame : { fabric with freed := fabric.freed.tail } = fabric := by
        rw [hnone, List.tail_nil, ← hnone]
      rw [hsame] at taken
      cases taken with
      | refused full => exact .refused hnone full
      | failed room _ large => exact .failed hnone room large
      | issued room => exact .fresh hnone rfl room

/-- Consumers are seated in order until there are as many as the shape allows. -/
theorem ConsumerEnrolled.seats {fabric : Fabric α}
    {enrolled : Enrolment (Registration Receiver) α} (enrols : fabric.ConsumerEnrolled enrolled)
    : fabric.Seats (issuedSeat? enrolled.answer) enrolled.fabric := by
  cases enrols with
  | refused full => exact .refused full rfl
  | failed => exact .kept rfl
  | issued room => exact .taken room (consumerCount_addConsumer _)

theorem ProducerEnrolled.seats {fabric : Fabric α}
    {enrolled : Enrolment (Registration Sender) α} (enrols : fabric.ProducerEnrolled enrolled)
    : fabric.Seats none enrolled.fabric := by
  cases enrols with
  | reissued => exact .kept rfl
  | fresh _ taken =>
      cases taken with
      | refused | failed => exact .kept rfl
      | issued => exact .kept (consumerCount_addProducer _)

theorem Ended.seats {fabric : Fabric α} {sender : Sender}
    {enrolled : Enrolment (Except UsageFault Unit) α} (ended : fabric.Ended sender enrolled)
    : fabric.Seats none enrolled.fabric := by
  cases ended with
  | misused | ended => exact .kept rfl

/-- The end of a registration frees its slot. -/
theorem Ended.allots {fabric : Fabric α} {sender : Sender}
    {enrolled : Enrolment (Except UsageFault Unit) α} (ended : fabric.Ended sender enrolled)
    (ok : enrolled.answer = .ok ())
    : fabric.Allots (some (.returned sender.slot)) enrolled.fabric := by
  cases ended with
  | misused => cases ok
  | ended => exact .returned rfl Array.size_setIfInBounds

end Fabric

namespace Session

/-- What the answer to an operation shows of the producer slots of the fabric of a number. -/
def Operation.allotment? (number : Nat) (session : Session α) (operation : Operation α)
    (outcome : Outcome α) : Option Allotment :=
  match operation.issue? outcome.reply, operation.ending? outcome.reply with
  | some (home, slot), _ => if home = number then some (.issued slot) else none
  | none, some place => (session.claim? number place).map fun claim => .returned claim.slot
  | none, none => none

/-- What the answer to an operation shows of the seats of the fabric of a number: the one that a
consumer was issued, or that there was none for it.
-/
def Operation.seating? (number : Nat) : Operation α → Reply α → Option (Option Nat)
  | .registerConsumer number', .receiverIssued _ slot _ =>
      if number' = number then some (some slot) else none
  | .registerConsumer number', .refused => if number' = number then some none else none
  | _, _ => none

/-- Whether an operation is a call to register a consumer with the fabric of a number. -/
def Operation.seats (number : Nat) : Operation α → Bool
  | .registerConsumer number' => number' == number
  | _ => false

/-- A registration of a producer shows an allotment if it issues a sender, on its own fabric. -/
theorem Operation.allotment?_registerProducer (number number' : Nat) (session : Session α)
    {outcome : Outcome α} {place : Nat} {fabric : Fabric α} {answer : Registration Sender}
    (reply : outcome.reply = .ofSender place fabric answer)
    : (Operation.registerProducer number').allotment? number session outcome
        = if number' = number then Fabric.issuedSlot? answer else none := by
  rw [allotment?, reply]
  cases answer with
  | issued sender => rfl
  | refused | failed => exact (ite_self none).symm

/-- The registration of a consumer shows nothing of the seats of another fabric. -/
theorem Operation.seating?_of_ne {number number' : Nat} (ne : number' ≠ number) (reply : Reply α)
    : (Operation.registerConsumer number').seating? number reply = none := by
  cases reply with
  | receiverIssued | refused => exact if_neg ne
  | _ => rfl

/-- The end of a registration shows an allotment if it was one on the fabric. -/
theorem Operation.allotment?_of_ending {operation : Operation α} {outcome : Outcome α}
    {place : Nat} (ending : operation.ending? outcome.reply = some place) (number : Nat)
    (session : Session α)
    : operation.allotment? number session outcome
        = (session.claim? number place).map fun claim => .returned claim.slot := by
  obtain ⟨done, rfl | ⟨_, rfl⟩⟩ := ending?_eq_some.mp ending <;> rw [allotment?, done] <;> rfl

/-- What a sender that is held claims on a fabric. -/
theorem claim?_of_held {session : Session α} {place : Nat} {sender : Sender} (number : Nat)
    (held : session.sender? place = some sender)
    : session.claim? number place
        = if sender.fabric = number then some ⟨sender.slot, sender.ticket⟩ else none := by
  rw [claim?, badge?, senders_of_held held]
  rfl

/-- The registration of a consumer shows a seating on its own fabric, unless it fails. -/
theorem Operation.seating?_registerConsumer (number place : Nat) (fabric : Fabric α)
    (answer : Registration Receiver)
    : (Operation.registerConsumer number).seating? number (.ofReceiver place fabric answer)
        = Fabric.issuedSeat? answer := by
  cases answer with
  | issued | refused => exact if_pos rfl
  | failed => rfl

/-- The roll of every fabric is tidy. -/
def Tidy (session : Session α) : Prop :=
  ∀ number fabric, session.fabric? number = some fabric → (session.roll number fabric []).Tidy

section Step

variable {shape : Shape} {configs : List Config} {session : Session α} {number : Nat}
  {fabric : Fabric α} {operation : Operation α}

theorem tidy_start (shape : Shape) (configs : List Config)
    : (start shape configs : Session α).Tidy := by
  intro number fabric found
  obtain ⟨config, _, rfl⟩ := bare_of_start found
  exact (sound_roll_bare shape configs number config).tidy

theorem Tidy.step (tidy : session.Tidy) (housed : session.Housed shape configs) (now : Nat)
    (operation : Operation α)
    : (session.step now operation.command).session.Tidy := by
  intro number next after
  obtain ⟨fabric, found, hroll⟩ := housed.roll_step now operation [] after
  have htidy := (tidy number fabric found).step hroll
  exact ⟨htidy.freed_nodup, htidy.mem_freed_iff, htidy.claim_active⟩

/-- A fabric that is put back stands in place of the one of its number, and no other changes. -/
theorem fabric?_put (found : session.fabric? number = some fabric) {number' : Nat}
    {fabric' : Fabric α} (found' : session.fabric? number' = some fabric') (next : Fabric α)
    : number' = number ∧ fabric' = fabric
        ∧ (session.setFabric number' next).fabric? number = some next
      ∨ number' ≠ number ∧ (session.setFabric number' next).fabric? number = some fabric := by
  have hput := fabric?_setFabric found' next number
  by_cases here : number' = number
  · subst here
    exact .inl ⟨rfl, Option.some.inj (found'.symm.trans found), hput.trans (if_pos rfl)⟩
  · exact .inr ⟨here, (hput.trans (if_neg here)).trans found⟩

/-- An operation that neither registers anybody nor ends a registration changes links alone. -/
theorem Transition.onlyLinks {outcome : Outcome α}
    (transition : session.Transition operation outcome)
    (found : session.fabric? number = some fabric)
    (unsent : ∀ number', operation ≠ .registerProducer number')
    (unseated : ∀ number', operation ≠ .registerConsumer number')
    (unended : operation.ending? outcome.reply = none)
    : ∃ next, outcome.session.fabric? number = some next ∧ Fabric.OnlyLinks fabric next := by
  have hput {number' : Nat} {fabric' next : Fabric α}
      (found' : session.fabric? number' = some fabric') (only : Fabric.OnlyLinks fabric' next)
      : ∃ after,
          (session.setFabric number' next).fabric? number = some after
          ∧ Fabric.OnlyLinks fabric after := by
    rcases fabric?_put found found' next with ⟨rfl, rfl, hput⟩ | ⟨_, hput⟩
    · exact ⟨next, hput, only⟩
    · exact ⟨fabric, hput, .refl fabric⟩
  cases transition with
  | missed | letGoSender | letGoReceiver => exact ⟨fabric, found, .refl fabric⟩
  | producer => exact absurd rfl (unsent _)
  | consumer => exact absurd rfl (unseated _)
  | @unregistered _ number' place sender fabric' asks held found' =>
      have hended := fabric'.ended sender
      generalize fabric'.unregister sender = enrolled at unended hended
      cases hended with
      | misused => exact hput found' (.refl fabric')
      | ended => rcases asks with ⟨rfl, _⟩ | rfl <;> cases unended
  | @pushed place consumer value sender fabric' held found' =>
      have hkept := congrArg Badge.fabric (push_badge ⟨fabric', sender⟩ consumer value)
      obtain ⟨next, hnext, honly⟩ :=
        hput found' (onlyLinks_writing ⟨fabric', sender⟩ consumer value)
      exact ⟨next, (fabric?_keepWriting session place hkept number).trans hnext, honly⟩
  | @popped place receiver fabric' held found' =>
      have hkept := congrArg Seat.fabric (pop_seat ⟨fabric', receiver, #[]⟩)
      obtain ⟨next, hnext, honly⟩ := hput found' (fabric'.onlyLinks_pop receiver)
      exact ⟨next, (fabric?_keepReading session place hkept number).trans hnext, honly⟩

/-- What an operation does to the slots of a fabric, and what its answer shows of it. -/
inductive Enrols (number : Nat) (session : Session α) (operation : Operation α)
    (outcome : Outcome α) (fabric : Fabric α) : Fabric α → Prop
  | idle {next : Fabric α} (only : Fabric.OnlyLinks fabric next)
    (allotment : operation.allotment? number session outcome = none)
    (seating : operation.seating? number outcome.reply = none)
    : Enrols number session operation outcome fabric next
  | producer
    (allotment
      : operation.allotment? number session outcome
        = Fabric.issuedSlot? fabric.registerProducer.answer)
    (seating : operation.seating? number outcome.reply = none)
    : Enrols number session operation outcome fabric fabric.registerProducer.fabric
  | consumer (allotment : operation.allotment? number session outcome = none)
    (seating
      : operation.seating? number outcome.reply = Fabric.issuedSeat? fabric.registerConsumer.answer)
    : Enrols number session operation outcome fabric fabric.registerConsumer.fabric
  | ended {sender : Sender} (ok : (fabric.unregister sender).answer = .ok ())
    (allotment : operation.allotment? number session outcome = some (.returned sender.slot))
    (seating : operation.seating? number outcome.reply = none)
    : Enrols number session operation outcome fabric (fabric.unregister sender).fabric

theorem enrols_registerProducer (found : session.fabric? number = some fabric) (number' : Nat)
    : ∃ next,
        (session.registerProducer number').session.fabric? number = some next
        ∧ Enrols number session (.registerProducer number') (session.registerProducer number')
            fabric next := by
  cases found' : session.fabric? number' with
  | none =>
      rw [registerProducer_of_gap found']
      exact ⟨fabric, found, .idle (.refl fabric) rfl rfl⟩
  | some fabric' =>
      rw [registerProducer_of_found found']
      rcases fabric?_put found found' fabric'.registerProducer.fabric
        with ⟨rfl, rfl, hput⟩ | ⟨elsewhere, hput⟩
      · refine ⟨_, (fabric?_issueSender _ _ _).trans hput, .producer ?_ rfl⟩
        exact (Operation.allotment?_registerProducer _ _ _ rfl).trans (if_pos rfl)
      · refine ⟨_, (fabric?_issueSender _ _ _).trans hput, .idle (.refl fabric) ?_ rfl⟩
        exact (Operation.allotment?_registerProducer _ _ _ rfl).trans (if_neg elsewhere)

theorem enrols_registerConsumer (found : session.fabric? number = some fabric) (number' : Nat)
    : ∃ next,
        (session.registerConsumer number').session.fabric? number = some next
        ∧ Enrols number session (.registerConsumer number') (session.registerConsumer number')
            fabric next := by
  cases found' : session.fabric? number' with
  | none =>
      rw [registerConsumer_of_gap found']
      exact ⟨fabric, found, .idle (.refl fabric) rfl rfl⟩
  | some fabric' =>
      rw [registerConsumer_of_found found']
      rcases fabric?_put found found' fabric'.registerConsumer.fabric
        with ⟨rfl, rfl, hput⟩ | ⟨elsewhere, hput⟩
      · refine ⟨_, (fabric?_issueReceiver _ _ _).trans hput, .consumer rfl ?_⟩
        exact Operation.seating?_registerConsumer ..
      · refine ⟨_, (fabric?_issueReceiver _ _ _).trans hput, .idle (.refl fabric) rfl ?_⟩
        exact Operation.seating?_of_ne elsewhere _

theorem Housed.enrols_ending (housed : session.Housed shape configs)
    (found : session.fabric? number = some fabric) {now place : Nat}
    (ending : operation.ending? (session.step now operation.command).reply = some place)
    : ∃ next,
        (session.step now operation.command).session.fabric? number = some next
        ∧ Enrols number session operation (session.step now operation.command) fabric next := by
  obtain ⟨number', sender, fabric', held, found', ok, same⟩ := of_ending ending
  obtain ⟨_, _, hinstalled⟩ := housed.fabric found'
  have hown := (fabric'.own_of_unregister ok).trans hinstalled.id_eq
  have hallotment := Operation.allotment?_of_ending ending number session
  rw [claim?_of_held number held, hown] at hallotment
  have hseating
      : operation.seating? number (session.step now operation.command).reply = none := by
    obtain ⟨done, rfl | ⟨_, rfl⟩⟩ := ending?_eq_some.mp ending <;> rfl
  rcases fabric?_put found found' (fabric'.unregister sender).fabric
    with ⟨rfl, rfl, hput⟩ | ⟨elsewhere, hput⟩
  · rw [if_pos rfl] at hallotment
    exact ⟨_, same ▸ hput, .ended ok hallotment hseating⟩
  · rw [if_neg elsewhere] at hallotment
    exact ⟨_, same ▸ hput, .idle (.refl fabric) hallotment hseating⟩

/-- Every operation does to the slots of a fabric what its answer shows. -/
theorem Housed.enrols_step (housed : session.Housed shape configs)
    (found : session.fabric? number = some fabric) (now : Nat) (operation : Operation α)
    : ∃ next,
        (session.step now operation.command).session.fabric? number = some next
        ∧ Enrols number session operation (session.step now operation.command) fabric next := by
  cases ending : operation.ending? (session.step now operation.command).reply with
  | some place => exact housed.enrols_ending found ending
  | none =>
      cases operation with
      | registerProducer number' => exact enrols_registerProducer found number'
      | registerConsumer number' => exact enrols_registerConsumer found number'
      | _ =>
          obtain ⟨next, hnext, honly⟩ :=
            (step_transition now session _).onlyLinks found (fun _ asked => by cases asked)
              (fun _ asked => by cases asked) ending
          refine ⟨next, hnext, .idle honly ?_ rfl⟩
          rw [Operation.allotment?, ending]
          rfl

/-- An operation does to the producer slots of a fabric what its answer shows of them. -/
theorem Enrols.allots {outcome : Outcome α} {next : Fabric α}
    (enrols : Enrols number session operation outcome fabric next)
    (tidy : (session.roll number fabric []).Tidy)
    : fabric.Allots (operation.allotment? number session outcome) next := by
  cases enrols with
  | idle only allotment => exact allotment ▸ only.allots
  | producer allotment =>
      exact allotment ▸ fabric.producerEnrolled.allots tidy.freed_of_missing
  | consumer allotment => exact allotment ▸ fabric.consumerEnrolled.allots
  | ended ok allotment => exact allotment ▸ (fabric.ended _).allots ok

/-- An operation does to the seats of a fabric what its answer shows of them. -/
theorem Enrols.seats {outcome : Outcome α} {next : Fabric α}
    (enrols : Enrols number session operation outcome fabric next)
    : fabric.Seats (operation.seating? number outcome.reply) next := by
  cases enrols with
  | idle only _ seating =>
      exact seating ▸ .kept (congrArg Array.size only.sameWiring.consumers)
  | producer _ seating => exact seating ▸ fabric.producerEnrolled.seats
  | consumer _ seating => exact seating ▸ fabric.consumerEnrolled.seats
  | ended _ _ seating => exact seating ▸ (fabric.ended _).seats

end Step

-----------------------------------------------------------------------------------------
-- Runs
-----------------------------------------------------------------------------------------

/-- What is seen of the operations of a run, in order. -/
def observe {β : Type} (look : Session α → Operation α → Outcome α → Option β) (now : Nat)
    : List (Operation α) → Session α → List β
  | [], _ => []
  | operation :: rest, session =>
      let outcome := session.step now operation.command
      (look session operation outcome).toList ++ observe look now rest outcome.session

theorem after_concat (now : Nat) (operations : List (Operation α)) (last : Operation α)
    (session : Session α)
    : session.after now (operations ++ [last])
        = ((session.after now operations).step now last.command).session := by
  induction operations generalizing session with
  | nil => rfl
  | cons operation rest ih => exact ih _

theorem observe_concat {β : Type} (look : Session α → Operation α → Outcome α → Option β)
    (now : Nat) (operations : List (Operation α)) (last : Operation α) (session : Session α)
    : observe look now (operations ++ [last]) session
        = observe look now operations session
          ++ (look (session.after now operations) last
              ((session.after now operations).step now last.command)).toList := by
  induction operations generalizing session with
  | nil => exact List.append_nil _
  | cons operation rest ih =>
      rw [List.cons_append, observe, observe, ih, List.append_assoc]
      rfl

/-- The producer slots of a fabric that a run issued and that were returned, in order. -/
def allotments (now number : Nat) (operations : List (Operation α)) (session : Session α)
    : List Allotment :=
  observe (fun session operation => operation.allotment? number session) now operations session

/-- The seats that a run issued to consumers of a fabric, in order, with a gap for each consumer
that was refused one. A registration that fails is not counted.
-/
def seatings (now number : Nat) (operations : List (Operation α)) (session : Session α)
    : List (Option Nat) :=
  observe (fun _ operation outcome => operation.seating? number outcome.reply) now operations
    session

theorem allotments_concat (now number : Nat) (operations : List (Operation α))
    (last : Operation α) (session : Session α)
    : allotments now number (operations ++ [last]) session
        = allotments now number operations session
          ++ (last.allotment? number (session.after now operations)
              ((session.after now operations).step now last.command)).toList :=
  observe_concat ..

theorem seatings_concat (now number : Nat) (operations : List (Operation α))
    (last : Operation α) (session : Session α)
    : seatings now number (operations ++ [last]) session
        = seatings now number operations session
          ++ (last.seating? number
              ((session.after now operations).step now last.command).reply).toList :=
  observe_concat ..

open Allotment

/-- The free slots of a fabric are those that its allotments have vacated, and all others are with
registered producers.
-/
structure Allotted (allotments : List Allotment) (fabric : Fabric α) : Prop where
  freed_eq : fabric.freed = vacated allotments
  balance
    : allotments.countP isIssue + fabric.freed.length
      = allotments.countP isReturn + fabric.producerCount
  freed_le : fabric.freed.length ≤ fabric.producerCount

section Allotted

variable {events : List Allotment} {fabric next : Fabric α} {shown : Option Allotment}

theorem Allotted.returns_le (allotted : Allotted events fabric)
    : events.countP isReturn ≤ events.countP isIssue := by
  have hbalance := allotted.balance
  have hle := allotted.freed_le
  omega

theorem Allotted.registered_eq (allotted : Allotted events fabric)
    : registered events = fabric.producerCount - fabric.freed.length := by
  have hbalance := allotted.balance
  have hle := allotted.freed_le
  rw [registered]
  omega

theorem Allotted.allots (allotted : Allotted events fabric) (allots : fabric.Allots shown next)
    (nodup : fabric.freed.Nodup) (freed_le : next.freed.length ≤ next.producerCount)
    : Allotted (events ++ shown.toList) next := by
  have hbalance := allotted.balance
  cases allots with
  | kept freed count =>
      rw [Option.toList_none, List.append_nil]
      exact ⟨freed.trans allotted.freed_eq, by rw [freed, count]; exact hbalance, freed_le⟩
  | @reissued slot next freed count =>
      rw [freed, List.nodup_cons] at nodup
      rw [freed, List.length_cons] at hbalance
      rw [Option.toList_some]
      refine ⟨?_, ?_, freed_le⟩
      · rw [vacated_concat, ← allotted.freed_eq, freed, vacate_issued_front nodup.1]
      · rw [countP_isIssue_issued, countP_isReturn_issued]
        omega
  | fresh none freed count =>
      rw [none, List.length_nil] at hbalance
      rw [Option.toList_some]
      refine ⟨?_, ?_, freed_le⟩
      · rw [vacated_concat, ← allotted.freed_eq, none, freed]
        rfl
      · rw [countP_isIssue_issued, countP_isReturn_issued, freed, List.length_nil]
        omega
  | returned freed count =>
      rw [Option.toList_some]
      refine ⟨?_, ?_, freed_le⟩
      · rw [vacated_concat, ← allotted.freed_eq, freed]
        rfl
      · rw [countP_isIssue_returned, countP_isReturn_returned, freed, List.length_cons]
        omega

/-- There is one more slot exactly when more producers are registered than ever before. -/
theorem Allotted.peak (after : Allotted events next) (allots : fabric.Allots shown next)
    : next.producerCount = max (registered events) fabric.producerCount := by
  rw [after.registered_eq]
  cases allots with
  | kept _ count | reissued _ count | returned _ count => omega
  | fresh _ freed count =>
      rw [freed, List.length_nil]
      omega

/-- What a registration is answered, told by the allotments before it. -/
theorem Allotted.registration (allotted : Allotted events fabric)
    {enrolled : Enrolment (Registration Sender) α} (answers : fabric.Answers enrolled)
    (within : fabric.producerCount ≤ fabric.shape.maxProducers)
    : (enrolled.answer = .refused ↔ registered events = fabric.shape.maxProducers)
      ∧ (enrolled.answer = .refused
        ∨ (∃ failure, enrolled.answer = .failed failure)
          ∧ Ring.allocationLimit ≤ fabric.config.channelCapacity
        ∨ ∃ sender,
            enrolled.answer = .issued sender
            ∧ (LastReturned events sender.slot
              ∨ AllReissued events ∧ sender.slot = fabric.producerCount)) := by
  have hregistered := allotted.registered_eq
  have hreissued (freed : fabric.freed = []) : AllReissued events :=
    allReissued_of_vacated (allotted.freed_eq.symm.trans freed)
  cases answers with
  | reissued freed =>
      have hle := allotted.freed_le
      rw [freed, List.length_cons] at hle hregistered
      have hlast := lastReturned_of_vacated (allotted.freed_eq.symm.trans freed)
      exact ⟨iff_of_false nofun (by omega), .inr (.inr ⟨_, rfl, .inl hlast⟩)⟩
  | fresh freed slot room =>
      rw [freed, List.length_nil] at hregistered
      exact ⟨iff_of_false nofun (by omega), .inr (.inr ⟨_, rfl, .inr ⟨hreissued freed, slot⟩⟩)⟩
  | failed freed room large =>
      rw [freed, List.length_nil] at hregistered
      exact ⟨iff_of_false nofun (by omega), .inr (.inl ⟨⟨_, rfl⟩, large⟩)⟩
  | refused freed full =>
      rw [freed, List.length_nil] at hregistered
      exact ⟨iff_of_true rfl (by omega), .inl rfl⟩

end Allotted

/-- Consumers have been seated in order, as many as there is room for, and every one after those was
refused.
-/
structure Seated (most : Nat) (seatings : List (Option Nat)) (count : Nat) : Prop where
  seatings_eq
    : seatings
      = (List.range seatings.length).map fun call => if call < most then some call else none
  count_eq : count = min seatings.length most

theorem Seated.seats {seatings : List (Option Nat)} {fabric next : Fabric α}
    {shown : Option (Option Nat)}
    (seated : Seated fabric.shape.maxConsumers seatings fabric.consumerCount)
    (seats : fabric.Seats shown next)
    : Seated fabric.shape.maxConsumers (seatings ++ shown.toList) next.consumerCount := by
  have hcount := seated.count_eq
  have hcall (seat : Option Nat)
      (same : seat = if seatings.length < fabric.shape.maxConsumers then some seatings.length
        else none)
      : seatings ++ [seat]
        = (List.range (seatings ++ [seat]).length).map fun call =>
            if call < fabric.shape.maxConsumers then some call else none := by
    rw [List.length_append, List.length_singleton, List.range_succ, List.map_append,
      ← seated.seatings_eq, List.map_singleton, same]
  cases seats with
  | kept count =>
      rw [Option.toList_none, List.append_nil, count]
      exact seated
  | taken room count =>
      have hnumber : fabric.consumerCount = seatings.length := by omega
      refine ⟨hcall _ ?_, ?_⟩
      · rw [← hnumber, if_pos room]
      · rw [Option.toList_some, List.length_append, List.length_singleton]
        omega
  | refused full count =>
      refine ⟨hcall _ ?_, ?_⟩
      · rw [if_neg (by omega)]
      · rw [Option.toList_some, List.length_append, List.length_singleton]
        omega

section Runs

variable {shape : Shape} {configs : List Config} {session : Session α} {number : Nat}
  {fabric : Fabric α}

theorem Tidy.after (tidy : session.Tidy) (housed : session.Housed shape configs) (now : Nat)
    (operations : List (Operation α))
    : (session.after now operations).Tidy := by
  induction operations generalizing session with
  | nil => exact tidy
  | cons operation rest ih =>
      exact ih (tidy.step housed now operation)
        (housed.transition (step_transition now session operation))

/-- There are no more free slots than slots. -/
theorem Tidy.freed_le (tidy : session.Tidy) (found : session.fabric? number = some fabric)
    : fabric.freed.length ≤ fabric.producerCount := by
  have htidy := tidy number fabric found
  have hwithin : fabric.freed ⊆ List.range fabric.producerCount := by
    intro slot member
    obtain ⟨ticket, hticket, _⟩ := (htidy.mem_freed_iff slot).mp member
    obtain ⟨_, hslot, _⟩ := Option.map_eq_some_iff.mp hticket
    exact List.mem_range.mpr (Array.getElem?_eq_some_iff.mp hslot).1
  have hle := (htidy.freed_nodup.subperm hwithin).length_le
  rwa [List.length_range] at hle

/-- How many producers of a fabric were registered at the moments of a run. -/
def rosterSizes (now number : Nat) (operations : List (Operation α)) (session : Session α)
    : Set Nat :=
  {count | ∃ past, past <+: operations
    ∧ count = registered (allotments now number past session)}

theorem rosterSizes_concat (now number : Nat) (operations : List (Operation α))
    (last : Operation α) (session : Session α)
    : rosterSizes now number (operations ++ [last]) session
        = insert (registered (allotments now number (operations ++ [last]) session))
            (rosterSizes now number operations session) := by
  ext count
  simp only [rosterSizes, Set.mem_ofPred_eq, Set.mem_insert_iff, List.prefix_concat_iff,
    or_and_right, exists_or, exists_eq_left]

/-- At every moment of a run the slots of a fabric are as its answers show them. The induction is on
the last operation.
-/
theorem allotted_after (tidy : session.Tidy) (housed : session.Housed shape configs)
    (found : session.fabric? number = some fabric) (unused : fabric.producerCount = 0)
    (empty : fabric.consumerCount = 0) (now : Nat) (operations : List (Operation α))
    : ∃ next,
        (session.after now operations).fabric? number = some next
        ∧ Allotted (allotments now number operations session) next
        ∧ IsGreatest (rosterSizes now number operations session) next.producerCount
        ∧ Seated shape.maxConsumers (seatings now number operations session)
            next.consumerCount := by
  induction operations using List.reverseRecOn with
  | nil =>
      have hfreed := tidy.freed_le found
      rw [unused, Nat.le_zero, List.length_eq_zero_iff] at hfreed
      refine ⟨fabric, found, ⟨hfreed, by rw [hfreed, unused]; rfl, by simp [hfreed]⟩, ?_, rfl, ?_⟩
      · simp [rosterSizes, allotments, observe, registered, unused]
      · simp [empty, seatings, observe]
  | append_singleton operations last ih =>
      obtain ⟨before, hbefore, hallotted, hgreatest, hseated⟩ := ih
      have htidy := tidy.after housed now operations
      have hhoused := housed.after now operations
      obtain ⟨_, _, hinstalled⟩ := hhoused.fabric hbefore
      obtain ⟨next, hnext, henrols⟩ := hhoused.enrols_step hbefore now last
      have hallots := henrols.allots (htidy number before hbefore)
      have hfreed := (htidy.step hhoused now last).freed_le hnext
      have hafter := hallotted.allots hallots (htidy number before hbefore).freed_nodup hfreed
      have hseats := (hinstalled.shape_eq ▸ hseated).seats henrols.seats
      rw [hinstalled.shape_eq] at hseats
      rw [after_concat, rosterSizes_concat, allotments_concat, seatings_concat]
      exact ⟨next, hnext, hafter, hafter.peak hallots ▸ hgreatest.insert _, hseats⟩

theorem ofSender_eq_refused_iff {place : Nat} {answer : Registration Sender}
    : Reply.ofSender place fabric answer = .refused ↔ answer = .refused := by
  cases answer <;> simp [Reply.ofSender]

theorem ofReceiver_eq_refused_iff {place : Nat} {answer : Registration Receiver}
    : Reply.ofReceiver place fabric answer = .refused ↔ answer = .refused := by
  cases answer <;> simp [Reply.ofReceiver]

/-- A request that is refused changes nothing. -/
theorem Tidy.step_of_refused (tidy : session.Tidy) {now : Nat} {operation : Operation α}
    (refused : (session.step now operation.command).reply = .refused)
    : (session.step now operation.command).session = session := by
  have htransition := step_transition now session operation
  generalize session.step now operation.command = outcome at refused htransition
  cases htransition with
  | missed => rfl
  | letGoSender | letGoReceiver | pushed | popped => cases refused
  | @producer number fabric found =>
      have hanswers := fabric.producerEnrolled.answers (tidy number fabric found).freed_of_missing
      have hrefused := ofSender_eq_refused_iff.mp refused
      simp only [Outcome.logged, hrefused, issueSender]
      generalize fabric.registerProducer = enrolled at hrefused hanswers
      cases hanswers with
      | refused => exact setFabric_self found
      | _ => cases hrefused
  | @consumer number fabric found =>
      have henrols := fabric.consumerEnrolled
      have hrefused := ofReceiver_eq_refused_iff.mp refused
      simp only [Outcome.logged, hrefused, issueReceiver]
      generalize fabric.registerConsumer = enrolled at hrefused henrols
      cases henrols with
      | refused => exact setFabric_self found
      | _ => cases hrefused
  | @unregistered _ number place sender fabric =>
      cases hanswer : (fabric.unregister sender).answer <;>
        simp [Outcome.logged, Reply.ofUsage, hanswer] at refused

/-- A call to register a consumer with a fabric that is there shows a seating, unless it fails. -/
theorem seating?_isSome (found : session.fabric? number = some fabric) (now : Nat)
    (operation : Operation α)
    (unfailed
      : ∀ failure, (session.step now operation.command).reply ≠ .failed failure)
    : (operation.seating? number (session.step now operation.command).reply).isSome
        = operation.seats number := by
  cases operation with
  | registerConsumer number' =>
      simp only [Operation.command, step, Operation.seats] at unfailed ⊢
      by_cases here : number' = number
      · subst here
        rw [registerConsumer_of_found found] at unfailed ⊢
        rw [Outcome.logged, Operation.seating?_registerConsumer]
        cases hanswer : fabric.registerConsumer.answer with
        | issued | refused => simp [Fabric.issuedSeat?]
        | failed failure =>
            refine absurd ?_ (unfailed failure)
            rw [Outcome.logged, hanswer, Reply.ofReceiver]
      · rw [Operation.seating?_of_ne here]
        simpa using here
  | _ => rfl

/-- If no call fails there are as many seatings as calls to register a consumer. -/
theorem length_seatings (housed : session.Housed shape configs)
    (found : session.fabric? number = some fabric) (now : Nat) (operations : List (Operation α))
    (unfailed
      : ∀ entry ∈ course now operations session, ∀ failure, entry.2.reply ≠ .failed failure)
    : (seatings now number operations session).length
        = operations.countP (Operation.seats number) := by
  induction operations generalizing session fabric with
  | nil => rfl
  | cons operation rest ih =>
      rw [course_cons, List.forall_mem_cons] at unfailed
      obtain ⟨next, _, hnext, _⟩ :=
        housed.transition_fabric (step_transition now session operation) found
      have hrest := ih (housed.transition (step_transition now session operation)) hnext unfailed.2
      have hfirst := seating?_isSome found now operation unfailed.1
      rw [seatings, observe, List.length_append, Option.length_toList, hfirst, List.countP_cons]
      rw [seatings] at hrest
      rw [hrest, Nat.add_comm]

/-- Slots are allocated exactly, at every moment of every run. There are as many producer slots as
producers were ever registered at once; one that was let go without being unregistered counts as
registered. A registration of a producer is refused exactly if as many are registered as the shape
allows. Otherwise it gets the slot that was returned last and not issued since, or the first slot
never used if there is none, unless the links of a new slot cannot be allocated. The consumers of a
fabric get the seats 0, 1, 2 and so on, and are refused from the first one on for whom there is no
room. Whatever is refused changes nothing.
-/
theorem allocation_exact (shape : Shape) (configs : List Config) (now : Nat)
    (operations : List (Operation α)) {number : Nat} {config : Config}
    (configured : configs[number]? = some config) (positive : 0 < config.channelCapacity)
    : let first := start shape configs
      let reached := first.after now operations
      let shown := allotments now number operations first
      let seats := seatings now number operations first
      let registration := (reached.step now (.registerProducer number)).reply
      ∃ fabric,
        reached.fabric? number = some fabric
        ∧ shown.countP isReturn ≤ shown.countP isIssue
        ∧ IsGreatest (rosterSizes now number operations first) fabric.producerCount
        ∧ (registration = .refused ↔ registered shown = shape.maxProducers)
        ∧ (registration = .refused
          ∨ (∃ failure, registration = .failed failure)
            ∧ Ring.allocationLimit ≤ config.channelCapacity
          ∨ ∃ place slot wired,
              registration = .senderIssued place slot wired
              ∧ (LastReturned shown slot
                ∨ AllReissued shown ∧ slot = fabric.producerCount))
        ∧ seats
          = (List.range seats.length).map (fun call =>
              if call < shape.maxConsumers then some call else none)
        ∧ ((∀ entry ∈ course now operations first, ∀ failure, entry.2.reply ≠ .failed failure)
          → seats.length = operations.countP (Operation.seats number))
        ∧ ∀ operation : Operation α,
            (reached.step now operation.command).reply = .refused
            → (reached.step now operation.command).session = reached := by
  intro first reached shown seats registration
  have hfirst : first.fabric? number = some (.bare number shape config) :=
    fabric?_start_of_positive shape configured positive
  have htidy : first.Tidy := tidy_start shape configs
  have hhoused : first.Housed shape configs := housed_start shape configs
  obtain ⟨fabric, found, hallotted, hgreatest, hseated⟩ :=
    allotted_after htidy hhoused hfirst rfl rfl now operations
  have htidy' : reached.Tidy := htidy.after hhoused now operations
  obtain ⟨config', configured', hinstalled⟩ := (hhoused.after now operations).fabric found
  obtain rfl := Option.some.inj (configured.symm.trans configured')
  have hanswers := fabric.producerEnrolled.answers (htidy' number fabric found).freed_of_missing
  obtain ⟨hrefused, hanswer⟩ := hallotted.registration hanswers hinstalled.wired.producers_le
  have hreply : registration = .ofSender reached.senders.size fabric.registerProducer.fabric
      fabric.registerProducer.answer :=
    congrArg Outcome.reply (registerProducer_of_found found)
  rw [hinstalled.shape_eq] at hrefused
  refine ⟨fabric, found, hallotted.returns_le, hgreatest, ?_, ?_, hseated.seatings_eq,
    length_seatings hhoused hfirst now operations, fun operation => htidy'.step_of_refused⟩
  · rw [hreply]
    exact ofSender_eq_refused_iff.trans hrefused
  · rw [hreply]
    rcases hanswer with hrefused | ⟨⟨failure, hfailed⟩, large⟩ | ⟨sender, hissued, hslot⟩
    · exact .inl (ofSender_eq_refused_iff.mpr hrefused)
    · rw [hfailed]
      exact .inr (.inl ⟨⟨failure, rfl⟩, hinstalled.config_eq ▸ large⟩)
    · rw [hissued]
      exact .inr (.inr ⟨_, _, _, rfl, hslot⟩)

end Runs

/-- Three producers come, one is let go and two unregister; three consumers come for two seats. -/
def turnover : List (Operation Nat) :=
  [.registerProducer 0, .registerConsumer 0, .registerProducer 0, .registerProducer 0,
    .registerConsumer 0, .registerConsumer 0, .dropSender 2, .unregister 0, .unregister 1]

/-- Of the three slots one is still taken by the producer that was let go. The next registration
gets the slot returned last, the one after it the other, and then there is none for a third.
-/
theorem allocation_exact_turnover
    : let first := start ⟨3, 2⟩ [⟨4, true⟩]
      let reached := first.after 0 turnover
      let crowded := first.after 0 (turnover ++ [.registerProducer 0, .registerProducer 0])
      IsGreatest (rosterSizes 0 0 turnover first) 3
      ∧ registered (allotments 0 0 turnover first) = 1
      ∧ (Operation.registerProducer 0).issue? (reached.step 0 (.registerProducer 0)).reply
        = some (0, 1)
      ∧ LastReturned (allotments 0 0 turnover first) 1
      ∧ seatings 0 0 turnover first = [some 0, some 1, none]
      ∧ (crowded.step 0 (.registerProducer 0)).reply = .refused
      ∧ (crowded.step 0 (.registerProducer 0)).session = crowded := by
  intro first reached crowded
  have hconfig : ([⟨4, true⟩] : List Config)[0]? = some ⟨4, true⟩ := rfl
  obtain ⟨fabric, found, _, hgreatest, _, hanswer, _, _, _⟩ :=
    allocation_exact ⟨3, 2⟩ [⟨4, true⟩] 0 turnover hconfig (by decide)
  obtain ⟨_, _, _, _, hfull, _, _, _, hinert⟩ :=
    allocation_exact ⟨3, 2⟩ [⟨4, true⟩] 0
      (turnover ++ [.registerProducer 0, .registerProducer 0]) hconfig (by decide)
  have hissue : (Operation.registerProducer 0).issue?
      (reached.step 0 (.registerProducer 0)).reply = some (0, 1) := by decide
  have hslots : (reached.fabric? 0).map Fabric.producerCount = some 3 := by decide
  have hcount : fabric.producerCount = 3 :=
    Option.some.inj ((congrArg (Option.map Fabric.producerCount) found).symm.trans hslots)
  have hregistered : registered (allotments 0 0 turnover first) = 1 := by decide
  have hseats : seatings 0 0 turnover first = [some 0, some 1, none] := by decide
  have hrefused : (crowded.step 0 (.registerProducer 0)).reply = .refused :=
    hfull.mpr (by decide)
  have hsame := hinert (.registerProducer 0) hrefused
  rw [hcount] at hgreatest
  refine ⟨hgreatest, hregistered, hissue, ?_, hseats, hrefused, hsame⟩
  rcases hanswer with hnone | ⟨_, large⟩ | ⟨_, slot, _, hissued, hslot⟩
  · rw [hnone] at hissue
    cases hissue
  · exact absurd large (by decide)
  · rw [hissued] at hissue
    obtain ⟨_, rfl⟩ := Prod.mk.inj (Option.some.inj hissue)
    exact hslot.resolve_right fun fresh => by cases fresh.2.trans hcount

end Session

end Crossbar
