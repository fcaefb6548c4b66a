import Crossbar.Proofs.Completeness
import Crossbar.Proofs.Liveness
import Crossbar.Proofs.Service

/-! No producer is starved. As long as a link holds a live value, every pop by its consumer returns
a value, and only so many pops return values of other producers before one returns a value of this
one, whatever all other parties do meanwhile.
-/

namespace Crossbar

variable {α : Type}

open Motion
open Passage (motion? onLink onLink_append)

-----------------------------------------------------------------------------------------
-- What passes a link when its consumer is not served from it
-----------------------------------------------------------------------------------------

/-- A link whose history has a live value is there. -/
theorem Fabric.Follows.exists_link {config : Config} {fabric : Fabric α}
    {history : List (Passage α)} (follows : fabric.Follows config history)
    {producer consumer : Nat} {drain : Bool}
    (live : HoldsLive drain (onLink producer consumer history))
    : ∃ link, fabric.link? producer consumer = some link := by
  cases hlink : fabric.link? producer consumer with
  | none =>
      obtain ⟨before, value, after, split, _⟩ := live
      have hnone := follows.untouched hlink (.accepted value) (by simp [split])
      cases hnone
  | some link => exact ⟨link, rfl⟩

/-- A reader finds a live value in a link whose history has one. -/
theorem Fabric.Follows.liveAt {config : Config} {fabric : Fabric α} {history : List (Passage α)}
    (follows : fabric.Follows config history) {producer consumer : Nat}
    (live : HoldsLive config.drainOnReclaim (onLink producer consumer history))
    (few
      : poppedSince config.drainOnReclaim (onLink producer consumer history)
        < 0x8000000000000000)
    : ∃ name link, fabric.LiveAt producer consumer name link := by
  obtain ⟨link, hlink⟩ := follows.exists_link live
  have hfollows := follows.link hlink
  obtain ⟨name, hnamed, hfound⟩ := Option.bind_eq_some_iff.mp hlink
  exact ⟨name, link, hnamed, hfound, hfollows.sound, hfollows.live_ne_nil live few⟩

/-- A pop that takes and discards nothing of a producer leaves the link to it alone. -/
theorem Intake.onLink_passages_of_ne {intake : Intake α} {producer : Nat} (slot consumer : Nat)
    (taken : ∀ taken ∈ intake.taken, taken.producer ≠ producer)
    (discarded : ∀ stale ∈ intake.discarded, stale.producer ≠ producer)
    : onLink producer consumer (intake.passages slot) = [] := by
  apply List.filterMap_eq_nil_iff.mpr
  intro passage member
  rcases List.mem_append.mp member with hstale | htaken
  · obtain ⟨stale, hmem, rfl⟩ := List.mem_map.mp hstale
    exact if_neg fun same => discarded stale hmem same.1
  · obtain ⟨value, hmem, rfl⟩ := List.mem_map.mp htaken
    exact if_neg fun same => taken value (Option.mem_toList.mp hmem) same.1

/-- A pop by one consumer leaves the links to all others alone. -/
theorem Intake.onLink_passages_of_slot_ne {intake : Intake α} {slot consumer : Nat}
    (other : slot ≠ consumer) (producer : Nat)
    : onLink producer consumer (intake.passages slot) = [] := by
  apply List.filterMap_eq_nil_iff.mpr
  intro passage member
  rcases List.mem_append.mp member with hstale | htaken
  · obtain ⟨stale, _, rfl⟩ := List.mem_map.mp hstale
    exact if_neg fun same => other same.2
  · obtain ⟨value, _, rfl⟩ := List.mem_map.mp htaken
    exact if_neg fun same => other same.2

/-- A reissue of its slot is the only one that a link knows of. -/
theorem Passage.reissued_mem_of_onLink {history : List (Passage α)} {producer consumer : Nat}
    (member : .reissued ∈ onLink producer consumer history)
    : .reissued producer ∈ history := by
  obtain ⟨passage, hmem, hmotion⟩ := List.mem_filterMap.mp member
  cases passage with
  | reissued producer' =>
      rw [motion?] at hmotion
      split at hmotion
      · next same => exact same ▸ hmem
      · cases hmotion
  | accepted | delivered | discarded =>
      rw [motion?] at hmotion
      split at hmotion <;> cases hmotion

namespace Session

/-- The producer slot that served a pop by a consumer of a fabric, if the operation is such a pop.
-/
def Operation.serving? (number consumer : Nat) (session : Session α) (outcome : Outcome α)
    : Operation α → Option (Option Nat)
  | .pop place =>
      match session.receiver? place, outcome.reply with
      | some receiver, .popped intake =>
          if receiver.fabric = number ∧ receiver.slot = consumer then
            some (intake.taken.map Sourced.producer)
          else
            none
      | _, _ => none
  | _ => none

/-- The producer slots that served the pops by a consumer over a run, with a gap for each pop that
returned no value.
-/
def servings (now number consumer : Nat)
    : List (Operation α) → Session α → List (Option Nat)
  | [], _ => []
  | operation :: rest, session =>
      let outcome := session.step now operation.command
      (operation.serving? number consumer session outcome).toList
        ++ servings now number consumer rest outcome.session

variable {session : Session α} {number producer consumer : Nat} {operation : Operation α}

/-- An operation that is no pop by the consumer lets nothing leave its links. -/
theorem departed_onLink_passages {outcome : Outcome α}
    (other : operation.serving? number consumer session outcome = none) (producer : Nat)
    : departed (onLink producer consumer (operation.passages number session outcome)) = [] := by
  have hanswer (slot : Nat) (value : α) (answer : PushAnswer α)
      : departed (onLink producer consumer (answer.passages slot value)) = [] := by
    cases answer with
    | accepted consumer' =>
        simp only [PushAnswer.passages, Passage.onLink_accepted]
        split <;> rfl
    | rejected | failed => rfl
  cases operation with
  | registerProducer number' =>
      simp only [Operation.passages]
      split
      · apply departed_of_untouched
        intro motion member
        obtain ⟨passage, hmem, hmotion⟩ := List.mem_filterMap.mp member
        obtain ⟨event, _, hevent⟩ := List.mem_filterMap.mp hmem
        split at hevent
        · obtain rfl := Option.some.inj hevent
          rw [motion?] at hmotion
          split at hmotion
          · exact (Option.some.inj hmotion).symm
          · cases hmotion
        · cases hevent
      · rfl
  | push place value | pushTo place consumer' value =>
      simp only [Operation.passages, Operation.pushed]
      split
      · split
        · exact hanswer _ _ _
        · rfl
      · rfl
  | pop place =>
      simp only [Operation.passages, Operation.popped]
      split
      · next receiver intake hreceiver hreply =>
          split
          · next own =>
              have hslot : receiver.slot ≠ consumer := by
                intro slot
                simp [Operation.serving?, hreceiver, hreply, own, slot] at other
              rw [intake.onLink_passages_of_slot_ne hslot]
              rfl
          · rfl
      · rfl
  | registerConsumer | unregister | unregisterVia | dropSender | dropReceiver => rfl

-----------------------------------------------------------------------------------------
-- Receivers of a session
-----------------------------------------------------------------------------------------

/-- Each consumer has one receiver, whose cursor stands among the producers. -/
structure Posted (session : Session α) : Prop where
  seat_inj
    : ∀ {place place' seat},
        session.seat? place = some seat → session.seat? place' = some seat → place = place'
  poised
    : ∀ {place : Nat} {issued : Issued Receiver} {fabric : Fabric α},
        session.receivers[place]? = some issued
        → session.fabric? issued.handle.fabric = some fabric
        → issued.handle.Poised fabric.producerCount

/-- What becomes of a receiver: it stays as it is, is new, or has popped. -/
inductive Received (session : Session α) (operation : Operation α) (outcome : Outcome α)
    (place : Nat) (receiver : Receiver) : Prop
  | kept {held : Bool} (before : session.receivers[place]? = some ⟨receiver, held⟩)
  | new {number : Nat} {fabric : Fabric α} (found : session.fabric? number = some fabric)
    (issued : receiver = ⟨fabric.id, fabric.consumerCount, 0, 0⟩)
  | popped {before : Receiver} {fabric : Fabric α} (asked : operation = .pop place)
    (held : session.receiver? place = some before)
    (found : session.fabric? before.fabric = some fabric)
    (moved : receiver = (fabric.pop before).2.1)
    (after : outcome.session.fabric? before.fabric = some (fabric.pop before).2.2)

theorem Transition.received {outcome : Outcome α}
    (transition : session.Transition operation outcome) {place : Nat}
    {issued : Issued Receiver} (found : outcome.session.receivers[place]? = some issued)
    : session.Received operation outcome place issued.handle := by
  cases transition with
  | missed | letGoSender | unregistered | pushed => exact .kept found
  | @letGoReceiver place' receiver held =>
      simp only [Outcome.quiet, dropReceiver, Array.getElem?_setIfInBounds] at found
      split at found
      · next here =>
          split at found
          · obtain rfl := Option.some.inj found
            exact .kept (here ▸ receivers_of_held held)
          · cases found
      · exact .kept found
  | @producer number fabric =>
      rw [Outcome.logged, receivers_issueSender] at found
      exact .kept found
  | @consumer number fabric hfabric =>
      simp only [Outcome.logged, issueReceiver] at found
      split at found
      · next receiver hissued =>
          simp only [setFabric, Array.getElem?_push] at found
          split at found
          · obtain rfl := Option.some.inj found
            exact .new hfabric (fabric.consumerEnrolled.issued_eq hissued)
          · exact .kept found
      · exact .kept found
  | @popped place' receiver fabric held hfabric =>
      have hkept := congrArg Seat.fabric (pop_seat ⟨fabric, receiver, #[]⟩)
      have hafter := (fabric?_keepReading session place' hkept receiver.fabric).trans
        ((fabric?_setFabric hfabric _ _).trans (if_pos rfl))
      simp only [keepReading, setReceiver, setFabric, Array.getElem?_setIfInBounds] at found
      split at found
      · next here =>
          split at found
          · obtain rfl := Option.some.inj found
            subst here
            exact .popped rfl held hfabric rfl hafter
          · cases found
      · exact .kept found

section Posted

variable {shape : Shape} {configs : List Config}

theorem posted_start (shape : Shape) (configs : List Config)
    : (start shape configs : Session α).Posted where
  seat_inj := fun seated => by cases seated
  poised := fun held => by cases held

/-- A consumer that arrives gets a slot of its own, and pops leave all cursors among the producers.
-/
theorem Posted.transition {outcome : Outcome α} (posted : session.Posted)
    (housed : session.Housed shape configs) (transition : session.Transition operation outcome)
    : outcome.session.Posted where
  seat_inj := by
    intro place place' seat first second
    rcases transition.seat? with hsame | ⟨number, fabric, receiver, _, found, hissued, _, hnew⟩
    · simp only [hsame] at first second
      exact posted.seat_inj first second
    · obtain rfl := fabric.consumerEnrolled.issued_eq hissued
      -- No earlier receiver has the slot of the new one.
      have hfresh {place : Nat}
          : session.seat? place
            ≠ some (⟨fabric.id, fabric.consumerCount, 0, 0⟩ : Receiver).seat := by
        intro taken
        obtain ⟨_, _, hinstalled⟩ := housed.fabric found
        obtain ⟨fabric', found', within⟩ := housed.receiver taken
        rw [show (⟨fabric.id, fabric.consumerCount, 0, 0⟩ : Receiver).seat.fabric = number
          from hinstalled.id_eq] at found'
        obtain rfl := Option.some.inj (found.symm.trans found')
        exact Nat.lt_irrefl _ within
      simp only [hnew] at first second
      split at first <;> split at second
      · next here there => exact here.trans there.symm
      · exact absurd (second.trans first.symm) hfresh
      · exact absurd (first.trans second.symm) hfresh
      · exact posted.seat_inj first second
  poised := by
    intro place issued after found hafter
    cases transition.received found with
    | kept before =>
        rcases transition.fabric? issued.handle.fabric
          with ⟨_, gap⟩ | ⟨fabric, _, hfabric, _, _⟩
        · cases gap.symm.trans hafter
        · obtain ⟨next, _, hnext, _, _, hextends⟩ := housed.transition_fabric transition hfabric
          obtain rfl := Option.some.inj (hnext.symm.trans hafter)
          exact (posted.poised before hfabric).grow hextends.producers_le
    | new _ issued =>
        rw [issued]
        exact Receiver.poised_new _ _ _
    | @popped before fabric asked held hfabric moved hput =>
        obtain ⟨_, _, hinstalled⟩ := housed.fabric hfabric
        have hpoised :=
          hinstalled.wired.pop_poised (posted.poised (receivers_of_held held) hfabric)
        have hown : issued.handle.fabric = before.fabric :=
          moved ▸ (fabric.pop_receiver before).1
        rw [hown, hput] at hafter
        obtain rfl := Option.some.inj hafter
        rw [(fabric.onlyLinks_pop before).sameWiring.producers, moved]
        exact hpoised

/-- A run keeps receivers posted, by induction over its operations. -/
theorem Posted.after (posted : session.Posted) (housed : session.Housed shape configs) (now : Nat)
    (operations : List (Operation α))
    : (session.after now operations).Posted := by
  induction operations generalizing session with
  | nil => exact posted
  | cons operation rest ih =>
      have htransition := step_transition now session operation
      exact ih (posted.transition housed htransition) (housed.transition htransition)

end Posted

-----------------------------------------------------------------------------------------
-- Waiting for a turn
-----------------------------------------------------------------------------------------

/-- A pop through a receiver that is held answers what its fabric gives, and puts both back. -/
theorem step_pop {place : Nat} {receiver : Receiver} {fabric : Fabric α}
    (held : session.receiver? place = some receiver)
    (found : session.fabric? receiver.fabric = some fabric) (now : Nat)
    : (session.step now (.pop place)).reply = .popped (fabric.pop receiver).1
      ∧ (session.step now (.pop place)).session.fabric? receiver.fabric
        = some (fabric.pop receiver).2.2
      ∧ (session.step now (.pop place)).session.receivers[place]?
        = some ⟨(fabric.pop receiver).2.1, true⟩ := by
  have hkept := congrArg Seat.fabric (pop_seat ⟨fabric, receiver, #[]⟩)
  obtain ⟨within, _⟩ := Array.getElem?_eq_some_iff.mp (receivers_of_held held)
  simp only [step, withReading_of_held held found hkept]
  refine ⟨rfl, ?_, Array.getElem?_setIfInBounds_self_of_lt within⟩
  exact (fabric?_keepReading session place hkept receiver.fabric).trans
    ((fabric?_setFabric found _ _).trans (if_pos rfl))

/-- A link holds a live value, and its consumer has popped `pops` times without a value of that
producer. Of the pops that may go to others a full streak for each remains, less what has been used
up.
-/
structure Awaited (shape : Shape) (configs : List Config) (config : Config)
    (number producer consumer : Nat) (session : Session α)
    (histories : Nat → List (Passage α)) (pops : Nat) : Prop where
  configured : configs[number]? = some config
  housed : session.Housed shape configs
  posted : session.Posted
  follows : session.Follows configs histories
  live : HoldsLive config.drainOnReclaim (onLink producer consumer (histories number))
  pops_le
    : ∀ {fabric},
        session.fabric? number = some fabric
        → pops ≤ maxStickyReads * (fabric.producerCount - 1)
  patience
    : ∀ {fabric : Fabric α} {place : Nat} {issued : Issued Receiver},
        session.fabric? number = some fabric
        → session.receivers[place]? = some issued
        → issued.handle.fabric = number
        → issued.handle.slot = consumer
        → pops + issued.handle.patience fabric.producerCount producer
          ≤ maxStickyReads * (fabric.producerCount - 1)

section Awaited

variable {shape : Shape} {configs : List Config} {config : Config}
  {histories : Nat → List (Passage α)} {pops : Nat}

/-- The fabric of a live value is there, with its link. -/
theorem Awaited.liveAt
    (awaited : session.Awaited shape configs config number producer consumer histories pops)
    (few
      : poppedSince config.drainOnReclaim (onLink producer consumer (histories number))
        < 0x8000000000000000)
    : ∃ fabric name link,
        session.fabric? number = some fabric
        ∧ fabric.Follows config (histories number)
        ∧ fabric.LiveAt producer consumer name link := by
  cases found : session.fabric? number with
  | none =>
      obtain ⟨before, value, after, split, _⟩ := awaited.live
      rw [awaited.follows.onLink_of_absent found] at split
      simp at split
  | some fabric =>
      obtain ⟨config', configured, hf⟩ := awaited.follows.fabric found
      obtain rfl := Option.some.inj (awaited.configured.symm.trans configured)
      obtain ⟨name, link, hlive⟩ := hf.liveAt awaited.live few
      exact ⟨fabric, name, link, rfl, hf, hlive⟩

/-- A pop served by a producer that comes first leaves the value waiting, with one pop more counted
and one less to come.
-/
theorem Awaited.overtaken
    (awaited : session.Awaited shape configs config number producer consumer histories pops)
    {place : Nat} {receiver : Receiver} {fabric : Fabric α}
    (held : session.receiver? place = some receiver)
    (found : session.fabric? number = some fabric) (own : receiver.fabric = number)
    (slot : receiver.slot = consumer) (now : Nat)
    (untouched
      : onLink producer consumer
          ((Operation.pop place).passages number session (session.step now (.pop place)))
        = [])
    (less
      : (fabric.pop receiver).2.1.patience fabric.producerCount producer
        < receiver.patience fabric.producerCount producer)
    : (session.step now (.pop place)).session.Awaited shape configs config number producer consumer
        (fun number =>
          histories number
            ++ (Operation.pop place).passages number session (session.step now (.pop place)))
        (pops + 1) := by
  subst own slot
  have htransition := step_transition now session (.pop place)
  have hposted := awaited.posted.transition awaited.housed htransition
  obtain ⟨_, hafter, hmoved⟩ := step_pop held found now
  have hsame := (fabric.onlyLinks_pop receiver).sameWiring
  have hpatience
      : pops + receiver.patience fabric.producerCount producer
        ≤ maxStickyReads * (fabric.producerCount - 1) :=
    awaited.patience found (receivers_of_held held) rfl rfl
  refine {
    configured := awaited.configured
    housed := awaited.housed.transition htransition
    posted := hposted
    follows := awaited.follows.operate now (.pop place)
    live := ?_
    pops_le := ?_
    patience := ?_
  }
  · simp only [onLink_append, untouched, List.append_nil]
    exact awaited.live
  · intro fabric' found'
    obtain rfl := Option.some.inj (hafter.symm.trans found')
    simp only [hsame.producers]
    omega
  · intro fabric' place' issued found' hplace own slot
    obtain rfl := Option.some.inj (hafter.symm.trans found')
    -- The consumer has no other receiver than the one that popped.
    have hseat : (fabric.pop receiver).2.1.seat = issued.handle.seat :=
      (pop_seat ⟨fabric, receiver, #[]⟩).trans (by simp only [Receiver.seat, own, slot])
    obtain rfl : place = place' :=
      hposted.seat_inj
        (Option.map_eq_some_iff.mpr ⟨_, hmoved, hseat⟩)
        (Option.map_eq_some_iff.mpr ⟨issued, hplace, rfl⟩)
    obtain rfl := Option.some.inj (hmoved.symm.trans hplace)
    simp only [hsame.producers]
    omega

/-- A pop by the consumer returns a value, of the producer itself or of one that comes first. -/
theorem Awaited.pop
    (awaited : session.Awaited shape configs config number producer consumer histories pops)
    (few
      : poppedSince config.drainOnReclaim (onLink producer consumer (histories number))
        < 0x8000000000000000)
    {place : Nat} {receiver : Receiver} (held : session.receiver? place = some receiver)
    (own : receiver.fabric = number) (slot : receiver.slot = consumer) (now : Nat)
    : ∃ taken discarded,
        (session.step now (.pop place)).reply = .popped ⟨some taken, discarded⟩
        ∧ (taken.producer = producer
          ∨ taken.producer ≠ producer
            ∧ (session.step now (.pop place)).session.Awaited shape configs config number producer
                consumer
                (fun number =>
                  histories number
                    ++ (Operation.pop place).passages number session
                        (session.step now (.pop place)))
                (pops + 1)) := by
  subst own slot
  obtain ⟨fabric, name, link, found, hf, hlive⟩ := awaited.liveAt few
  obtain ⟨hreply, _⟩ := step_pop held found now
  have hpoised := awaited.posted.poised (receivers_of_held held) found
  obtain ⟨taken, htaken, hwhere⟩ := hf.wired.pop_of_live hlive hpoised
  rcases hintake : (fabric.pop receiver).1 with ⟨value, discarded⟩
  simp only [hintake] at htaken hreply hwhere
  subst htaken
  refine ⟨taken, discarded, hreply, hwhere.imp_right ?_⟩
  rintro ⟨hother, hstale, hless⟩
  refine ⟨hother, ?_⟩
  refine awaited.overtaken held found rfl rfl now ?_ hless
  simp only [Operation.passages, Operation.popped, held, hreply, if_true]
  exact Intake.onLink_passages_of_ne receiver.slot receiver.slot
    (fun value member => Option.some.inj member ▸ hother) hstale

/-- A consumer's receiver stays as it is unless it pops. -/
theorem Housed.receiver_kept (housed : session.Housed shape configs) {fabric : Fabric α}
    (found : session.fabric? number = some fabric) (within : consumer < fabric.consumerCount)
    (now : Nat)
    (elsewhere
      : operation.serving? number consumer session (session.step now operation.command) = none)
    {place : Nat} {issued : Issued Receiver}
    (after : (session.step now operation.command).session.receivers[place]? = some issued)
    (own : issued.handle.fabric = number) (slot : issued.handle.slot = consumer)
    : ∃ held, session.receivers[place]? = some ⟨issued.handle, held⟩ := by
  cases (step_transition now session operation).received after with
  | kept before => exact ⟨_, before⟩
  | @new number' fabric' hfabric issued_eq =>
      -- A new receiver is for the next slot.
      obtain ⟨_, _, hinstalled⟩ := housed.fabric hfabric
      rw [issued_eq] at own slot
      obtain rfl : number' = number := hinstalled.id_eq.symm.trans own
      obtain rfl := Option.some.inj (found.symm.trans hfabric)
      exact absurd (slot ▸ within) (Nat.lt_irrefl _)
  | @popped before fabric' asked held hfound moved _ =>
      obtain ⟨hfabric, hslot⟩ := fabric'.pop_receiver before
      subst asked
      rw [moved, hfabric] at own
      rw [moved, hslot] at slot
      obtain ⟨hreply, _⟩ := step_pop held hfound now
      simp [Operation.serving?, Operation.command, held, hreply, own, slot] at elsewhere

/-- Anything else leaves the value waiting. Producers that arrive may come first, which the bound
allows for.
-/
theorem Awaited.other
    (awaited : session.Awaited shape configs config number producer consumer histories pops)
    (few
      : poppedSince config.drainOnReclaim (onLink producer consumer (histories number))
        < 0x8000000000000000)
    (now : Nat)
    (elsewhere
      : operation.serving? number consumer session (session.step now operation.command) = none)
    (kept
      : config.drainOnReclaim = true
        → .reissued producer
          ∉ operation.passages number session (session.step now operation.command))
    : (session.step now operation.command).session.Awaited shape configs config number producer
        consumer
        (fun number =>
          histories number
            ++ operation.passages number session (session.step now operation.command))
        pops := by
  obtain ⟨fabric, name, link, found, hf, hlive⟩ := awaited.liveAt few
  obtain ⟨hproducer, hconsumer⟩ :=
    (hf.wired.grid.wired_iff producer consumer).mp (by simp [hlive.named])
  have htransition := step_transition now session operation
  obtain ⟨next, _, hnext, _, _, hextends⟩ := awaited.housed.transition_fabric htransition found
  have hle := awaited.pops_le found
  refine {
    configured := awaited.configured
    housed := awaited.housed.transition htransition
    posted := awaited.posted.transition awaited.housed htransition
    follows := awaited.follows.operate now operation
    live := ?_
    pops_le := ?_
    patience := ?_
  }
  · rw [onLink_append]
    refine awaited.live.append (departed_onLink_passages elsewhere producer) ?_
    exact fun drains member => kept drains (Passage.reissued_mem_of_onLink member)
  · intro fabric' found'
    obtain rfl := Option.some.inj (hnext.symm.trans found')
    exact Nat.le_trans hle
      (Nat.mul_le_mul_left _ (Nat.sub_le_sub_right hextends.producers_le 1))
  · intro fabric' place issued found' hplace own slot
    obtain rfl := Option.some.inj (hnext.symm.trans found')
    obtain ⟨held, before⟩ :=
      awaited.housed.receiver_kept found hconsumer now elsewhere hplace own slot
    have hpatience := awaited.patience found before own slot
    have hpoised := awaited.posted.poised before (own ▸ found)
    have hgrow := hpoised.patience_grow hextends.producers_le producer
    have hmore := hextends.producers_le
    simp only [maxStickyReads] at hpatience hgrow ⊢
    omega

/-- An operation that is served is a pop by the consumer's receiver. -/
theorem exists_pop_of_serving {outcome : Outcome α} {serving : Option Nat}
    (served : operation.serving? number consumer session outcome = some serving)
    : ∃ place receiver intake,
        operation = .pop place
        ∧ session.receiver? place = some receiver
        ∧ receiver.fabric = number
        ∧ receiver.slot = consumer
        ∧ outcome.reply = .popped intake
        ∧ serving = intake.taken.map Sourced.producer := by
  cases operation with
  | pop place =>
      simp only [Operation.serving?] at served
      split at served
      · next receiver intake held reply =>
          split at served
          · next own =>
              exact ⟨place, receiver, intake, rfl, held, own.1, own.2, reply,
                (Option.some.inj served).symm⟩
          · cases served
      · cases served
  | registerProducer | registerConsumer | unregister | unregisterVia | dropSender | dropReceiver
  | push | pushTo => cases served

/-- A value that is not served goes on waiting over a run, by induction over the operations of the
run: each pop by the consumer returns a value of another producer and is counted.
-/
theorem Awaited.after
    (awaited : session.Awaited shape configs config number producer consumer histories pops)
    (now : Nat) (more : List (Operation α))
    (kept
      : config.drainOnReclaim = true → .reissued producer ∉ history now number more session)
    (few
      : poppedSince config.drainOnReclaim
            (onLink producer consumer (histories number ++ history now number more session))
        < 0x8000000000000000)
    (unserved : some producer ∉ servings now number consumer more session)
    : (∀ serving ∈ servings now number consumer more session, ∃ other, serving = some other)
      ∧ (session.after now more).Awaited shape configs config number producer consumer
          (fun number => histories number ++ history now number more session)
          (pops + (servings now number consumer more session).length) := by
  induction more generalizing session histories pops with
  | nil =>
      have hsame : (fun number => histories number ++ history now number [] session) = histories :=
        funext fun number => List.append_nil (histories number)
      rw [hsame]
      exact ⟨fun _ member => absurd member List.not_mem_nil, awaited⟩
  | cons operation rest ih =>
      have hfew : poppedSince config.drainOnReclaim (onLink producer consumer (histories number))
          < 0x8000000000000000 := by
        refine Nat.lt_of_le_of_lt ?_ few
        rw [onLink_append]
        refine poppedSince_le_append _ fun drains member => ?_
        exact kept drains (Passage.reissued_mem_of_onLink member)
      simp only [history, servings, List.mem_append, not_or] at kept few unserved ⊢
      cases hserving : operation.serving? number consumer session
          (session.step now operation.command) with
      | none =>
          have hnext := awaited.other hfew now hserving fun drains => (kept drains).1
          obtain ⟨hall, hlast⟩ :=
            ih hnext (fun drains => (kept drains).2) (by simpa only [List.append_assoc] using few)
              unserved.2
          simp only [List.append_assoc] at hlast
          refine ⟨fun serving member => hall serving (member.resolve_left ?_), hlast⟩
          exact List.not_mem_nil
      | some serving =>
          obtain ⟨place, receiver, intake, rfl, held, own, slot, hreply, rfl⟩ :=
            exists_pop_of_serving hserving
          obtain ⟨taken, discarded, hreply', hwhere⟩ := awaited.pop hfew held own slot now
          obtain rfl := Reply.popped.inj (hreply.symm.trans hreply')
          rcases hwhere with hturn | ⟨_, hnext⟩
          · exact absurd (by simp [hserving, hturn]) unserved.1
          · obtain ⟨hall, hlast⟩ :=
              ih hnext (fun drains => (kept drains).2)
                (by simpa only [List.append_assoc, Operation.command] using few) unserved.2
            simp only [List.append_assoc, Nat.add_assoc] at hlast
            rw [List.length_append]
            refine ⟨fun serving member => ?_, hlast⟩
            rcases member with hfirst | hrest
            · exact ⟨taken.producer, List.mem_singleton.mp hfirst⟩
            · exact hall serving hrest

end Awaited

/-- A live value starts waiting with no pop counted. -/
theorem awaited_zero {shape : Shape} {configs : List Config} {config : Config}
    {histories : Nat → List (Passage α)} (configured : configs[number]? = some config)
    (housed : session.Housed shape configs) (posted : session.Posted)
    (follows : session.Follows configs histories)
    (live : HoldsLive config.drainOnReclaim (onLink producer consumer (histories number)))
    : session.Awaited shape configs config number producer consumer histories 0 where
  configured := configured
  housed := housed
  posted := posted
  follows := follows
  live := live
  pops_le := fun _ => Nat.zero_le _
  patience := by
    intro fabric place issued found hplace own slot
    obtain ⟨_, _, hf⟩ := follows.fabric found
    obtain ⟨link, hlink⟩ := hf.exists_link live
    have hwithin := (hf.wired.link?_isSome producer consumer).mp (by simp [hlink])
    rw [Nat.zero_add]
    exact (posted.poised hplace (own ▸ found)).patience_le hwithin.1

/-- No producer is starved. From any moment of any run at which a link holds a live value, in every
run that goes on without a pop served from that link, without a draining reissue of its slot and
with fewer than 2^63 values popped since the last one: every pop by the consumer returns a value,
these pops number at most `maxStickyReads` for each other producer there is by then, and the next
pop returns a value as well.
-/
theorem served_in_turn (shape : Shape) (configs : List Config) (now : Nat)
    (operations : List (Operation α)) {number producer consumer : Nat} {config : Config}
    (configured : configs[number]? = some config)
    (live
      : HoldsLive config.drainOnReclaim
          (onLink producer consumer (history now number operations (start shape configs))))
    (more : List (Operation α))
    (kept
      : config.drainOnReclaim = true
        → .reissued producer
          ∉ history now number more ((start shape configs).after now operations))
    (few
      : poppedSince config.drainOnReclaim
            (onLink producer consumer
              (history now number (operations ++ more) (start shape configs)))
        < 0x8000000000000000)
    (unserved
      : some producer
        ∉ servings now number consumer more ((start shape configs).after now operations))
    : let reached := (start shape configs).after now operations
      let final := reached.after now more
      ∃ fabric,
        final.fabric? number = some fabric
        ∧ producer < fabric.producerCount
        ∧ (∀ serving ∈ servings now number consumer more reached,
            ∃ other, serving = some other)
        ∧ (servings now number consumer more reached).length
          ≤ maxStickyReads * (fabric.producerCount - 1)
        ∧ ∀ place receiver,
            final.receiver? place = some receiver
            → receiver.fabric = number
            → receiver.slot = consumer
            → ∃ taken discarded,
                (final.step now (.pop place)).reply = .popped ⟨some taken, discarded⟩ := by
  intro reached final
  have hhoused := (housed_start shape configs : (start shape configs : Session α).Housed _ _)
  have hawaited :=
    awaited_zero configured (hhoused.after now operations)
      ((posted_start shape configs).after hhoused now operations)
      (follows_after_start shape configs now operations) live
  rw [history_append] at few
  obtain ⟨hall, hlast⟩ := hawaited.after now more kept few unserved
  obtain ⟨fabric, name, link, found, hf, hlive⟩ := hlast.liveAt few
  have hwithin := (hf.wired.grid.wired_iff producer consumer).mp (by simp [hlive.named])
  refine ⟨fabric, found, hwithin.1, hall, ?_, ?_⟩
  · have hle := hlast.pops_le found
    rwa [Nat.zero_add] at hle
  · intro place receiver held own slot
    obtain ⟨taken, discarded, hreply, _⟩ := hlast.pop few held own slot now
    exact ⟨taken, discarded, hreply⟩

/-- Two producers write to one consumer. -/
def rivals : List (Operation Nat) :=
  [.registerConsumer 0, .registerProducer 0, .registerProducer 0, .push 0 10, .push 1 20]

/-- The first of them goes on writing and a third one arrives while the consumer reads. -/
def rivalry : List (Operation Nat) :=
  [.push 0 11, .pop 0, .registerProducer 0, .push 2 30, .pop 0, .push 0 12]

/-- The second of two rivals waits for two pops that the first one serves, of the 64 that it might
have to wait for, and then pops still return values.
-/
theorem served_in_turn_rivals
    : let reached := (start ⟨3, 1⟩ [⟨4, true⟩]).after 0 rivals
      HoldsLive true (onLink 1 0 (history 0 0 rivals (start ⟨3, 1⟩ [⟨4, true⟩])))
        ∧ .reissued 1 ∉ history 0 0 rivalry reached
        ∧ servings 0 0 0 rivalry reached = [some 0, some 0]
        ∧ ∃ fabric,
            (reached.after 0 rivalry).fabric? 0 = some fabric
            ∧ fabric.producerCount = 3
            ∧ (servings 0 0 0 rivalry reached).length ≤ maxStickyReads * (fabric.producerCount - 1)
            ∧ ∃ taken discarded,
                ((reached.after 0 rivalry).step 0 (.pop 0)).reply
                  = .popped ⟨some taken, discarded⟩ := by
  intro reached
  have hlive : HoldsLive true (onLink 1 0 (history 0 0 rivals (start ⟨3, 1⟩ [⟨4, true⟩]))) :=
    ⟨[], 20, [], by decide, by decide, by decide⟩
  have hkept : .reissued 1 ∉ history 0 0 rivalry reached := by decide +kernel
  have hservings : servings 0 0 0 rivalry reached = [some 0, some 0] := by decide +kernel
  have hproducers : ((reached.after 0 rivalry).fabric? 0).map Fabric.producerCount = some 3 := by
    decide +kernel
  have hheld : ((reached.after 0 rivalry).receiver? 0).map Receiver.seat = some ⟨0, 0⟩ := by
    decide +kernel
  obtain ⟨fabric, found, _, _, hlength, hpop⟩ :=
    served_in_turn ⟨3, 1⟩ [⟨4, true⟩] 0 rivals rfl hlive rivalry (fun _ => hkept)
      (by decide +kernel) (by simp [reached, hservings])
  obtain ⟨receiver, held, hseat⟩ := Option.map_eq_some_iff.mp hheld
  obtain ⟨hown, hslot⟩ := Seat.mk.inj hseat
  obtain ⟨taken, discarded, hreply⟩ := hpop 0 receiver held hown hslot
  obtain ⟨fabric', found', hproducers⟩ := Option.map_eq_some_iff.mp hproducers
  obtain rfl := Option.some.inj (found.symm.trans found')
  exact ⟨hlive, hkept, hservings, fabric, found, hproducers, hlength, taken, discarded, hreply⟩

end Session

end Crossbar
