import Crossbar.Proofs.LinkOrder

/-! One producer and one consumer take turns on the only link between them: a push, a pop, and so
on. Every push finds the link empty and is accepted, and every pop leaves it empty again, whether
it returns the value or throws it away. Nothing is said about the totals on the way, so the turns
can be counted past any bound.
-/

namespace Crossbar

variable {α : Type}

/-- The row of a slot whose only counterpart is linked. -/
def Row.single : Row :=
  ⟨#[some 0]⟩

theorem Row.sweep_single (cursor : Nat) : Row.single.sweep cursor = [⟨0, 0⟩] := by
  cases cursor with
  | zero => rfl
  | succ cursor =>
      have hstart : min (cursor + 1) Row.single.width = 1 := Nat.min_eq_right (Nat.succ_pos cursor)
      rw [sweep, hstart]
      rfl

namespace Fabric

/-- A fabric with one producer slot, one consumer, and one link between them. -/
structure Single (fabric : Fabric α) (link : Link α) : Prop where
  producer_row : fabric.producerRow 0 = .single
  consumer_row : fabric.consumerRow 0 = .single
  stored : fabric.links[0]? = some link

variable {fabric : Fabric α} {link : Link α}

/-- Whatever the link becomes, it remains the only one. -/
theorem Single.setLink (single : fabric.Single link) (next : Link α)
    : (fabric.setLink 0 next).Single next where
  producer_row := single.producer_row
  consumer_row := single.consumer_row
  stored := by
    have hlt : 0 < fabric.links.size := (Array.getElem?_eq_some_iff.mp single.stored).1
    simp [Fabric.setLink, hlt]

/-- A push by the registered sender goes to the one link there is. -/
theorem Single.push (single : fabric.Single link) {sender : Sender} (slot : sender.slot = 0)
    (registered : fabric.isRegistered sender = true) {value : α}
    (taken : (link.push value).1 = .accepted)
    : fabric.push sender value
        = (.accepted 0, { sender with cursor := 1 }, fabric.setLink 0 (link.push value).2) := by
  have hoffer : fabric.offer 0 value = (.accepted, fabric.setLink 0 (link.push value).2) := by
    rw [offer_of_link single.stored, taken]
  rw [Fabric.push, if_pos registered, offerSweep_eq, slot, single.producer_row, Row.sweep_single]
  simp only [offerAlong, hoffer]

/-- Drawing from the one entry there is pops its link. -/
theorem Single.drawAlong (single : fabric.Single link)
    : (Fabric.drawAlong [⟨0, 0⟩] fabric).2 = fabric.setLink 0 link.pop.2 := by
  have hdraw := draw_of_link ⟨0, 0⟩ single.stored
  rw [Fabric.drawAlong, hdraw]
  cases link.pop.1.value <;> rfl

/-- A link with at most one value is left empty by a pop, whether it returns the value or throws it
away.
-/
theorem pop_of_few (sound : link.ring.Sound) (few : link.toList.length ≤ 1)
    : link.pop.2.ring.Sound ∧ link.pop.2.toList = [] := by
  obtain ⟨hs, _, hrest, _⟩ := Link.pop_eq sound
  refine ⟨hs, ?_⟩
  have hlive : link.live.length ≤ 1 := by
    rw [Link.live, List.length_drop]
    omega
  rw [hrest]
  cases hl : link.live with
  | nil => rfl
  | cons value rest =>
      rw [hl, List.length_cons] at hlive
      rw [List.tail_cons]
      exact List.eq_nil_of_length_eq_zero (by omega)

/-- A scan draws from the one link there is. -/
theorem Single.scan (single : fabric.Single link) {receiver : Receiver}
    (slot : receiver.slot = 0)
    : (fabric.scan receiver).2.2 = fabric.setLink 0 link.pop.2 := by
  rw [Fabric.scan, drawSweep_eq, slot, single.consumer_row, Row.sweep_single,
    ← single.drawAlong]
  rcases Fabric.drawAlong [⟨0, 0⟩] fabric with ⟨⟨taken, discarded⟩, next⟩
  cases taken <;> rfl

/-- A streak can only be with the one link there is. -/
theorem Single.stickyWire (single : fabric.Single link) {receiver : Receiver}
    (slot : receiver.slot = 0)
    : fabric.stickyWire receiver = [] ∨ fabric.stickyWire receiver = [⟨0, 0⟩] := by
  rw [Fabric.stickyWire, slot, single.consumer_row]
  split
  · cases receiver.cursor - 1 with
    | zero => exact .inr rfl
    | succ position => exact .inl rfl
  · exact .inl rfl

/-- A pop leaves the one link empty if it holds at most one value, and changes nothing else. -/
theorem Single.pop (single : fabric.Single link) (sound : link.ring.Sound)
    (few : link.toList.length ≤ 1) {receiver : Receiver} (slot : receiver.slot = 0)
    : ∃ next : Link α,
        (fabric.pop receiver).2.2 = fabric.setLink 0 next
        ∧ next.ring.Sound
        ∧ next.toList = [] := by
  obtain ⟨hs, hempty⟩ := pop_of_few sound few
  rw [Fabric.pop]
  rcases single.stickyWire slot with hsticky | hsticky
  · rw [hsticky]
    exact ⟨link.pop.2, single.scan slot, hs, hempty⟩
  · have hdraw := single.drawAlong
    rw [hsticky]
    rcases hresult : Fabric.drawAlong [⟨0, 0⟩] fabric with ⟨⟨taken, discarded⟩, drawn⟩
    rw [hresult] at hdraw
    obtain rfl : drawn = fabric.setLink 0 link.pop.2 := hdraw
    cases taken with
    | some taken => exact ⟨link.pop.2, rfl, hs, hempty⟩
    | none =>
        -- Nothing was live, so the pop goes on to a scan of the same link.
        obtain ⟨hs', hempty'⟩ := pop_of_few hs (by rw [hempty]; exact Nat.zero_le 1)
        refine ⟨link.pop.2.pop.2, ?_, hs', hempty'⟩
        refine ((single.setLink link.pop.2).scan slot).trans ?_
        simp [Fabric.setLink]

end Fabric

open Motion
open Passage (motion? onLink onLink_append)

/-- A pop lets nothing enter any link. -/
theorem Intake.entered_passages (intake : Intake α) (slot producer consumer : Nat)
    : entered (onLink producer consumer (intake.passages slot)) = [] := by
  rw [entered, onLink, List.filterMap_filterMap, List.filterMap_eq_nil_iff]
  intro passage member
  rcases List.mem_append.mp member with hstale | htaken
  · obtain ⟨stale, _, rfl⟩ := List.mem_map.mp hstale
    rw [motion?]
    split <;> rfl
  · obtain ⟨taken, _, rfl⟩ := List.mem_map.mp htaken
    rw [motion?]
    split <;> rfl

namespace Session

/-- What replaces a held sender is held under its number. -/
theorem sender?_setSender {session : Session α} {number : Nat} {sender : Sender}
    (found : session.sender? number = some sender) (next : Sender)
    : (session.setSender number next).sender? number = some next := by
  have hlt : number < session.senders.size := by
    rw [sender?] at found
    by_cases hlt : number < session.senders.size
    · exact hlt
    · rw [Array.getElem?_eq_none (Nat.le_of_not_lt hlt)] at found
      cases found
  simp [sender?, setSender, hlt]

/-- What replaces a held receiver is held under its number. -/
theorem receiver?_setReceiver {session : Session α} {number : Nat} {receiver : Receiver}
    (found : session.receiver? number = some receiver) (next : Receiver)
    : (session.setReceiver number next).receiver? number = some next := by
  have hlt : number < session.receivers.size := by
    rw [receiver?] at found
    by_cases hlt : number < session.receivers.size
    · exact hlt
    · rw [Array.getElem?_eq_none (Nat.le_of_not_lt hlt)] at found
      cases found
  simp [receiver?, setReceiver, hlt]

/-- The first sender and the first receiver of a session are at the two ends of the only link of
its first fabric.
-/
structure Paired (session : Session α) (fabric : Fabric α) (sender : Sender)
    (receiver : Receiver) (link : Link α) : Prop where
  fabric_eq : session.fabric? 0 = some fabric
  single : fabric.Single link
  sound : link.ring.Sound
  sender_eq : session.sender? 0 = some sender
  sender_fabric : sender.fabric = 0
  sender_slot : sender.slot = 0
  registered : fabric.isRegistered sender = true
  receiver_eq : session.receiver? 0 = some receiver
  receiver_fabric : receiver.fabric = 0
  receiver_slot : receiver.slot = 0

section Paired

variable {session : Session α} {fabric : Fabric α} {sender : Sender} {receiver : Receiver}
  {link : Link α}

/-- What the link of a pair holds is what the session holds there. -/
theorem Paired.held_eq (paired : session.Paired fabric sender receiver link)
    : session.held 0 0 0 = link.toList := by
  have hlink : fabric.link? 0 0 = some link := by
    rw [Fabric.link?, paired.single.producer_row]
    exact paired.single.stored
  simp only [held, paired.fabric_eq, Fabric.held, hlink, Option.map_some, Option.getD_some]

/-- Work of the sender that only changes the link and the cursor keeps the pair. -/
theorem Paired.keepWriting (paired : session.Paired fabric sender receiver link) {next : Link α}
    (sound : next.ring.Sound) (cursor : Nat)
    : (session.keepWriting 0 ⟨fabric.setLink 0 next, { sender with cursor := cursor }⟩).Paired
        (fabric.setLink 0 next) { sender with cursor := cursor } receiver next where
  fabric_eq := by
    have hput := fabric?_setFabric paired.fabric_eq (fabric.setLink 0 next) 0
    rw [if_pos rfl] at hput
    rw [Session.keepWriting, paired.sender_fabric]
    exact hput
  single := paired.single.setLink next
  sound := sound
  sender_eq := sender?_setSender paired.sender_eq { sender with cursor := cursor }
  sender_fabric := paired.sender_fabric
  sender_slot := paired.sender_slot
  registered := paired.registered
  receiver_eq := paired.receiver_eq
  receiver_fabric := paired.receiver_fabric
  receiver_slot := paired.receiver_slot

/-- Work of the receiver that only changes the link and the receiver's turn keeps the pair. -/
theorem Paired.keepReading (paired : session.Paired fabric sender receiver link) {next : Link α}
    (sound : next.ring.Sound) {receiver' : Receiver}
    (keeps_fabric : receiver'.fabric = receiver.fabric)
    (keeps_slot : receiver'.slot = receiver.slot) (discarded : Array (Sourced α))
    : (session.keepReading 0 ⟨fabric.setLink 0 next, receiver', discarded⟩).Paired
        (fabric.setLink 0 next) sender receiver' next where
  fabric_eq := by
    have hput := fabric?_setFabric paired.fabric_eq (fabric.setLink 0 next) 0
    rw [if_pos rfl] at hput
    rw [Session.keepReading, keeps_fabric, paired.receiver_fabric]
    exact hput
  single := paired.single.setLink next
  sound := sound
  sender_eq := paired.sender_eq
  sender_fabric := paired.sender_fabric
  sender_slot := paired.sender_slot
  registered := paired.registered
  receiver_eq := receiver?_setReceiver paired.receiver_eq receiver'
  receiver_fabric := keeps_fabric.trans paired.receiver_fabric
  receiver_slot := keeps_slot.trans paired.receiver_slot

/-- A push into the empty link is accepted and leaves its value as the only one there. -/
theorem Paired.push (paired : session.Paired fabric sender receiver link)
    (empty : link.toList = []) (now : Nat) (value : α)
    : (session.step now (.push 0 value)).reply = .pushed (.accepted 0)
      ∧ ∃ fabric' sender' link',
          (session.step now (.push 0 value)).session.Paired fabric' sender' receiver link'
          ∧ link'.toList = [value] := by
  obtain ⟨hs, _, hroom⟩ := Link.push_eq value paired.sound
  have hsize : link.ring.size = 0 := by
    rw [← Ring.length_toList paired.sound]
    exact congrArg List.length empty
  -- There is room in an empty link, because no capacity is zero.
  rw [hsize, if_pos paired.sound.capacity_pos, empty] at hroom
  obtain ⟨htaken, hlist⟩ := hroom
  have hfabric : session.fabric? sender.fabric = some fabric := by
    rw [paired.sender_fabric]
    exact paired.fabric_eq
  have hpush : (⟨fabric, sender⟩ : Writing α).push none value
      = (.accepted 0,
          ⟨fabric.setLink 0 (link.push value).2, { sender with cursor := 1 }⟩) := by
    simp only [Writing.push, paired.single.push paired.sender_slot paired.registered htaken]
  have hstep : session.step now (.push 0 value)
      = .quiet (.pushed (.accepted 0))
          (session.keepWriting 0
            ⟨fabric.setLink 0 (link.push value).2, { sender with cursor := 1 }⟩) := by
    rw [step, withWriting_of_held paired.sender_eq hfabric (by rw [hpush]), hpush]
  rw [hstep]
  exact ⟨rfl, _, _, _, paired.keepWriting hs 1, hlist⟩

/-- A pop leaves the link empty if it holds at most one value. -/
theorem Paired.pop (paired : session.Paired fabric sender receiver link)
    (few : link.toList.length ≤ 1) (now : Nat)
    : (∃ intake, (session.step now (.pop 0)).reply = .popped intake)
      ∧ ∃ fabric' receiver' link',
          (session.step now (.pop 0)).session.Paired fabric' sender receiver' link'
          ∧ link'.toList = [] := by
  obtain ⟨next, hput, hs, hempty⟩ := paired.single.pop paired.sound few paired.receiver_slot
  obtain ⟨hkept, hslot⟩ := fabric.pop_receiver receiver
  have hfabric : session.fabric? receiver.fabric = some fabric := by
    rw [paired.receiver_fabric]
    exact paired.fabric_eq
  rw [step, withReading_of_held paired.receiver_eq hfabric hkept]
  refine ⟨⟨_, rfl⟩, fabric.setLink 0 next, (fabric.pop receiver).2.1, next, ?_, hempty⟩
  simp only [Reading.pop, hput]
  exact paired.keepReading hs hkept hslot _

/-- A push and a pop for each of some values in turn. -/
def turns (values : List α) : List (Operation α) :=
  values.flatMap fun value => [.push 0 value, .pop 0]

/-- A pair takes any number of turns: every value enters the link, and none is held in the end. The
induction is over the values.
-/
theorem Paired.turns (paired : session.Paired fabric sender receiver link)
    (empty : link.toList = []) (now : Nat) (values : List α)
    : entered (onLink 0 0 (history now 0 (turns values) session)) = values
      ∧ (session.after now (turns values)).held 0 0 0 = [] := by
  induction values generalizing session fabric sender receiver link with
  | nil => exact ⟨rfl, paired.held_eq.trans empty⟩
  | cons value rest ih =>
      obtain ⟨hpushed, fabric', sender', link', hpaired, hone⟩ := paired.push empty now value
      obtain ⟨⟨intake, hpopped⟩, fabric'', receiver', link'', hpaired', hempty⟩ :=
        hpaired.pop (by rw [hone]; exact Nat.le_refl 1) now
      obtain ⟨hentered, hheld⟩ := ih hpaired' hempty
      refine ⟨?_, hheld⟩
      have hhistory
          : let pushed := session.step now (.push 0 value)
            let popped := pushed.session.step now (.pop 0)
            history now 0 (turns (value :: rest)) session
              = Operation.pushed 0 (session.sender? 0) value pushed.reply
                ++ (Operation.popped 0 (pushed.session.receiver? 0) popped.reply
                  ++ history now 0 (turns rest) popped.session) := rfl
      rw [hhistory, onLink_append, onLink_append, entered_append, entered_append, hentered,
        hpushed, hpopped, paired.sender_eq, hpaired.receiver_eq]
      simp only [Operation.pushed, Operation.popped, paired.sender_fabric, paired.receiver_fabric,
        paired.sender_slot, if_true, Intake.entered_passages]
      rfl

end Paired

end Session

end Crossbar
