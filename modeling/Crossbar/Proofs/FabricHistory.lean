import Crossbar.Proofs.Enrolment
import Crossbar.Proofs.LinkHistory

/-! The history of a fabric: what passed in and out of its links and which producer slots were
issued again. Seen from one pair of slots it is the history of the link between them, and every
operation of the fabric lets all links go on following their histories.
-/

namespace Crossbar

/-- Something that happens to the links of a fabric, by producer and consumer slot. -/
inductive Passage (α : Type) where
  | accepted (producer consumer : Nat) (value : α)
  | delivered (producer consumer : Nat) (value : α)
  | discarded (producer consumer : Nat) (value : α)
  | reissued (producer : Nat)
deriving Repr, DecidableEq

namespace Passage

variable {α : Type}

/-- What a passage means for the link of one pair. -/
def motion? (producer consumer : Nat) : Passage α → Option (Motion α)
  | .accepted producer' consumer' value =>
      if producer' = producer ∧ consumer' = consumer then some (.accepted value) else none
  | .delivered producer' consumer' value =>
      if producer' = producer ∧ consumer' = consumer then some (.delivered value) else none
  | .discarded producer' consumer' value =>
      if producer' = producer ∧ consumer' = consumer then some (.discarded value) else none
  | .reissued producer' => if producer' = producer then some .reissued else none

/-- The history of the link of one pair. -/
def onLink (producer consumer : Nat) (history : List (Passage α)) : List (Motion α) :=
  history.filterMap (motion? producer consumer)

@[simp] theorem onLink_append (producer consumer : Nat) (history more : List (Passage α))
    : onLink producer consumer (history ++ more)
        = onLink producer consumer history ++ onLink producer consumer more :=
  List.filterMap_append

@[simp] theorem onLink_nil (producer consumer : Nat)
    : onLink producer consumer ([] : List (Passage α)) = [] := rfl

theorem onLink_accepted (producer consumer producer' consumer' : Nat) (value : α)
    : onLink producer' consumer' [.accepted producer consumer value]
        = if producer = producer' ∧ consumer = consumer' then [.accepted value] else [] := by
  rw [onLink, List.filterMap_cons, motion?]
  split <;> simp_all

/-- Passages of one kind through one link mean motions of that kind there, and nothing elsewhere. -/
theorem onLink_map {here : Prop} [Decidable here] {producer consumer : Nat}
    {passage : α → Passage α} {motion : α → Motion α}
    (each
      : ∀ value,
          motion? producer consumer (passage value)
            = if here then some (motion value) else none)
    (values : List α)
    : onLink producer consumer (values.map passage)
        = if here then values.map motion else [] := by
  rw [onLink, List.filterMap_map, Function.comp_def]
  simp only [each]
  split
  · exact congrFun List.filterMap_eq_map values
  · exact List.filterMap_eq_nil_iff.mpr fun _ _ => rfl

theorem onLink_reissued (producer producer' consumer' : Nat)
    : onLink producer' consumer' [(.reissued producer : Passage α)]
        = if producer = producer' then [.reissued] else [] := by
  rw [onLink, List.filterMap_cons, motion?]
  split <;> simp_all

end Passage

/-- What a push through a producer slot passes into a link, if anything. -/
def PushAnswer.passages {α : Type} (producer : Nat) (value : α)
    : PushAnswer α → List (Passage α)
  | .accepted consumer => [.accepted producer consumer value]
  | _ => []

/-- What a pop by a consumer slot takes out of links, first the stale values and then the one
returned.
-/
def Intake.passages {α : Type} (consumer : Nat) (intake : Intake α) : List (Passage α) :=
  intake.discarded.map (fun stale => .discarded stale.producer consumer stale.value)
    ++ intake.taken.toList.map fun taken => .delivered taken.producer consumer taken.value

/-- The slots that a log reports as issued again. -/
def Event.reissues {α : Type} (log : List Event) : List (Passage α) :=
  log.filterMap fun
    | .producerReclaimed producer => some (.reissued producer)
    | _ => none

/-- A push answers about the value it was given: it is taken, handed back or lost. -/
def PushAnswer.Settles {α : Type} (value : α) : PushAnswer α → Prop
  | .accepted _ => True
  | .rejected returned => returned = value
  | .failed _ lost => lost = value

namespace Fabric

open Passage

variable {α : Type} {config : Config} {fabric : Fabric α} {history : List (Passage α)}

/-- A fabric follows a history if it is wired, each link follows what the history means for its
pair, and nothing has passed between pairs without a link.
-/
structure Follows (config : Config) (fabric : Fabric α) (history : List (Passage α)) : Prop where
  config_eq : fabric.config = config
  capacity_pos : 0 < config.channelCapacity
  wired : fabric.Wired
  link
    : ∀ {producer consumer link},
        fabric.link? producer consumer = some link
        → link.Follows config.drainOnReclaim (onLink producer consumer history)
  untouched
    : ∀ {producer consumer},
        fabric.link? producer consumer = none
        → ∀ motion ∈ onLink producer consumer history, motion = .reissued

/-- The ring of every link of a pair is sound. -/
theorem Follows.sound (follows : fabric.Follows config history) {producer consumer : Nat}
    {link : Link α} (found : fabric.link? producer consumer = some link)
    : link.ring.Sound :=
  (follows.link found).sound

/-- A fabric that agrees with another on wiring and on all links follows the same history. -/
theorem Follows.of_links {after : Fabric α} (follows : fabric.Follows config history)
    (same : SameWiring fabric after)
    (links
      : ∀ producer consumer, after.link? producer consumer = fabric.link? producer consumer)
    : after.Follows config history where
  config_eq := same.config.trans follows.config_eq
  capacity_pos := follows.capacity_pos
  wired := same.wired follows.wired
  link := by
    intro producer consumer link found
    rw [links] at found
    exact follows.link found
  untouched := by
    intro producer consumer gap
    rw [links] at gap
    exact follows.untouched gap

/-- Work on the link of one pair extends the history, if the link follows what the extension means
for that pair and the extension means nothing for the others.
-/
theorem Follows.setLink (follows : fabric.Follows config history)
    {producer consumer name : Nat} (named : fabric.name? producer consumer = some name)
    {link : Link α} {more : List (Passage α)}
    (followed
      : link.Follows config.drainOnReclaim
          (onLink producer consumer history ++ onLink producer consumer more))
    (elsewhere
      : ∀ producer' consumer',
          ¬(producer' = producer ∧ consumer' = consumer)
          → onLink producer' consumer' more = [])
    : (fabric.setLink name link).Follows config (history ++ more) where
  config_eq := follows.config_eq
  capacity_pos := follows.capacity_pos
  wired := (sameWiring_setLink fabric name link).wired follows.wired
  link := by
    intro producer' consumer' link' found
    rw [follows.wired.link?_setLink named] at found
    rw [onLink_append]
    split at found
    · next hsame =>
        obtain rfl := Option.some.inj found
        rw [hsame.1, hsame.2]
        exact followed
    · next hother =>
        rw [elsewhere producer' consumer' hother, List.append_nil]
        exact follows.link found
  untouched := by
    intro producer' consumer' gap
    rw [follows.wired.link?_setLink named] at gap
    rw [onLink_append]
    split at gap
    · cases gap
    · next hother =>
        rw [elsewhere producer' consumer' hother, List.append_nil]
        exact follows.untouched gap

/-- Work on a link that means nothing for the history keeps it. -/
theorem Follows.setLink_quiet (follows : fabric.Follows config history)
    {producer consumer name : Nat} (named : fabric.name? producer consumer = some name)
    {link : Link α}
    (followed : link.Follows config.drainOnReclaim (onLink producer consumer history))
    : (fabric.setLink name link).Follows config history := by
  have hnext : (fabric.setLink name link).Follows config (history ++ []) :=
    follows.setLink named (by simpa using followed) (fun _ _ _ => rfl)
  simpa using hnext

-----------------------------------------------------------------------------------------
-- A push passes its value into one link at most
-----------------------------------------------------------------------------------------

/-- An offer to the link of a pair is taken and recorded, or the value comes back. -/
theorem Follows.offer (follows : fabric.Follows config history) {producer consumer name : Nat}
    (named : fabric.name? producer consumer = some name) (value : α)
    : SameWiring fabric (fabric.offer name value).2
      ∧ (((fabric.offer name value).1 = .accepted
          ∧ (fabric.offer name value).2.Follows config
              (history ++ [.accepted producer consumer value]))
        ∨ ((fabric.offer name value).1 = .rejected value
          ∧ (fabric.offer name value).2.Follows config history)) := by
  obtain ⟨link, hplace, hlink⟩ := follows.wired.links_of_name named
  rw [offer_of_link hplace]
  refine ⟨sameWiring_setLink fabric name _, ?_⟩
  rcases (follows.link hlink).push value with ⟨ha, hf⟩ | ⟨hr, hf⟩
  · refine .inl ⟨ha, follows.setLink named ?_ ?_⟩
    · rw [onLink_accepted, if_pos ⟨rfl, rfl⟩]
      exact hf
    · intro producer' consumer' hother
      rw [onLink_accepted, if_neg (fun h => hother ⟨h.1.symm, h.2.symm⟩)]
  · exact .inr ⟨hr, follows.setLink_quiet named hf⟩

/-- Offers along the row of a producer slot record the one that is taken, if any. The induction is
on the list of entries, because a refused value goes on to the next one.
-/
theorem Follows.offerAlong (follows : fabric.Follows config history) (producer : Nat)
    (wires : List Wire)
    (named : ∀ wire ∈ wires, fabric.name? producer wire.position = some wire.link) (value : α)
    : SameWiring fabric (offerAlong wires fabric value).2
      ∧ (Fabric.offerAlong wires fabric value).1.Settles value
      ∧ (Fabric.offerAlong wires fabric value).2.Follows config
          (history ++ (Fabric.offerAlong wires fabric value).1.passages producer value) := by
  induction wires generalizing fabric with
  | nil => exact ⟨.refl fabric, rfl, by simpa [Fabric.offerAlong, PushAnswer.passages]⟩
  | cons wire rest ih =>
      obtain ⟨hsame, hoffer⟩ := follows.offer (named wire List.mem_cons_self) value
      rcases hresult : fabric.offer wire.link value with ⟨answer, next⟩
      rw [hresult] at hsame hoffer
      rcases hoffer with ⟨rfl, hf⟩ | ⟨rfl, hf⟩
      · simp only [Fabric.offerAlong, hresult]
        exact ⟨hsame, trivial, hf⟩
      · simp only [Fabric.offerAlong, hresult]
        obtain ⟨hrest, hsettles, hf⟩ := ih hf (by
          intro next member
          rw [hsame.name?]
          exact named next (List.mem_cons_of_mem _ member))
        exact ⟨hsame.trans hrest, hsettles, hf⟩

end Fabric

/-- Every entry that a sweep lists is wired. -/
theorem Row.link?_of_mem_sweep {row : Row} {wire : Wire} {cursor : Nat}
    (member : wire ∈ row.sweep cursor)
    : row.link? wire.position = some wire.link := by
  rcases List.mem_append.mp member with hfirst | hsecond
  · exact (Row.mem_run hfirst).2.2
  · exact (Row.mem_run hsecond).2.2

namespace Fabric

open Passage

variable {α : Type} {config : Config} {fabric : Fabric α} {history : List (Passage α)}

/-- A fan-out push leaves the handle with its fabric and its slot. -/
theorem push_sender (fabric : Fabric α) (sender : Sender) (value : α)
    : (fabric.push sender value).2.1.fabric = sender.fabric
      ∧ (fabric.push sender value).2.1.slot = sender.slot := by
  rw [Fabric.push]
  split
  · split <;> exact ⟨rfl, rfl⟩
  · exact ⟨rfl, rfl⟩

/-- A fan-out push records the value in the link that takes it. -/
theorem Follows.push (follows : fabric.Follows config history) (sender : Sender) (value : α)
    : SameWiring fabric (fabric.push sender value).2.2
      ∧ (fabric.push sender value).1.Settles value
      ∧ (fabric.push sender value).2.2.Follows config
          (history ++ (fabric.push sender value).1.passages sender.slot value) := by
  rw [Fabric.push, offerSweep_eq]
  split
  · obtain ⟨hsame, hsettles, hf⟩ :=
      follows.offerAlong sender.slot ((fabric.producerRow sender.slot).sweep sender.cursor)
        (fun _ member => Row.link?_of_mem_sweep member) value
    rcases hresult : Fabric.offerAlong ((fabric.producerRow sender.slot).sweep sender.cursor)
      fabric value with ⟨answer, next⟩
    rw [hresult] at hsame hsettles hf
    cases answer <;> exact ⟨hsame, hsettles, hf⟩
  · exact ⟨.refl fabric, rfl, by simpa [PushAnswer.passages]⟩

/-- A directed push records the value in the link it names. -/
theorem Follows.pushTo (follows : fabric.Follows config history) (sender : Sender)
    (consumer : Nat) (value : α)
    : SameWiring fabric (fabric.pushTo sender consumer value).2
      ∧ (fabric.pushTo sender consumer value).1.Settles value
      ∧ (fabric.pushTo sender consumer value).2.Follows config
          (history ++ (fabric.pushTo sender consumer value).1.passages sender.slot value) := by
  rw [Fabric.pushTo]
  split
  · cases hname : (fabric.producerRow sender.slot).link? consumer with
    | none => exact ⟨.refl fabric, rfl, by simpa [PushAnswer.passages]⟩
    | some name =>
        have hnamed : fabric.name? sender.slot consumer = some name := hname
        obtain ⟨hsame, hoffer⟩ := follows.offer hnamed value
        rcases hresult : fabric.offer name value with ⟨answer, next⟩
        rw [hresult] at hsame hoffer
        rcases hoffer with ⟨rfl, hf⟩ | ⟨rfl, hf⟩
        · simp only [hresult]
          exact ⟨hsame, trivial, hf⟩
        · simp only [hresult]
          exact ⟨hsame, rfl, by simpa [PushAnswer.passages]⟩
  · exact ⟨.refl fabric, rfl, by simpa [PushAnswer.passages]⟩

-----------------------------------------------------------------------------------------
-- A pop passes values out of links, stale ones first
-----------------------------------------------------------------------------------------

/-- Drawing from the link of a pair records what it discards and what it takes there. -/
theorem Follows.draw (follows : fabric.Follows config history) {producer consumer name : Nat}
    (named : fabric.name? producer consumer = some name)
    : SameWiring fabric (fabric.draw ⟨producer, name⟩).2
      ∧ (fabric.draw ⟨producer, name⟩).2.Follows config
          (history ++ (fabric.draw ⟨producer, name⟩).1.passages consumer) := by
  obtain ⟨link, hplace, hlink⟩ := follows.wired.links_of_name named
  rw [draw_of_link ⟨producer, name⟩ hplace]
  refine ⟨sameWiring_setLink fabric name _, ?_⟩
  have hpassages : Intake.passages consumer
      ⟨link.pop.1.value.map (⟨producer, ·⟩), link.pop.1.discarded.map (⟨producer, ·⟩)⟩
        = link.pop.1.discarded.map (Passage.discarded producer consumer)
          ++ link.pop.1.value.toList.map (Passage.delivered producer consumer) := by
    rw [Intake.passages, List.map_map]
    cases link.pop.1.value <;> rfl
  rw [hpassages]
  apply follows.setLink named
  · rw [onLink_append, onLink_map (fun _ => rfl), onLink_map (fun _ => rfl), if_pos ⟨rfl, rfl⟩,
      if_pos ⟨rfl, rfl⟩, ← List.append_assoc]
    exact (follows.link hlink).pop
  · intro producer' consumer' hother
    have helse : ¬(producer = producer' ∧ consumer = consumer') :=
      fun h => hother ⟨h.1.symm, h.2.symm⟩
    rw [onLink_append, onLink_map (fun _ => rfl), onLink_map (fun _ => rfl), if_neg helse,
      if_neg helse, List.append_nil]

/-- Draws along the row of a consumer slot record all discards and then the value taken. The
induction is on the list of entries, because an entry without a live value passes the draw on.
-/
theorem Follows.drawAlong (follows : fabric.Follows config history) (consumer : Nat)
    (wires : List Wire)
    (named : ∀ wire ∈ wires, fabric.name? wire.position consumer = some wire.link)
    : SameWiring fabric (Fabric.drawAlong wires fabric).2
      ∧ (Fabric.drawAlong wires fabric).2.Follows config
          (history ++ (Fabric.drawAlong wires fabric).1.passages consumer) := by
  induction wires generalizing fabric history with
  | nil => exact ⟨.refl fabric, by simpa [Fabric.drawAlong, Intake.passages]⟩
  | cons wire rest ih =>
      obtain ⟨hsame, hf⟩ := follows.draw (named wire List.mem_cons_self)
      rcases hresult : fabric.draw wire with ⟨⟨taken, discarded⟩, next⟩
      rw [hresult] at hsame hf
      cases taken with
      | some taken =>
          simp only [Fabric.drawAlong, hresult]
          exact ⟨hsame, hf⟩
      | none =>
          simp only [Fabric.drawAlong, hresult]
          obtain ⟨hrest, hnext⟩ := ih hf (by
            intro next member
            rw [hsame.name?]
            exact named next (List.mem_cons_of_mem _ member))
          refine ⟨hsame.trans hrest, ?_⟩
          simpa [Intake.passages] using hnext

/-- The entries of a consumer's row that a sweep or a sticky read examines name links of pairs with
that consumer.
-/
theorem Follows.drawRow (follows : fabric.Follows config history) (consumer : Nat)
    (wires : List Wire)
    (wired : ∀ wire ∈ wires, (fabric.consumerRow consumer).link? wire.position = some wire.link)
    : SameWiring fabric (Fabric.drawAlong wires fabric).2
      ∧ (Fabric.drawAlong wires fabric).2.Follows config
          (history ++ (Fabric.drawAlong wires fabric).1.passages consumer) :=
  follows.drawAlong consumer wires fun wire member =>
    (follows.wired.shared wire.position consumer).symm.trans (wired wire member)

theorem link?_of_mem_stickyWire {receiver : Receiver} {wire : Wire}
    (member : wire ∈ fabric.stickyWire receiver)
    : (fabric.consumerRow receiver.slot).link? wire.position = some wire.link := by
  rw [stickyWire] at member
  split at member
  · split at member
    · next name found =>
        obtain rfl := List.mem_singleton.mp member
        exact found
    · cases member
  · cases member

/-- A scan leaves the handle with its fabric and its slot. -/
theorem scan_receiver (fabric : Fabric α) (receiver : Receiver)
    : (fabric.scan receiver).2.1.fabric = receiver.fabric
      ∧ (fabric.scan receiver).2.1.slot = receiver.slot := by
  rw [Fabric.scan]
  split <;> exact ⟨rfl, rfl⟩

/-- A pop leaves the handle with its fabric and its slot. -/
theorem pop_receiver (fabric : Fabric α) (receiver : Receiver)
    : (fabric.pop receiver).2.1.fabric = receiver.fabric
      ∧ (fabric.pop receiver).2.1.slot = receiver.slot := by
  rw [Fabric.pop]
  split
  · exact ⟨rfl, rfl⟩
  · exact scan_receiver _ _

/-- A scan records what it discards and what it takes. -/
theorem Follows.scan (follows : fabric.Follows config history) (receiver : Receiver)
    : SameWiring fabric (fabric.scan receiver).2.2
      ∧ (fabric.scan receiver).2.2.Follows config
          (history ++ (fabric.scan receiver).1.passages receiver.slot) := by
  obtain ⟨hsame, hf⟩ :=
    follows.drawRow receiver.slot
      ((fabric.consumerRow receiver.slot).sweep receiver.cursor)
      (fun _ member => Row.link?_of_mem_sweep member)
  rw [Fabric.scan, drawSweep_eq]
  rcases hresult : Fabric.drawAlong ((fabric.consumerRow receiver.slot).sweep receiver.cursor)
    fabric with ⟨⟨taken, discarded⟩, next⟩
  rw [hresult] at hsame hf
  cases taken <;> exact ⟨hsame, hf⟩

/-- A pop records what it discards and what it takes. -/
theorem Follows.pop (follows : fabric.Follows config history) (receiver : Receiver)
    : SameWiring fabric (fabric.pop receiver).2.2
      ∧ (fabric.pop receiver).2.2.Follows config
          (history ++ (fabric.pop receiver).1.passages receiver.slot) := by
  obtain ⟨hsame, hf⟩ :=
    follows.drawRow receiver.slot (fabric.stickyWire receiver)
      (fun _ member => link?_of_mem_stickyWire member)
  rw [Fabric.pop]
  rcases hresult : Fabric.drawAlong (fabric.stickyWire receiver) fabric
    with ⟨⟨taken, discarded⟩, next⟩
  rw [hresult] at hsame hf
  cases taken with
  | some taken => exact ⟨hsame, hf⟩
  | none =>
      obtain ⟨hscan, hnext⟩ := hf.scan { receiver with streak := 0 }
      refine ⟨hsame.trans hscan, ?_⟩
      simpa [Intake.passages] using hnext

-----------------------------------------------------------------------------------------
-- A registration adds untouched links or issues a slot again
-----------------------------------------------------------------------------------------

/-- The freshest link of a fabric follows a history in which nothing has passed through it. -/
theorem Follows.freshLink (follows : fabric.Follows config history)
    (small : fabric.config.channelCapacity < Ring.allocationLimit) {motions : List (Motion α)}
    (untouched : ∀ motion ∈ motions, motion = .reissued)
    : fabric.freshLink.Follows config.drainOnReclaim motions := by
  have hpos := follows.capacity_pos
  rw [← follows.config_eq] at hpos
  exact Link.follows_new hpos small untouched

/-- New links between pairs that had none keep a fabric with its history, which says nothing about
those pairs yet.
-/
theorem Follows.addLinks (follows : fabric.Follows config history) {after : Fabric α}
    (same : after.config = fabric.config) (wired : after.Wired) {fresh : Nat → Nat → Prop}
    [∀ producer consumer, Decidable (fresh producer consumer)]
    (links
      : ∀ producer consumer,
          after.link? producer consumer
            = if fresh producer consumer then some fabric.freshLink
              else fabric.link? producer consumer)
    (gap : ∀ producer consumer, fresh producer consumer → fabric.link? producer consumer = none)
    (small
      : ∀ producer consumer,
          fresh producer consumer → fabric.config.channelCapacity < Ring.allocationLimit)
    : after.Follows config history where
  config_eq := same.trans follows.config_eq
  capacity_pos := follows.capacity_pos
  wired := wired
  link := by
    intro producer consumer link found
    rw [links] at found
    split at found
    · next hfresh =>
        obtain rfl := Option.some.inj found
        exact follows.freshLink (small _ _ hfresh) (follows.untouched (gap _ _ hfresh))
    · exact follows.link found
  untouched := by
    intro producer consumer none
    rw [links] at none
    split at none
    · cases none
    · exact follows.untouched none

/-- Registering a consumer means nothing for the links there are, and the new ones join pairs that
had no link before.
-/
theorem Follows.registerConsumer (follows : fabric.Follows config history)
    : fabric.registerConsumer.fabric.Follows config history := by
  rcases registerConsumer_cases fabric with ⟨_, total, hsame⟩ | ⟨room, small, _, total, hadd⟩
  · rw [hsame]
    exact follows.of_links ⟨rfl, rfl, rfl, rfl, fun _ => rfl, rfl, rfl⟩ (fun _ _ => rfl)
  · rw [hadd]
    refine follows.addLinks rfl (follows.wired.addConsumer total room)
      (follows.wired.link?_addConsumer total room) ?_ ?_
    · intro producer consumer hnew
      rw [← Option.not_isSome_iff_eq_none, follows.wired.link?_isSome]
      omega
    · intro producer consumer hnew
      exact small (by omega)

/-- Registering a producer in a fresh slot means nothing for the links there are either. -/
theorem Follows.registerFresh (follows : fabric.Follows config history)
    : fabric.registerFresh.fabric.Follows config history := by
  rcases registerFresh_cases fabric with ⟨_, total, hsame⟩ | ⟨room, small, _, total, hadd⟩
  · rw [hsame]
    exact follows.of_links ⟨rfl, rfl, rfl, rfl, fun _ => rfl, rfl, rfl⟩ (fun _ _ => rfl)
  · rw [hadd]
    refine follows.addLinks rfl (follows.wired.addProducer total room)
      (follows.wired.link?_addProducer total) ?_ ?_
    · intro producer consumer hnew
      rw [← Option.not_isSome_iff_eq_none, follows.wired.link?_isSome]
      omega
    · intro producer consumer hnew
      exact small (by omega)

/-- Issuing a slot again is a reissue for each of its links: they are retired if reissues drain, and
otherwise stay as they are.
-/
theorem Follows.reclaim (follows : fabric.Follows config history) {producer : Nat}
    {slot : ProducerSlot} (found : fabric.producers[producer]? = some slot)
    : (fabric.reclaim producer slot).fabric.Follows config
        (history ++ [.reissued producer]) := by
  obtain ⟨hsame, hlinks, _⟩ :=
    follows.wired.reclaim found (fun _ _ hlink => follows.sound hlink)
  rw [follows.config_eq] at hlinks
  refine {
    config_eq := hsame.config.trans follows.config_eq
    capacity_pos := follows.capacity_pos
    wired := hsame.wired follows.wired
    link := ?_
    untouched := ?_
  }
  · intro producer' consumer link hafter
    rw [hlinks] at hafter
    rw [onLink_append, onLink_reissued]
    by_cases hp : producer' = producer
    · rw [if_pos hp.symm]
      cases hd : config.drainOnReclaim
      · rw [if_neg (by simp [hd])] at hafter
        have hfollows := follows.link hafter
        rw [hd] at hfollows
        exact hfollows.keep
      · rw [if_pos ⟨hd, hp⟩] at hafter
        obtain ⟨before, hbefore, rfl⟩ := Option.map_eq_some_iff.mp hafter
        have hfollows := follows.link hbefore
        rw [hd] at hfollows
        exact hfollows.retire
    · -- For the links of other slots the history says nothing new.
      rw [if_neg (fun h => hp h.2)] at hafter
      rw [if_neg (Ne.symm hp), List.append_nil]
      exact follows.link hafter
  · intro producer' consumer gap
    rw [hlinks] at gap
    have hgap : fabric.link? producer' consumer = none := by
      split at gap
      · exact Option.map_eq_none_iff.mp gap
      · exact gap
    rw [onLink_append, onLink_reissued]
    intro motion member
    rcases List.mem_append.mp member with hold | hnew
    · exact follows.untouched hgap motion hold
    · split at hnew
      · exact List.mem_singleton.mp hnew
      · cases hnew

theorem reissues_reissueLog (producer stale : Nat)
    : Event.reissues (reissueLog producer stale) = [(.reissued producer : Passage α)] := by
  rw [Event.reissues, reissueLog]
  split <;> rfl

theorem reissues_registerFresh (fabric : Fabric α)
    : Event.reissues fabric.registerFresh.log = ([] : List (Passage α)) := by
  apply List.filterMap_eq_nil_iff.mpr
  intro event member
  cases event with
  | producerReclaimed producer => exact absurd member (registerFresh_log fabric producer)
  | _ => rfl

/-- Registering a producer records the reissue that it logs, if any. -/
theorem Follows.registerProducer (follows : fabric.Follows config history)
    : fabric.registerProducer.fabric.Follows config
        (history ++ Event.reissues fabric.registerProducer.log) := by
  obtain ⟨freed, hcases⟩ := registerProducer_cases fabric
  have hfreed : Fabric.Follows config { fabric with freed := freed } history :=
    follows.of_links ⟨rfl, rfl, rfl, rfl, fun _ => rfl, rfl, rfl⟩ (fun _ _ => rfl)
  rcases hcases with hfresh | ⟨producer, slot, found, hreclaim⟩
  · rw [hfresh, reissues_registerFresh, List.append_nil]
    exact hfreed.registerFresh
  · rw [hreclaim, reclaim_log, reissues_reissueLog]
    exact hfreed.reclaim found

/-- Ending a registration means nothing for the links. -/
theorem Follows.unregister (follows : fabric.Follows config history) (sender : Sender)
    : (fabric.unregister sender).fabric.Follows config history := by
  obtain ⟨hsame, hlinks⟩ := unregister_sameWiring fabric sender
  exact follows.of_links hsame (hsame.link? hlinks)

/-- A new fabric follows the empty history. -/
theorem follows_create {id : Nat} {shape : Shape} {config : Config} {fabric : Fabric α}
    {event : Event} (created : create id shape config = .ok (fabric, event))
    : fabric.Follows config [] := by
  rw [create] at created
  split at created
  · cases created
  · next hpos =>
      obtain ⟨rfl, _⟩ := Prod.mk.inj (Except.ok.inj created)
      refine {
        config_eq := rfl
        capacity_pos := Nat.pos_of_ne_zero hpos
        wired := {
          producers_le := Nat.zero_le _
          consumers_le := Nat.zero_le _
          producer_width := fun _ h => absurd h (Nat.not_lt_zero _)
          consumer_width := fun _ h => absurd h (Nat.not_lt_zero _)
          shared := fun _ _ => rfl
          grid := {
            wired_iff := ?_
            name_lt := fun named => by cases named
            name_inj := fun named => by cases named
          }
        }
        link := fun found => by cases found
        untouched := fun _ _ member => absurd member List.not_mem_nil
      }
      intro producer consumer
      exact iff_of_false Bool.false_ne_true fun h => Nat.not_lt_zero _ h.1

end Fabric

end Crossbar
