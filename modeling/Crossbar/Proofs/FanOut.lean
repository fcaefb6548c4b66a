import Crossbar.Proofs.Capacity
import Crossbar.Proofs.Cursor

/-! A fan-out push does what directed pushes to the consumers in turn would do, one after the other
until one accepts. Either kind of push puts its value at the end of one link, or hands it back and
leaves every link with the contents, the counters and the cursors it had.
-/

namespace Crossbar

variable {α : Type}

-----------------------------------------------------------------------------------------
-- What an offer leaves of a link
-----------------------------------------------------------------------------------------

namespace Link

/-- Nothing about a link has changed but what its writer has seen of the reader. -/
def Kept (before after : Link α) : Prop :=
  ∃ seen, after = { before with ring := { before.ring with seenPopped := seen } }

/-- A link holds one more value, at its end, and nothing has changed on its reader's side. -/
structure Grown (value : α) (before after : Link α) : Prop where
  toList : after.toList = before.toList ++ [value]
  pushed : after.ring.pushed = before.ring.pushed + 1
  popped : after.ring.popped = before.ring.popped
  seenPushed : after.ring.seenPushed = before.ring.seenPushed
  readAt : after.ring.readAt = before.ring.readAt
  capacity : after.ring.capacity = before.ring.capacity
  staleUntil : after.staleUntil = before.staleUntil

theorem Kept.refl (link : Link α) : link.Kept link :=
  ⟨link.ring.seenPopped, rfl⟩

theorem Kept.trans {first second third : Link α} (hf : first.Kept second) (hs : second.Kept third)
    : first.Kept third := by
  obtain ⟨_, rfl⟩ := hf
  obtain ⟨seen, rfl⟩ := hs
  exact ⟨seen, rfl⟩

/-- What a writer has seen is no part of what a link holds. -/
theorem Kept.toList {before after : Link α} (kept : before.Kept after)
    : after.toList = before.toList := by
  obtain ⟨_, rfl⟩ := kept
  rfl

theorem Kept.grown {value : α} {first second third : Link α} (kept : first.Kept second)
    (grown : second.Grown value third)
    : first.Grown value third := by
  obtain ⟨_, rfl⟩ := kept
  exact ⟨grown.toList, grown.pushed, grown.popped, grown.seenPushed, grown.readAt,
    grown.capacity, grown.staleUntil⟩

/-- An offer that is accepted does nothing on the reader's side. -/
theorem grown_push {link : Link α} (sound : link.ring.Sound) (value : α)
    (room : link.ring.size < link.ring.capacity)
    : (link.push value).1 = .accepted ∧ link.Grown value (link.push value).2 := by
  obtain ⟨haccepted, _, hlist⟩ := Ring.push_of_room value sound room
  have hroom : link.ring.refreshPopped.looksFull = false :=
    decide_eq_false (Nat.not_le.mpr room)
  have hring : ∃ seen, (link.ring.push value).2
      = ({ link.ring with seenPopped := seen }.store value).publishPush := by
    cases hfull : link.ring.looksFull with
    | false => exact ⟨link.ring.seenPopped, by simp [Ring.push, hfull]⟩
    | true =>
        refine ⟨link.ring.popped, ?_⟩
        simp only [Ring.push, hfull, hroom, if_true, Bool.false_eq_true, if_false]
        rfl
  obtain ⟨seen, hring⟩ := hring
  have hlink : (link.push value).2 = { link with ring := _ } :=
    congrArg (fun ring => { link with ring := ring }) hring
  refine ⟨haccepted, hlist, ?_, ?_, ?_, ?_, ?_, rfl⟩ <;> rw [hlink] <;> rfl

theorem kept_push {link : Link α} (sound : link.ring.Sound) (value : α)
    (full : link.ring.size = link.ring.capacity)
    : (link.push value).1 = .rejected value ∧ link.Kept (link.push value).2 := by
  have hpush := Ring.push_of_full value sound full
  simp only [push, hpush]
  exact ⟨trivial, link.ring.popped, rfl⟩

end Link

/-- All consumers, from a cursor on and then from the first one up to the cursor. -/
def turnsFrom (cursor consumers : Nat) : List Nat :=
  List.range' cursor (consumers - cursor) ++ List.range' 0 cursor

/-- Every consumer has its turn. -/
theorem mem_turnsFrom {cursor consumers : Nat} (cursor_le : cursor ≤ consumers) {consumer : Nat}
    : consumer ∈ turnsFrom cursor consumers ↔ consumer < consumers := by
  simp only [turnsFrom, List.mem_append, List.mem_range'_1]
  omega

/-- A sender that has pushed by fan-out goes on behind the consumer that took the value. -/
def Sender.past (sender : Sender) : PushAnswer α → Sender
  | .accepted consumer => { sender with cursor := consumer + 1 }
  | _ => sender

-----------------------------------------------------------------------------------------
-- What offers leave of a fabric
-----------------------------------------------------------------------------------------

namespace Fabric

/-- Two fabrics differ in links at most, and the links of the pairs given have not changed but for
what their writers have seen.
-/
structure KeptWhere (pairs : Nat → Nat → Prop) (before after : Fabric α) : Prop where
  only : OnlyLinks before after
  link
    : ∀ {producer consumer link},
        pairs producer consumer
        → before.link? producer consumer = some link
        → ∃ link', after.link? producer consumer = some link' ∧ link.Kept link'

/-- What becomes of a value offered to the links of a producer slot: one of them with room takes it
at its end, or it comes back. No other link changes.
-/
inductive Offered (fabric : Fabric α) (producer : Nat) (value : α)
    : PushAnswer α → Fabric α → Prop
  | accepted {consumer : Nat} {next : Fabric α} {link link' : Link α}
    (found : fabric.link? producer consumer = some link)
    (found' : next.link? producer consumer = some link') (grown : link.Grown value link')
    (others
      : KeptWhere (fun producer' consumer' => ¬(producer' = producer ∧ consumer' = consumer))
          fabric next)
    : Offered fabric producer value (.accepted consumer) next
  | rejected {next : Fabric α} (kept : KeptWhere (fun _ _ => True) fabric next)
    : Offered fabric producer value (.rejected value) next

variable {config : Config} {fabric : Fabric α} {history : List (Passage α)}

theorem KeptWhere.refl (pairs : Nat → Nat → Prop) (fabric : Fabric α)
    : KeptWhere pairs fabric fabric where
  only := .refl fabric
  link := fun _ found => ⟨_, found, .refl _⟩

theorem KeptWhere.trans {pairs : Nat → Nat → Prop} {first second third : Fabric α}
    (hf : KeptWhere (fun _ _ => True) first second) (hs : KeptWhere pairs second third)
    : KeptWhere pairs first third where
  only := hf.only.trans hs.only
  link := by
    intro producer consumer link within found
    obtain ⟨_, found', hkept⟩ := hf.link trivial found
    obtain ⟨last, found'', hkept'⟩ := hs.link within found'
    exact ⟨last, found'', hkept.trans hkept'⟩

/-- Links that were kept hold what they held. -/
theorem KeptWhere.held {pairs : Nat → Nat → Prop} {before after : Fabric α}
    (kept : KeptWhere pairs before after) (wired : before.Wired) {producer consumer : Nat}
    (within : pairs producer consumer)
    : after.held producer consumer = before.held producer consumer := by
  rw [Fabric.held, Fabric.held]
  cases found : before.link? producer consumer with
  | some link =>
      obtain ⟨link', found', hkept⟩ := kept.link within found
      rw [found', Option.map_some, Option.map_some, hkept.toList]
  | none =>
      have hsame := kept.only.sameWiring
      have hgap : ¬(after.link? producer consumer).isSome := by
        rw [(hsame.wired wired).link?_isSome, hsame.producers,
          show after.consumerCount = before.consumerCount from congrArg Array.size hsame.consumers,
          ← wired.link?_isSome, found]
        exact Bool.false_ne_true
      rw [Option.not_isSome_iff_eq_none.mp hgap]

/-- Offers may follow others that came back. -/
theorem Offered.after_kept {producer : Nat} {value : α} {answer : PushAnswer α}
    {next last : Fabric α} (kept : KeptWhere (fun _ _ => True) fabric next)
    (offered : next.Offered producer value answer last) (wired : fabric.Wired)
    : fabric.Offered producer value answer last := by
  cases offered with
  | rejected kept' => exact .rejected (kept.trans kept')
  | @accepted consumer _ link link' found found' grown others =>
      have hsome : (fabric.link? producer consumer).isSome := by
        have hsame := kept.only.sameWiring
        have hlater : (next.link? producer consumer).isSome := by rw [found]; rfl
        rw [(hsame.wired wired).link?_isSome, hsame.producers,
          show next.consumerCount = fabric.consumerCount from congrArg Array.size hsame.consumers]
          at hlater
        exact (wired.link?_isSome producer consumer).mpr hlater
      obtain ⟨first, hfirst⟩ := Option.isSome_iff_exists.mp hsome
      obtain ⟨second, hsecond, hkept⟩ := kept.link trivial hfirst
      obtain rfl := Option.some.inj (found.symm.trans hsecond)
      exact .accepted hfirst found' (hkept.grown grown) (kept.trans others)

/-- The link of a pair has room for another value. -/
def HasRoom (fabric : Fabric α) (producer consumer : Nat) : Prop :=
  (fabric.held producer consumer).length < fabric.config.channelCapacity

instance (fabric : Fabric α) (producer consumer : Nat)
    : Decidable (fabric.HasRoom producer consumer) :=
  inferInstanceAs (Decidable (_ < _))

/-- The answer to a value of which a consumer is the taker, if there is one. -/
def answered (value : α) : Option Nat → PushAnswer α
  | some consumer => .accepted consumer
  | none => .rejected value

/-- The first of several consumers whose link from a producer slot has room. -/
def taker? (fabric : Fabric α) (producer : Nat) (consumers : List Nat) : Option Nat :=
  consumers.find? fun consumer => decide (fabric.HasRoom producer consumer)

/-- An offer to the link of a pair is accepted if the link has room, and comes back otherwise. -/
theorem Follows.offered (follows : fabric.Follows config history) (uniform : fabric.Uniform)
    {producer consumer name : Nat} (named : fabric.name? producer consumer = some name)
    (value : α)
    : if fabric.HasRoom producer consumer then
        (fabric.offer name value).1 = .accepted
          ∧ fabric.Offered producer value (.accepted consumer) (fabric.offer name value).2
      else
        (fabric.offer name value).1 = .rejected value
          ∧ KeptWhere (fun _ _ => True) fabric (fabric.offer name value).2 := by
  obtain ⟨link, hplace, found⟩ := follows.wired.links_of_name named
  have hsound := follows.sound found
  have honly := fabric.onlyLinks_offer name value
  rw [offer_of_link hplace] at honly ⊢
  have hlink (producer' consumer' : Nat) :=
    follows.wired.link?_setLink named (link.push value).2 producer' consumer'
  have hroom : fabric.HasRoom producer consumer ↔ link.ring.size < link.ring.capacity := by
    rw [HasRoom, held, found, Option.map_some, Option.getD_some, uniform.link? found, Link.toList,
      Ring.length_toList hsound]
  split
  · next room =>
      obtain ⟨haccepted, hgrown⟩ := Link.grown_push hsound value (hroom.mp room)
      refine ⟨haccepted, .accepted found ((hlink _ _).trans (if_pos ⟨rfl, rfl⟩)) hgrown
        ⟨honly, fun {_ _ other} apart found' => ⟨other, ?_, .refl other⟩⟩⟩
      exact ((hlink _ _).trans (if_neg apart)).trans found'
  · next full =>
      have hfull : link.ring.size = link.ring.capacity :=
        Nat.le_antisymm hsound.size_le (Nat.le_of_not_lt fun room => full (hroom.mpr room))
      obtain ⟨hrejected, hkept⟩ := Link.kept_push hsound value hfull
      refine ⟨hrejected, honly, fun {producer' consumer' other} _ found' => ?_⟩
      rw [hlink]
      split
      · next here =>
          rw [here.1, here.2, found] at found'
          obtain rfl := Option.some.inj found'
          exact ⟨_, rfl, hkept⟩
      · exact ⟨other, found', .refl other⟩

theorem taker?_congr {producer : Nat} {before after : Fabric α} {consumers : List Nat}
    (config : after.config = before.config)
    (held : ∀ consumer, after.held producer consumer = before.held producer consumer)
    : after.taker? producer consumers = before.taker? producer consumers := by
  have hroom : (fun consumer => decide (after.HasRoom producer consumer))
      = fun consumer => decide (before.HasRoom producer consumer) := by
    funext consumer
    exact decide_eq_decide.mpr (by rw [HasRoom, HasRoom, held, config])
  rw [taker?, taker?, hroom]

/-- Of several links of a producer slot the first one with room takes the value. The induction is on
the list of entries; an offer that comes back leaves the room of the other links as it was.
-/
theorem Follows.offerAlong_offered (follows : fabric.Follows config history)
    (uniform : fabric.Uniform) {producer : Nat} {wires : List Wire}
    (named : ∀ wire ∈ wires, fabric.name? producer wire.position = some wire.link) (value : α)
    : (Fabric.offerAlong wires fabric value).1
          = answered value (fabric.taker? producer (wires.map Wire.position))
      ∧ fabric.Offered producer value (Fabric.offerAlong wires fabric value).1
          (Fabric.offerAlong wires fabric value).2 := by
  induction wires generalizing fabric with
  | nil => exact ⟨rfl, .rejected (.refl _ fabric)⟩
  | cons wire rest ih =>
      have hname := named wire List.mem_cons_self
      have hoffered := follows.offered uniform hname value
      obtain ⟨hsame, hoffer⟩ := follows.offer hname value
      have huniform := uniform.offer wire.link value
      rw [List.map_cons, taker?, List.find?_cons]
      rcases hresult : fabric.offer wire.link value with ⟨answer, next⟩
      rw [hresult] at hoffered hsame hoffer huniform
      split at hoffered
      · next room =>
          obtain ⟨rfl, hgrown⟩ := hoffered
          simp only [Fabric.offerAlong, hresult, room, decide_true]
          exact ⟨rfl, hgrown⟩
      · next full =>
          obtain ⟨rfl, hkept⟩ := hoffered
          rcases hoffer with ⟨hno, _⟩ | ⟨_, hf⟩
          · cases hno
          obtain ⟨hanswer, hrest⟩ := ih hf huniform fun other member =>
            (hsame.name? _ _).trans (named other (List.mem_cons_of_mem _ member))
          have htaker : next.taker? producer (rest.map Wire.position)
              = fabric.taker? producer (rest.map Wire.position) :=
            taker?_congr hsame.config fun _ => hkept.held follows.wired trivial
          simp only [Fabric.offerAlong, hresult, full, decide_false]
          rw [← taker?, ← htaker]
          exact ⟨hanswer, hrest.after_kept hkept follows.wired⟩

/-- A fan-out push through a registered sender offers its value along a sweep of its row. -/
theorem push_of_registered {sender : Sender} (registered : fabric.isRegistered sender = true)
    (value : α)
    : let swept := offerAlong ((fabric.producerRow sender.slot).sweep sender.cursor) fabric value
      fabric.push sender value = (swept.1, sender.past swept.1, swept.2) := by
  dsimp only
  rw [push, if_pos registered, offerSweep_eq]
  rcases offerAlong ((fabric.producerRow sender.slot).sweep sender.cursor) fabric value
    with ⟨_ | _ | _, next⟩ <;> rfl

/-- A directed push through a registered sender offers its value to the one entry named, if it is
wired.
-/
theorem pushTo_of_registered {sender : Sender} (registered : fabric.isRegistered sender = true)
    (consumer : Nat) (value : α)
    : fabric.pushTo sender consumer value
        = offerAlong ((fabric.name? sender.slot consumer).toList.map (Wire.mk consumer)) fabric
            value := by
  rw [pushTo, if_pos registered, name?]
  cases (fabric.producerRow sender.slot).link? consumer with
  | none => rfl
  | some name =>
      simp only [Option.toList_some, List.map_cons, List.map_nil, offerAlong]

/-- A fan-out push asks each consumer once, from the cursor on. -/
theorem Wired.positions_turns (wired : fabric.Wired) {sender : Sender}
    (within : sender.slot < fabric.producerCount)
    (cursor_le : sender.cursor ≤ fabric.consumerCount)
    : ((fabric.producerRow sender.slot).sweep sender.cursor).map Wire.position
        = turnsFrom sender.cursor fabric.consumerCount := by
  apply Row.positions_sweep cursor_le
  · rw [wired.producer_width _ within]
    exact wired.consumers_le
  · intro consumer
    exact (wired.grid.wired_iff sender.slot consumer).trans (and_iff_right within)

/-- A directed push is accepted if the consumer is there and its link has room. -/
theorem Follows.pushTo_offered (follows : fabric.Follows config history)
    (uniform : fabric.Uniform) {sender : Sender}
    (registered : fabric.isRegistered sender = true)
    (within : sender.slot < fabric.producerCount) (consumer : Nat) (value : α)
    : (fabric.pushTo sender consumer value).1
          = (if consumer < fabric.consumerCount ∧ fabric.HasRoom sender.slot consumer then
              .accepted consumer
            else
              .rejected value)
      ∧ fabric.Offered sender.slot value (fabric.pushTo sender consumer value).1
          (fabric.pushTo sender consumer value).2 := by
  have hwired := (follows.wired.grid.wired_iff sender.slot consumer).trans (and_iff_right within)
  obtain ⟨hanswer, hoffered⟩ := follows.offerAlong_offered uniform
    (fun wire (member
        : wire ∈ (fabric.name? sender.slot consumer).toList.map (Wire.mk consumer)) => by
      obtain ⟨name, hname, rfl⟩ := List.mem_map.mp member
      exact Option.mem_toList.mp hname) value
  rw [pushTo_of_registered registered]
  refine ⟨hanswer.trans ?_, hoffered⟩
  cases hname : fabric.name? sender.slot consumer with
  | none =>
      have hout : ¬consumer < fabric.consumerCount := by
        rw [← hwired, hname]
        exact Bool.false_ne_true
      rw [if_neg fun here => hout here.1]
      rfl
  | some name =>
      have hin : consumer < fabric.consumerCount := by
        rw [← hwired, hname]
        rfl
      by_cases room : fabric.HasRoom sender.slot consumer <;> simp [taker?, answered, room, hin]

/-- A fan-out push is accepted by the first consumer in turn with room. -/
theorem Follows.push_offered (follows : fabric.Follows config history)
    (uniform : fabric.Uniform) {sender : Sender}
    (registered : fabric.isRegistered sender = true)
    (within : sender.slot < fabric.producerCount)
    (cursor_le : sender.cursor ≤ fabric.consumerCount) (value : α)
    : (fabric.push sender value).1
          = answered value
              (fabric.taker? sender.slot (turnsFrom sender.cursor fabric.consumerCount))
      ∧ (fabric.push sender value).2.1 = sender.past (fabric.push sender value).1
      ∧ fabric.Offered sender.slot value (fabric.push sender value).1
          (fabric.push sender value).2.2 := by
  obtain ⟨hanswer, hoffered⟩ :=
    follows.offerAlong_offered uniform
      (fun _ (member : _ ∈ (fabric.producerRow sender.slot).sweep sender.cursor) =>
        Row.link?_of_mem_sweep member) value
  rw [follows.wired.positions_turns within cursor_le] at hanswer
  rw [push_of_registered registered]
  exact ⟨hanswer, rfl, hoffered⟩

/-- No link holds more than its capacity. -/
theorem Follows.held_le (follows : fabric.Follows config history) (uniform : fabric.Uniform)
    (producer consumer : Nat)
    : (fabric.held producer consumer).length ≤ fabric.config.channelCapacity := by
  rw [held]
  cases found : fabric.link? producer consumer with
  | none => exact Nat.zero_le _
  | some link =>
      have hsound := follows.sound found
      rw [Option.map_some, Option.getD_some, Link.toList, Ring.length_toList hsound,
        ← uniform.link? found]
      exact hsound.size_le

/-- A fan-out push is rejected exactly if every link of its row is full. -/
theorem Follows.answered_turns_eq_rejected_iff (follows : fabric.Follows config history)
    (uniform : fabric.Uniform) (producer : Nat) {cursor consumers : Nat}
    (cursor_le : cursor ≤ consumers) (value : α)
    : answered value (fabric.taker? producer (turnsFrom cursor consumers)) = .rejected value
        ↔ ∀ consumer < consumers,
            (fabric.held producer consumer).length = fabric.config.channelCapacity := by
  have hnone
      : answered value (fabric.taker? producer (turnsFrom cursor consumers)) = .rejected value
        ↔ fabric.taker? producer (turnsFrom cursor consumers) = none := by
    cases fabric.taker? producer (turnsFrom cursor consumers) <;> simp [answered]
  rw [hnone, taker?, List.find?_eq_none]
  refine forall_congr' fun consumer => imp_congr (mem_turnsFrom cursor_le) ?_
  have hle := follows.held_le uniform producer consumer
  rw [decide_eq_true_eq, HasRoom]
  omega

end Fabric

-----------------------------------------------------------------------------------------
-- Directed pushes in turn
-----------------------------------------------------------------------------------------

namespace Session

/-- Pushes a value to several consumers in turn, until one accepts it: what one hands back goes to
the next.
-/
def pushInTurn (now place : Nat) : List Nat → α → Session α → Outcome α
  | [], value, session => .quiet (.pushed (.rejected value)) session
  | consumer :: rest, value, session =>
      let outcome := session.step now (.pushTo place consumer value)
      match outcome.reply with
      | .pushed (.rejected value) => pushInTurn now place rest value outcome.session
      | _ => outcome

variable {session : Session α} {place : Nat} {sender : Sender} {fabric : Fabric α}

/-- Directed pushes in turn offer the value along the entries for these consumers. The induction is
on the entries; a refused value goes on in the session that the refusal has left.
-/
theorem pushInTurn_eq (now : Nat) (held : session.sender? place = some sender)
    (found : session.fabric? sender.fabric = some fabric)
    (registered : fabric.isRegistered sender = true) {wires : List Wire}
    (named : ∀ wire ∈ wires, fabric.name? sender.slot wire.position = some wire.link) (value : α)
    : session.pushInTurn now place (wires.map Wire.position) value
        = .quiet (.pushed (Fabric.offerAlong wires fabric value).1)
            (session.keepWriting place ⟨(Fabric.offerAlong wires fabric value).2, sender⟩) := by
  induction wires generalizing session fabric value with
  | nil => rw [List.map_nil, pushInTurn, Fabric.offerAlong, keepWriting_self held found]
  | cons wire rest ih =>
      have hstep := step_pushing now held found (some wire.position) value
      have honly := fabric.onlyLinks_offer wire.link value
      rw [Writing.push, Fabric.pushTo_of_registered registered, named wire List.mem_cons_self]
        at hstep
      simp only [Operation.pushing, Operation.command, Option.toList_some, List.map_cons,
        List.map_nil, Fabric.offerAlong] at hstep
      rw [List.map_cons, pushInTurn, hstep, Fabric.offerAlong]
      rcases hresult : fabric.offer wire.link value with ⟨_ | returned, next⟩
      · rfl
      · rw [hresult] at honly
        obtain ⟨links, _, rfl⟩ := honly
        have hrest := ih (sender?_keepWriting held ⟨{ fabric with links := links }, sender⟩)
          (fabric?_keepWriting_self place ⟨{ fabric with links := links }, sender⟩ found)
          registered (fun other member => named other (List.mem_cons_of_mem _ member)) returned
        exact hrest.trans (congrArg _ (keepWriting_keepWriting session place rfl))

/-- How a sender that is held stands on its fabric. -/
theorem sender_stands (shape : Shape) (configs : List Config) (now : Nat)
    (operations : List (Operation α))
    (held : ((start shape configs).after now operations).sender? place = some sender)
    (found : ((start shape configs).after now operations).fabric? sender.fabric = some fabric)
    : configs[sender.fabric]? = some fabric.config
      ∧ sender.slot < fabric.producerCount
      ∧ sender.cursor ≤ fabric.consumerCount
      ∧ fabric.Follows fabric.config
          (history now sender.fabric operations (start shape configs))
      ∧ fabric.Uniform := by
  have hhoused : (start shape configs : Session α).Housed shape configs := housed_start ..
  have hplace := senders_of_held held
  have haligned := (aligned_start shape configs).after hhoused now operations
  have hbadge
      : ((start shape configs).after now operations).badge? place = some sender.badge :=
    Option.map_eq_some_iff.mpr ⟨_, hplace, rfl⟩
  obtain ⟨_, found', within⟩ := (hhoused.after now operations).sender hbadge
  obtain rfl := Option.some.inj (found.symm.trans found')
  obtain ⟨config, configured, hf⟩ := (follows_after_start shape configs now operations).fabric found
  obtain rfl := hf.config_eq
  exact ⟨configured, within, haligned.sender hplace found, hf,
    (uniform_start shape configs).after now operations _ fabric found⟩

/-- Fan-out push agrees with directed pushes. In every reachable state, for every registered sender
and every value: the sender's cursor is no larger than the number of consumers wired to its slot. A
directed push is accepted exactly if the consumer named is one of them and its link, stale values
included, holds fewer than its capacity; it leaves the sender as it is. A fan-out push has the
answer of directed pushes in turn, from the cursor on and around the end, until one accepts, and it
leaves everything as they do but for its cursor, which comes to stand behind the consumer that took
the value. It is rejected exactly if every link of the row is full, or none is wired.
-/
theorem push_agrees_with_directed (shape : Shape) (configs : List Config) (now : Nat)
    (operations : List (Operation α)) {place : Nat} {sender : Sender} {fabric : Fabric α}
    (held : ((start shape configs).after now operations).sender? place = some sender)
    (found : ((start shape configs).after now operations).fabric? sender.fabric = some fabric)
    (registered : fabric.isRegistered sender = true) (value : α)
    : let reached := (start shape configs).after now operations
      let wired := (fabric.producerRow sender.slot).wired
      let kept (answer : PushAnswer α) (sender : Sender) (next : Fabric α) : Outcome α :=
        .quiet (.pushed answer) (reached.keepWriting place ⟨next, sender⟩)
      configs[sender.fabric]? = some fabric.config
        ∧ sender.cursor ≤ wired
        ∧ (∀ consumer,
          ∃ answer next,
            reached.step now (.pushTo place consumer value) = kept answer sender next
            ∧ fabric.Offered sender.slot value answer next
            ∧ answer
              = if consumer < wired
                    ∧ (fabric.held sender.slot consumer).length
                      < fabric.config.channelCapacity then
                  .accepted consumer
                else
                  .rejected value)
        ∧ ∃ answer next,
          reached.step now (.push place value) = kept answer (sender.past answer) next
          ∧ reached.pushInTurn now place
              (List.range' sender.cursor (wired - sender.cursor) ++ List.range' 0 sender.cursor)
              value
            = kept answer sender next
          ∧ fabric.Offered sender.slot value answer next
          ∧ (answer = .rejected value
            ↔ ∀ consumer < wired,
                (fabric.held sender.slot consumer).length = fabric.config.channelCapacity) := by
  intro reached wired kept
  obtain ⟨configured, within, cursor_le, hf, huniform⟩ :=
    sender_stands shape configs now operations held found
  have hwired : wired = fabric.consumerCount := hf.wired.producer_wired within
  rw [hwired]
  refine ⟨configured, cursor_le, fun consumer => ?_, ?_⟩
  · obtain ⟨hanswer, hoffered⟩ :=
      hf.pushTo_offered huniform registered within consumer value
    exact ⟨_, _, step_pushing now held found (some consumer) value, hoffered, hanswer⟩
  · obtain ⟨hanswer, hpast, hoffered⟩ :=
      hf.push_offered huniform registered within cursor_le value
    have hstep : reached.step now (.push place value)
        = kept (fabric.push sender value).1 (fabric.push sender value).2.1
            (fabric.push sender value).2.2 :=
      step_pushing now held found none value
    have hturns := pushInTurn_eq now held found registered
      (fun _ (member : _ ∈ (fabric.producerRow sender.slot).sweep sender.cursor) =>
        Row.link?_of_mem_sweep member) value
    rw [hf.wired.positions_turns within cursor_le] at hturns
    refine ⟨_, _, hpast ▸ hstep, ?_, hoffered, ?_⟩
    · rw [Fabric.push_of_registered registered]
      exact hturns
    · rw [hanswer]
      exact hf.answered_turns_eq_rejected_iff huniform _ cursor_le value

/-- The second occupant of a slot goes on where the first one stopped, behind the last consumer of
that time. A third consumer has arrived since, and its link is full; the second one has made room.
-/
def inheritance : List (Operation Nat) :=
  [.registerConsumer 0, .registerConsumer 0, .registerProducer 0, .push 0 1, .push 0 2,
    .unregister 0, .registerProducer 0, .registerConsumer 0, .pushTo 1 2 3, .pop 1]

/-- The next push asks the third consumer, then the first one, and is accepted by the second. -/
theorem push_agrees_with_directed_inheritance
    : let reached := (start ⟨1, 3⟩ [⟨1, false⟩]).after 0 inheritance
      ∃ fabric,
        reached.sender? 1 = some ⟨0, 0, ⟨3⟩, 2⟩
        ∧ reached.fabric? 0 = some fabric
        ∧ fabric.isRegistered ⟨0, 0, ⟨3⟩, 2⟩ = true
        ∧ (fabric.producerRow 0).wired = 3
        ∧ (reached.step 0 (.push 1 9)).reply = .pushed (.accepted 1)
        ∧ (reached.pushInTurn 0 1 [2, 0, 1] 9).reply = .pushed (.accepted 1)
        ∧ (reached.step 0 (.push 1 9)).session.sender? 1 = some ⟨0, 0, ⟨3⟩, 2⟩ := by
  intro reached
  have hheld : reached.sender? 1 = some ⟨0, 0, ⟨3⟩, 2⟩ := by decide +kernel
  have hviews
      : (reached.fabric? 0).map (fun fabric =>
            (fabric.isRegistered ⟨0, 0, ⟨3⟩, 2⟩, (fabric.producerRow 0).wired,
              (fabric.push ⟨0, 0, ⟨3⟩, 2⟩ 9).1))
        = some (true, 3, .accepted 1) := by
    decide +kernel
  obtain ⟨fabric, found, hview⟩ := Option.map_eq_some_iff.mp hviews
  simp only [Prod.mk.injEq] at hview
  obtain ⟨hregistered, hwired, hpush⟩ := hview
  obtain ⟨_, _, _, answer, next, hstep, hturns, _⟩ :=
    push_agrees_with_directed ⟨1, 3⟩ [⟨1, false⟩] 0 inheritance hheld found hregistered 9
  have hreply : (reached.step 0 (.push 1 9)).reply = .pushed (.accepted 1) :=
    (congrArg Outcome.reply (step_pushing 0 hheld found none 9)).trans (congrArg Reply.pushed hpush)
  obtain rfl : answer = .accepted 1 :=
    Reply.pushed.inj ((congrArg Outcome.reply hstep).symm.trans hreply)
  rw [hwired] at hturns
  refine ⟨fabric, hheld, found, hregistered, hwired, hreply, ?_, ?_⟩
  · exact congrArg Outcome.reply hturns
  · rw [hstep]
    exact sender?_keepWriting hheld _

end Session

end Crossbar
