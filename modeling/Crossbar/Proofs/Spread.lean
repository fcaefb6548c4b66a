import Mathlib.Algebra.BigOperators.Group.Finset.Piecewise
import Mathlib.Data.Int.CardIntervalMod
import Mathlib.Data.List.Find
import Crossbar.Proofs.Allocation
import Crossbar.Proofs.FanOut

/-! A row of pushes through one sender uses all the room there is in its links and spreads over them
in turn. What the links hold does not matter for this, only how much room each of them has, so the
answers are those of a dispenser that knows nothing else.
-/

namespace Crossbar

variable {α : Type}

-----------------------------------------------------------------------------------------
-- Shares of a round
-----------------------------------------------------------------------------------------

/-- How many of the first `turns` turns fall to a consumer, if they go round from `start` on. -/
def share (consumers start turns consumer : Nat) : Nat :=
  Nat.count (fun turn => (start + turn) % consumers = consumer) turns

section Share

variable {consumers start consumer : Nat}

theorem share_succ (turns : Nat)
    : share consumers start (turns + 1) consumer
        = share consumers start turns consumer
          + if (start + turns) % consumers = consumer then 1 else 0 :=
  Nat.count_succ _ _

/-- A round of turns serves everyone once, and the turns behind the last full round those whose turn
comes first.
-/
theorem share_eq (start_le : start ≤ consumers) (within : consumer < consumers) (turns : Nat)
    : share consumers start turns consumer
        = turns / consumers
          + if (consumer + (consumers - start)) % consumers < turns % consumers then 1 else 0 := by
  have hturn (turn : Nat)
      : (start + turn) % consumers = consumer
        ↔ turn ≡ consumer + (consumers - start) [MOD consumers] := by
    have hback : consumer + (consumers - start) + start = consumer + consumers := by omega
    calc (start + turn) % consumers = consumer
        ↔ turn + start ≡ consumer [MOD consumers] := by
          rw [Nat.ModEq, Nat.mod_eq_of_lt within, Nat.add_comm]
      _ ↔ turn + start ≡ consumer + (consumers - start) + start [MOD consumers] := by
          rw [hback, Nat.ModEq, Nat.ModEq, Nat.add_mod_right]
      _ ↔ turn ≡ consumer + (consumers - start) [MOD consumers] :=
          ⟨Nat.ModEq.add_right_cancel' start, Nat.ModEq.add_right start⟩
  simp only [share, hturn]
  exact Nat.count_modEq_card turns (Nat.zero_lt_of_lt within) _

/-- Whoever has the next turn has had one in each full round. -/
theorem share_next (start_le : start ≤ consumers) (positive : 0 < consumers) (turns : Nat)
    : share consumers start turns ((start + turns) % consumers) = turns / consumers := by
  have hplace : ((start + turns) % consumers + (consumers - start)) % consumers
      = turns % consumers := by
    rw [Nat.mod_add_mod, show start + turns + (consumers - start) = turns + consumers by omega,
      Nat.add_mod_right]
  rw [share_eq start_le (Nat.mod_lt _ positive), hplace, if_neg (Nat.lt_irrefl _), Nat.add_zero]

/-- No consumer is more than one turn ahead of another. -/
theorem share_le_succ {other : Nat} (start_le : start ≤ consumers)
    (within : consumer < consumers) (within' : other < consumers) (turns : Nat)
    : share consumers start turns consumer ≤ share consumers start turns other + 1 := by
  rw [share_eq start_le within, share_eq start_le within']
  split <;> split <;> omega

end Share

-----------------------------------------------------------------------------------------
-- A dispenser
-----------------------------------------------------------------------------------------

/-- A cursor among some consumers, and how much room each of them has left. -/
structure Dispenser (consumers : Nat) where
  cursor : Nat
  cursor_le : cursor ≤ consumers
  room : Nat → Nat

namespace Dispenser

variable {consumers : Nat} (dispenser : Dispenser consumers)

/-- The consumer that gets the next value: the first one in turn with room. -/
def next? : Option Nat :=
  (turnsFrom dispenser.cursor consumers).find? fun consumer => 0 < dispenser.room consumer

theorem next?_spec {consumer : Nat} (found : dispenser.next? = some consumer)
    : consumer < consumers ∧ 0 < dispenser.room consumer := by
  unfold next? at found
  have hroom := List.find?_some found
  exact ⟨(mem_turnsFrom dispenser.cursor_le).mp (List.mem_of_find?_eq_some found),
    of_decide_eq_true hroom⟩

/-- Gives a value to the next consumer, if there is one with room. -/
def step : Dispenser consumers :=
  match next : dispenser.next? with
  | some consumer =>
      { cursor := consumer + 1
        cursor_le := (dispenser.next?_spec next).1
        room := Function.update dispenser.room consumer (dispenser.room consumer - 1) }
  | none => dispenser

/-- What a dispenser answers to values that it is given one after the other. -/
def answers : List α → Dispenser consumers → List (PushAnswer α)
  | [], _ => []
  | value :: rest, dispenser =>
      Fabric.answered value dispenser.next? :: answers rest dispenser.step

/-- All the room there is. -/
def total : Nat :=
  ∑ consumer ∈ Finset.range consumers, dispenser.room consumer

theorem step_of_some {consumer : Nat} (next : dispenser.next? = some consumer)
    : dispenser.step.cursor = consumer + 1
      ∧ dispenser.step.room
        = Function.update dispenser.room consumer (dispenser.room consumer - 1) := by
  unfold step
  split
  · next other next' =>
      obtain rfl := Option.some.inj (next.symm.trans next')
      exact ⟨rfl, rfl⟩
  · next none => cases next.symm.trans none

theorem step_of_none (none : dispenser.next? = none) : dispenser.step = dispenser := by
  unfold step
  split
  · next next => cases none.symm.trans next
  · rfl

/-- Each value gets the answer of the dispenser after those before it. -/
theorem answers_getElem? (values : List α) (dispenser : Dispenser consumers) (index : Nat)
    : (dispenser.answers values)[index]?
        = values[index]?.map fun value => Fabric.answered value (step^[index] dispenser).next? := by
  induction values generalizing dispenser index with
  | nil => rfl
  | cons value rest ih =>
      cases index with
      | zero => rfl
      | succ index => exact ih dispenser.step index

theorem eq_answered {pushes : List (α × PushAnswer α)} {dispenser : Dispenser consumers}
    (answers : pushes.map Prod.snd = dispenser.answers (pushes.map Prod.fst)) {index : Nat}
    {value : α} {answer : PushAnswer α} (here : pushes[index]? = some (value, answer))
    : answer = Fabric.answered value (step^[index] dispenser).next? := by
  have hnth := congrArg (·[index]?) answers
  simp only [answers_getElem?, List.getElem?_map, here, Option.map_some] at hnth
  exact Option.some.inj hnth

/-- There is a next consumer as long as there is room. -/
theorem next?_isSome_iff : dispenser.next?.isSome ↔ 0 < dispenser.total := by
  rw [next?, List.find?_isSome, total, Nat.pos_iff_ne_zero, ne_eq, Finset.sum_eq_zero_iff]
  simp only [mem_turnsFrom dispenser.cursor_le, decide_eq_true_eq, Finset.mem_range, not_forall,
    Nat.pos_iff_ne_zero, exists_prop]

/-- A step takes one from all the room there is. -/
theorem total_step : dispenser.step.total = dispenser.total - 1 := by
  cases next : dispenser.next? with
  | none =>
      have hzero : ¬0 < dispenser.total := by
        rw [← next?_isSome_iff, next]
        exact Bool.false_ne_true
      rw [dispenser.step_of_none next]
      omega
  | some consumer =>
      obtain ⟨within, room⟩ := dispenser.next?_spec next
      have hmem := Finset.mem_range.mpr within
      rw [total, (dispenser.step_of_some next).2, Finset.sum_update_of_mem hmem, total,
        Finset.sum_eq_add_sum_sdiff_singleton_of_mem hmem]
      omega

theorem total_iterate (count : Nat) : (step^[count] dispenser).total = dispenser.total - count := by
  induction count with
  | zero => rfl
  | succ count ih => rw [Function.iterate_succ_apply', total_step, ih, Nat.sub_sub]

/-- As many values are taken as there is room for, and no more. -/
theorem next?_iterate_isSome_iff (count : Nat)
    : (step^[count] dispenser).next?.isSome ↔ count < dispenser.total := by
  rw [next?_isSome_iff, total_iterate]
  omega

-----------------------------------------------------------------------------------------
-- Equal room
-----------------------------------------------------------------------------------------

theorem turnsFrom_eq_cons {cursor : Nat} (cursor_le : cursor ≤ consumers)
    (positive : 0 < consumers)
    : ∃ rest, turnsFrom cursor consumers = cursor % consumers :: rest := by
  rcases Nat.lt_or_eq_of_le cursor_le with hlt | rfl
  · obtain ⟨count, hcount⟩ := Nat.exists_eq_add_one_of_ne_zero (Nat.sub_ne_zero_of_lt hlt)
    rw [turnsFrom, hcount, List.range'_succ, Nat.mod_eq_of_lt hlt]
    exact ⟨_, rfl⟩
  · obtain ⟨count, rfl⟩ := Nat.exists_eq_add_one_of_ne_zero (Nat.ne_of_gt positive)
    rw [turnsFrom, Nat.sub_self, List.range'_zero, List.nil_append, List.range'_succ, Nat.mod_self]
    exact ⟨_, rfl⟩

/-- The consumer at the cursor gets the next value if it has room. -/
theorem next?_of_room (positive : 0 < consumers)
    (room : 0 < dispenser.room (dispenser.cursor % consumers))
    : dispenser.next? = some (dispenser.cursor % consumers) := by
  obtain ⟨rest, hturns⟩ := turnsFrom_eq_cons dispenser.cursor_le positive
  rw [next?, hturns, List.find?_cons, decide_eq_true room]

/-- A dispenser has given `count` values to the consumers in turn, from `start` on, of whom each one
had the same room.
-/
structure Round (start room count : Nat) (dispenser : Dispenser consumers) : Prop where
  cursor : dispenser.cursor % consumers = (start + count) % consumers
  room
    : ∀ consumer < consumers,
        dispenser.room consumer = room - share consumers start count consumer

variable {start room count : Nat} {dispenser : Dispenser consumers}

theorem round_zero (even : ∀ consumer < consumers, dispenser.room consumer = room)
    : dispenser.Round (dispenser.cursor % consumers) room 0 where
  cursor := (Nat.mod_mod _ _).symm
  room := even

section Round

variable (round : dispenser.Round start room count) (start_le : start ≤ consumers)
  (lt : count < consumers * room)

include round start_le lt

/-- Before all rooms are used up, whoever has the next turn has room. -/
theorem Round.next? : dispenser.next? = some ((start + count) % consumers) := by
  have positive : 0 < consumers := Nat.pos_of_mul_pos_right (Nat.zero_lt_of_lt lt)
  have hleft : count / consumers < room := Nat.div_lt_of_lt_mul lt
  have hroom := round.room _ (Nat.mod_lt (start + count) positive)
  rw [share_next start_le positive] at hroom
  rw [← round.cursor] at hroom ⊢
  exact dispenser.next?_of_room positive (by omega)

theorem Round.step : dispenser.step.Round start room (count + 1) := by
  obtain ⟨hcursor, hroom⟩ := dispenser.step_of_some (round.next? start_le lt)
  have hwithin := (dispenser.next?_spec (round.next? start_le lt)).1
  constructor
  · rw [hcursor, Nat.mod_add_mod, Nat.add_assoc]
  · intro consumer within
    rw [hroom, Function.update_apply, share_succ, round.room consumer within,
      round.room _ hwithin]
    split
    · next same => rw [same, if_pos rfl, Nat.sub_sub]
    · next other => rw [if_neg (Ne.symm other), Nat.add_zero]

end Round

/-- A dispenser goes round until all room is used, by induction on the number of steps. -/
theorem round_iterate (even : ∀ consumer < consumers, dispenser.room consumer = room)
    (le : count ≤ consumers * room)
    : (step^[count] dispenser).Round (dispenser.cursor % consumers) room count := by
  induction count with
  | zero => exact round_zero even
  | succ count ih =>
      have positive : 0 < consumers := Nat.pos_of_mul_pos_right (Nat.zero_lt_of_lt le)
      rw [Function.iterate_succ_apply']
      exact (ih (Nat.le_of_succ_le le)).step (Nat.le_of_lt (Nat.mod_lt _ positive)) le

/-- With equal room for all, values go round from the first consumer in turn on. -/
theorem next?_iterate_of_even (even : ∀ consumer < consumers, dispenser.room consumer = room)
    (lt : count < consumers * room)
    : (step^[count] dispenser).next?
        = some ((dispenser.cursor % consumers + count) % consumers) := by
  have positive : 0 < consumers := Nat.pos_of_mul_pos_right (Nat.zero_lt_of_lt lt)
  exact (round_iterate even (Nat.le_of_lt lt)).next? (Nat.le_of_lt (Nat.mod_lt _ positive)) lt

end Dispenser

-----------------------------------------------------------------------------------------
-- Operations that leave the links of a slot alone
-----------------------------------------------------------------------------------------

/-- One fabric after another in which a sender is still registered, and the links of its slot are as
they were.
-/
structure Fabric.Spared (sender : Sender) (before after : Fabric α) : Prop where
  same : SameWiring before after
  registered : after.isRegistered sender = true
  link? : ∀ consumer, after.link? sender.slot consumer = before.link? sender.slot consumer

theorem Fabric.Spared.refl {sender : Sender} {fabric : Fabric α}
    (registered : fabric.isRegistered sender = true)
    : fabric.Spared sender fabric where
  same := .refl fabric
  registered := registered
  link? := fun _ => rfl

namespace Session

variable {session : Session α} {place : Nat} {sender : Sender} {fabric : Fabric α}
  {operation : Operation α}

/-- The sender of a number can write into the links of a slot. -/
def mayWrite (session : Session α) (number slot place : Nat) : Bool :=
  match session.writing? place with
  | some writing =>
      writing.sender.fabric == number && writing.sender.slot == slot
        && writing.fabric.isRegistered writing.sender
  | none => false

theorem mayWrite_iff (held : session.sender? place = some sender)
    (found : session.fabric? sender.fabric = some fabric) (number slot : Nat)
    : session.mayWrite number slot place = true
        ↔ (sender.fabric = number ∧ sender.slot = slot) ∧ fabric.isRegistered sender = true := by
  simp only [mayWrite, writing?, held, found, Option.map_some, Bool.and_eq_true, beq_iff_eq]

/-- The operation is no pop and no registration, and it goes through no sender that can write into
the links of a slot.
-/
def Operation.spares (session : Session α) (number slot : Nat) : Operation α → Bool
  | .push place _ | .pushTo place _ _ | .unregister place | .unregisterVia _ place
  | .dropSender place => !session.mayWrite number slot place
  | .dropReceiver _ => true
  | .registerProducer _ | .registerConsumer _ | .pop _ => false

theorem sender?_keepWriting_of_ne {other : Nat} (ne : other ≠ place) (writing : Writing α)
    : (session.keepWriting other writing).sender? place = session.sender? place := by
  simp only [sender?, keepWriting, setSender, setFabric, Array.getElem?_setIfInBounds_ne ne]

/-- A push through a sender that cannot write into the links of a slot leaves them as they are. -/
theorem spared_push (wired : fabric.Wired) (registered : fabric.isRegistered sender = true)
    {other : Sender} (apart : ¬(other.slot = sender.slot ∧ fabric.isRegistered other = true))
    (consumer : Option Nat) (value : α)
    : fabric.Spared sender (Writing.push ⟨fabric, other⟩ consumer value).2.fabric := by
  have honly := onlyLinks_writing ⟨fabric, other⟩ consumer value
  have hsame := honly.sameWiring
  refine ⟨hsame, ?_, fun consumer' => ?_⟩
  · obtain ⟨links, _, hlinks⟩ := honly
    rw [hlinks]
    exact registered
  · rw [Fabric.link?_eq, Fabric.link?_eq, hsame.name?]
    cases named : fabric.name? sender.slot consumer' with
    | none => rfl
    | some name =>
        refine Classical.byContradiction fun changed => ?_
        have hwrites : fabric.Writes other name := ⟨consumer, value, changed⟩
        obtain ⟨hregistered, consumer'', named'⟩ := hwrites.reaches
        exact apart ⟨(wired.grid.name_inj named' named).1, hregistered⟩

/-- An operation that spares the slot of a registered sender leaves it registered, and its links as
they are.
-/
theorem Transition.spared {outcome : Outcome α}
    (transition : session.Transition operation outcome)
    (spares : operation.spares session sender.fabric sender.slot = true)
    (held : session.sender? place = some sender)
    (found : session.fabric? sender.fabric = some fabric)
    (registered : fabric.isRegistered sender = true) (own : fabric.id = sender.fabric)
    (wired : fabric.Wired)
    : outcome.session.sender? place = some sender
      ∧ ∃ next,
          outcome.session.fabric? sender.fabric = some next ∧ fabric.Spared sender next := by
  have hwrites : session.mayWrite sender.fabric sender.slot place = true :=
    (mayWrite_iff held found _ _).mpr ⟨⟨rfl, rfl⟩, registered⟩
  have hapart {place' : Nat}
      (barred : (!session.mayWrite sender.fabric sender.slot place') = true)
      : place' ≠ place := by
    rintro rfl
    rw [hwrites] at barred
    cases barred
  have hrefl := Fabric.Spared.refl registered
  cases transition with
  | missed | letGoReceiver => exact ⟨held, fabric, found, hrefl⟩
  | producer | consumer | popped => cases spares
  | @letGoSender place' sender' held' =>
      refine ⟨?_, fabric, found, hrefl⟩
      simp only [Outcome.quiet, dropSender, sender?,
        Array.getElem?_setIfInBounds_ne (hapart spares)]
      exact held
  | @unregistered _ number place' sender' fabric' asks held' found' =>
      have hbarred : (!session.mayWrite sender.fabric sender.slot place') = true := by
        rcases asks with ⟨rfl, _⟩ | rfl <;> exact spares
      refine ⟨held, ?_⟩
      rw [Outcome.logged, fabric?_setFabric found']
      split
      · next here =>
          subst here
          obtain rfl := Option.some.inj (found.symm.trans found')
          refine ⟨_, rfl, ?_⟩
          have hended := fabric.ended sender'
          generalize fabric.unregister sender' = enrolled at hended
          cases hended with
          | misused => exact hrefl
          | @ended slot own' hslot current =>
              have hsame := Fabric.sameWiring_updateSlot hslot
                { slot with ticket := sender'.ticket.ended, cursor := sender'.cursor } rfl rfl
                (sender'.slot :: fabric.freed)
              have hother : sender.slot ≠ sender'.slot := by
                intro same
                have hown : sender'.fabric = sender.fabric := own'.trans own
                have hregistered' : fabric.isRegistered sender' = true := by
                  rw [Fabric.isRegistered, hslot]
                  exact beq_iff_eq.mpr current
                rw [(mayWrite_iff held' (hown ▸ found) _ _).mpr
                  ⟨⟨hown, same.symm⟩, hregistered'⟩] at hbarred
                cases hbarred
              refine ⟨hsame, ?_, hsame.link? rfl sender.slot⟩
              rw [Fabric.isRegistered_iff] at registered ⊢
              have htickets := Fabric.ticket?_setSlot
                { fabric with freed := sender'.slot :: fabric.freed } hslot
                { slot with ticket := sender'.ticket.ended, cursor := sender'.cursor } sender.slot
              rw [if_neg hother] at htickets
              exact htickets.trans registered
      · exact ⟨fabric, found, hrefl⟩
  | @pushed place' consumer value sender' fabric' held' found' =>
      have hbarred : (!session.mayWrite sender.fabric sender.slot place') = true := by
        cases consumer <;> exact spares
      have hkept : (Writing.push ⟨fabric', sender'⟩ consumer value).2.sender.fabric
          = sender'.fabric :=
        congrArg Badge.fabric (push_badge ⟨fabric', sender'⟩ consumer value)
      refine ⟨(sender?_keepWriting_of_ne (hapart hbarred) _).trans held, ?_⟩
      rw [Outcome.quiet, fabric?_keepWriting session place' hkept, fabric?_setFabric found']
      split
      · next here =>
          obtain rfl := Option.some.inj (found.symm.trans (here ▸ found'))
          refine ⟨_, rfl, spared_push wired registered (fun both => ?_) consumer value⟩
          rw [(mayWrite_iff held' found' _ _).mpr ⟨⟨here, both.1⟩, both.2⟩] at hbarred
          cases hbarred
      · exact ⟨fabric, found, hrefl⟩

end Session

-----------------------------------------------------------------------------------------
-- A sender pushes like a dispenser
-----------------------------------------------------------------------------------------

/-- The consumer that took the value. -/
def PushAnswer.taker? : PushAnswer α → Option Nat
  | .accepted consumer => some consumer
  | _ => none

theorem PushAnswer.taker?_answered (value : α) (taker : Option Nat)
    : (Fabric.answered value taker).taker? = taker := by
  cases taker <;> rfl

/-- The values among several that were pushed that a consumer took. -/
def gained (consumer : Nat) (pushes : List (α × PushAnswer α)) : List α :=
  pushes.filterMap fun push => if push.2.taker? = some consumer then some push.1 else none

theorem gained_append (consumer : Nat) (pushes more : List (α × PushAnswer α))
    : gained consumer (pushes ++ more) = gained consumer pushes ++ gained consumer more :=
  List.filterMap_append

namespace Dispenser

variable {consumers : Nat} {dispenser : Dispenser consumers} {fabric : Fabric α}
  {sender : Sender}

/-- A dispenser has the cursor of a sender, and the room that there is in the links of its slot. -/
structure Models (dispenser : Dispenser consumers) (fabric : Fabric α) (sender : Sender) : Prop
    where
  consumers_eq : fabric.consumerCount = consumers
  cursor : dispenser.cursor = sender.cursor
  room
    : ∀ consumer < consumers,
        dispenser.room consumer
          = fabric.config.channelCapacity - (fabric.held sender.slot consumer).length

/-- The dispenser and the fabric agree on who takes the next value. -/
theorem Models.next? (models : dispenser.Models fabric sender)
    : dispenser.next? = fabric.taker? sender.slot (turnsFrom sender.cursor consumers) := by
  have hcursor := dispenser.cursor_le
  rw [models.cursor] at hcursor
  rw [Dispenser.next?, Fabric.taker?, models.cursor]
  refine List.find?_congr fun consumer member => decide_eq_decide.mpr ?_
  rw [models.room consumer ((mem_turnsFrom hcursor).mp member), Fabric.HasRoom]
  omega

theorem Models.spared (models : dispenser.Models fabric sender) {next : Fabric α}
    (spared : fabric.Spared sender next)
    : dispenser.Models next sender where
  consumers_eq := spared.same.consumerCount.trans models.consumers_eq
  cursor := models.cursor
  room := by
    intro consumer within
    rw [models.room consumer within, spared.same.config, Fabric.held, Fabric.held, spared.link?]

/-- A value is added to what the consumer that takes it holds, and to nothing else. -/
theorem held_of_offered {producer : Nat} {value : α} {answer : PushAnswer α} {next : Fabric α}
    (offered : fabric.Offered producer value answer next) (wired : fabric.Wired)
    (consumer : Nat)
    : next.held producer consumer
        = fabric.held producer consumer ++ gained consumer [(value, answer)] := by
  cases offered with
  | rejected kept =>
      rw [kept.held wired trivial]
      exact (List.append_nil _).symm
  | @accepted taker _ link link' found found' grown others =>
      by_cases same : taker = consumer
      · subst same
        rw [Fabric.held, found', Option.map_some, Option.getD_some, grown.toList, Fabric.held,
          found, Option.map_some, Option.getD_some]
        simp [gained, PushAnswer.taker?]
      · rw [others.held wired fun both => same both.2.symm]
        simp [gained, PushAnswer.taker?, same]

/-- A push gets the answer of the dispenser, and both go on alike. -/
theorem Models.push (models : dispenser.Models fabric sender) {history : List (Passage α)}
    (follows : fabric.Follows fabric.config history) (uniform : fabric.Uniform)
    (registered : fabric.isRegistered sender = true)
    (within : sender.slot < fabric.producerCount) (value : α)
    : (fabric.push sender value).1 = Fabric.answered value dispenser.next?
      ∧ dispenser.step.Models (fabric.push sender value).2.2 (fabric.push sender value).2.1
      ∧ ∀ consumer,
          (fabric.push sender value).2.2.held sender.slot consumer
            = fabric.held sender.slot consumer
              ++ gained consumer [(value, (fabric.push sender value).1)] := by
  obtain ⟨rfl, hcursor, hroom⟩ := models
  have cursor_le := dispenser.cursor_le
  rw [hcursor] at cursor_le
  obtain ⟨hanswer, hpast, hoffered⟩ :=
    follows.push_offered uniform registered within cursor_le value
  rw [← Models.next? ⟨rfl, hcursor, hroom⟩] at hanswer
  have hsame := (fabric.onlyLinks_push sender value).sameWiring
  have hslot := (fabric.push_sender sender value).2
  have hheld := held_of_offered hoffered follows.wired
  refine ⟨hanswer, ⟨hsame.consumerCount, ?_, fun consumer lt => ?_⟩, hheld⟩
  · rw [hpast, hanswer]
    cases found : dispenser.next? with
    | some taker => exact (dispenser.step_of_some found).1
    | none => exact (congrArg Dispenser.cursor (dispenser.step_of_none found)).trans hcursor
  · rw [hslot, hheld, hsame.config, List.length_append, hanswer, ← Nat.sub_sub, ← hroom consumer lt]
    cases found : dispenser.next? with
    | none => rw [dispenser.step_of_none found]; rfl
    | some taker =>
        rw [(dispenser.step_of_some found).2, Function.update_apply]
        split
        · next same => simp [same, gained, PushAnswer.taker?_answered]
        · next other => simp [Ne.symm other, gained, PushAnswer.taker?_answered]

end Dispenser

-----------------------------------------------------------------------------------------
-- A row of pushes through one sender
-----------------------------------------------------------------------------------------

namespace Session

variable {place : Nat} {sender : Sender} {fabric : Fabric α}

/-- The value that an operation pushes by fan-out through the sender of a number. -/
def Operation.offers? (place : Nat) : Operation α → Option α
  | .push place' value => if place' = place then some value else none
  | _ => none

theorem Operation.offers?_eq_some {operation : Operation α} {value : α}
    (offers : operation.offers? place = some value)
    : operation = .push place value := by
  cases operation with
  | push place' value' =>
      rw [offers?] at offers
      split at offers
      · next same => rw [same, Option.some.inj offers]
      · cases offers
  | _ => cases offers

/-- The value that an operation pushes by fan-out through the sender of a number, and its answer. -/
def Operation.fanOut? (place : Nat) (operation : Operation α) (outcome : Outcome α)
    : Option (α × PushAnswer α) :=
  match operation.offers? place, outcome.reply with
  | some value, .pushed answer => some (value, answer)
  | _, _ => none

/-- The values pushed by fan-out through the sender of a number over a run, with their answers. -/
def fanOuts (now place : Nat) : List (Operation α) → Session α → List (α × PushAnswer α)
  | [], _ => []
  | operation :: rest, session =>
      let outcome := session.step now operation.command
      (operation.fanOut? place outcome).toList ++ fanOuts now place rest outcome.session

/-- Every operation of a run is a fan-out push through the sender of a number, or it spares the
links of a slot.
-/
def isUndisturbed (now place number slot : Nat) : List (Operation α) → Session α → Bool
  | [], _ => true
  | operation :: rest, session =>
      ((operation.offers? place).isSome || operation.spares session number slot)
        && isUndisturbed now place number slot rest (session.step now operation.command).session

/-- The pushes of an undisturbed run get the answers of a dispenser, and what the consumers take is
added to what they hold. The induction is over the operations; those that are no pushes through the
sender leave the dispenser as it is.
-/
theorem fanOuts_dispensed (shape : Shape) (configs : List Config) (now : Nat)
    (operations more : List (Operation α)) {consumers : Nat} {dispenser : Dispenser consumers}
    (held : ((start shape configs).after now operations).sender? place = some sender)
    (found : ((start shape configs).after now operations).fabric? sender.fabric = some fabric)
    (registered : fabric.isRegistered sender = true) (models : dispenser.Models fabric sender)
    (undisturbed
      : isUndisturbed now place sender.fabric sender.slot more
          ((start shape configs).after now operations)
        = true)
    : let pushes := fanOuts now place more ((start shape configs).after now operations)
      pushes.map Prod.fst = more.filterMap (Operation.offers? place)
        ∧ pushes.map Prod.snd = dispenser.answers (pushes.map Prod.fst)
        ∧ ∃ last,
          ((start shape configs).after now (operations ++ more)).fabric? sender.fabric = some last
          ∧ ∀ consumer,
              last.held sender.slot consumer
                = fabric.held sender.slot consumer ++ gained consumer pushes := by
  induction more generalizing operations sender fabric dispenser with
  | nil =>
      rw [List.append_nil]
      exact ⟨rfl, rfl, fabric, found, fun consumer => (List.append_nil _).symm⟩
  | cons operation rest ih =>
      obtain ⟨_, within, _, hf, huniform⟩ :=
        sender_stands shape configs now operations held found
      simp only [isUndisturbed, Bool.and_eq_true, Bool.or_eq_true] at undisturbed
      obtain ⟨hfirst, hrest⟩ := undisturbed
      have happend : operations ++ operation :: rest = (operations ++ [operation]) ++ rest := by
        simp
      have hafter := after_concat now operations operation (start shape configs)
      simp only [fanOuts, ← hafter, happend] at hrest ⊢
      cases hoffers : operation.offers? place with
      | some value =>
          obtain rfl := Operation.offers?_eq_some hoffers
          obtain ⟨hanswer, hmodels, hheld⟩ :=
            models.push hf huniform registered within value
          obtain ⟨hfabric, hslot⟩ := fabric.push_sender sender value
          have hregistered :
              (fabric.push sender value).2.2.isRegistered (fabric.push sender value).2.1 = true :=
            (Fabric.isRegistered_push ⟨fabric, sender⟩ none value).trans registered
          have hstep : ((start shape configs).after now operations).step now
              (Operation.push place value).command = _ :=
            step_pushing now held found none value
          have hkept := hafter.trans (congrArg Outcome.session hstep)
          obtain ⟨hoffered, hanswers, last, hlast, hheld'⟩ := ih _
            (hkept ▸ sender?_keepWriting held _)
            (hkept ▸ fabric?_keepWriting_self place _ (hfabric.symm ▸ found))
            hregistered hmodels (hfabric.symm ▸ hslot.symm ▸ hrest)
          have hfirst : (Operation.push place value).fanOut? place
              (((start shape configs).after now operations).step now
                (Operation.push place value).command)
              = some (value, (fabric.push sender value).1) := by
            simp [Operation.fanOut?, hoffers, hstep, Outcome.quiet, Writing.push]
          rw [hfirst, Option.toList_some, List.singleton_append]
          refine ⟨?_, ?_, last, hfabric ▸ hlast, fun consumer => ?_⟩
          · rw [List.map_cons, List.filterMap_cons, hoffers, hoffered]
          · rw [List.map_cons, List.map_cons, Dispenser.answers, ← hanswer, hanswers]
          · have hlater := hheld' consumer
            simp only [hslot] at hlater
            rw [hlater, hheld, List.append_assoc, ← gained_append]
            rfl
      | none =>
          have hquiet (outcome : Outcome α) : operation.fanOut? place outcome = none := by
            rw [Operation.fanOut?, hoffers]
          have hspares := hfirst.resolve_left (hoffers ▸ Bool.false_ne_true)
          rw [hquiet, Option.toList_none, List.nil_append, List.filterMap_cons, hoffers]
          obtain ⟨_, _, hinstalled⟩ :=
            ((housed_start shape configs).after now operations).fabric found
          obtain ⟨held', next, found', spared⟩ :=
            (step_transition now _ operation).spared hspares held found registered
              hinstalled.id_eq hinstalled.wired
          rw [← hafter] at held' found'
          obtain ⟨hoffered, hanswers, last, hlast, hheld⟩ := ih _ held' found' spared.registered
            (models.spared spared) hrest
          refine ⟨hoffered, hanswers, last, hlast, fun consumer => ?_⟩
          rw [hheld, Fabric.held, spared.link?, ← Fabric.held]

/-- The values a consumer gained are those of the turns that fell to it. -/
theorem length_gained {pushes : List (α × PushAnswer α)} {taker : Nat → Nat}
    (turns
      : ∀ index push, pushes[index]? = some push → push.2.taker? = some (taker index))
    (consumer : Nat)
    : (gained consumer pushes).length
        = Nat.count (fun index => taker index = consumer) pushes.length := by
  induction pushes using List.reverseRecOn with
  | nil => rfl
  | append_singleton front push ih =>
      have hlast := turns front.length push (by simp)
      have hfront := ih fun index other found => turns index other <| by
        rw [List.getElem?_append_left (List.getElem?_eq_some_iff.mp found).1, found]
      rw [gained_append, List.length_append, hfront, List.length_append, List.length_singleton,
        Nat.count_succ]
      by_cases here : taker front.length = consumer <;> simp [gained, hlast, here]

/-- Fan-out uses all the room and spreads it evenly. From every reachable state, in every run of
pushes through a registered sender without pops and registrations in between, and with nobody else
writing into the links of its slot: as many pushes are accepted as there was room in all links
together, and every later one is rejected. If all links held equally much at first, then the pushes
that are accepted go to the consumers in turn, from the one at the cursor on, or from the first one
if the cursor was behind the last; so after any number of them no consumer has got more than one
value more than another.
-/
theorem fan_out_fills_evenly (shape : Shape) (configs : List Config) (now : Nat)
    (operations more : List (Operation α))
    (held : ((start shape configs).after now operations).sender? place = some sender)
    (found : ((start shape configs).after now operations).fabric? sender.fabric = some fabric)
    (registered : fabric.isRegistered sender = true)
    (undisturbed
      : isUndisturbed now place sender.fabric sender.slot more
          ((start shape configs).after now operations)
        = true)
    : let pushes := fanOuts now place more ((start shape configs).after now operations)
      let wired := (fabric.producerRow sender.slot).wired
      let capacity := fabric.config.channelCapacity
      let occupancy (consumer : Nat) := (fabric.held sender.slot consumer).length
      configs[sender.fabric]? = some fabric.config
        ∧ pushes.map Prod.fst = more.filterMap (Operation.offers? place)
        ∧ (∀ index value answer,
          pushes[index]? = some (value, answer)
          → if index < ∑ consumer ∈ Finset.range wired, (capacity - occupancy consumer) then
              ∃ consumer < wired, answer = .accepted consumer
            else
              answer = .rejected value)
        ∧ (∃ last,
          ((start shape configs).after now (operations ++ more)).fabric? sender.fabric = some last
          ∧ ∀ consumer,
              last.held sender.slot consumer
                = fabric.held sender.slot consumer ++ gained consumer pushes)
        ∧ ∀ occupied,
          (∀ consumer < wired, occupancy consumer = occupied)
          → (∀ index value answer,
              pushes[index]? = some (value, answer)
              → index < wired * (capacity - occupied)
              → answer
                  = .accepted
                      (((if sender.cursor < wired then sender.cursor else 0) + index) % wired))
            ∧ (pushes.length ≤ wired * (capacity - occupied)
              → ∀ consumer < wired,
                  ∀ other < wired,
                    (gained consumer pushes).length ≤ (gained other pushes).length + 1) := by
  intro pushes wired capacity occupancy
  obtain ⟨configured, within, cursor_le, hf, _⟩ :=
    sender_stands shape configs now operations held found
  have hwired : fabric.consumerCount = wired := (hf.wired.producer_wired within).symm
  rw [hwired] at cursor_le
  let dispenser : Dispenser wired :=
    ⟨sender.cursor, cursor_le, fun consumer => capacity - occupancy consumer⟩
  have hmodels : dispenser.Models fabric sender := ⟨hwired, rfl, fun _ _ => rfl⟩
  obtain ⟨hoffered, hanswers, hlast⟩ :=
    fanOuts_dispensed shape configs now operations more held found registered hmodels undisturbed
  have hanswer {index : Nat} {value : α} {answer : PushAnswer α}
      (here : pushes[index]? = some (value, answer)) :=
    Dispenser.eq_answered hanswers here
  refine ⟨configured, hoffered, ?_, hlast, ?_⟩
  · intro index value answer here
    rw [hanswer here]
    have hroom := dispenser.next?_iterate_isSome_iff index
    split
    · next lt =>
        obtain ⟨consumer, hnext⟩ := Option.isSome_iff_exists.mp (hroom.mpr lt)
        exact ⟨consumer, (Dispenser.next?_spec _ hnext).1, by rw [hnext]; rfl⟩
    · next full =>
        have hnone := Option.not_isSome_iff_eq_none.mp (fun some => full (hroom.mp some))
        rw [hnone]
        rfl
  · intro occupied hoccupied
    have hfirst : (if sender.cursor < wired then sender.cursor else 0) = sender.cursor % wired := by
      split
      · next lt => exact (Nat.mod_eq_of_lt lt).symm
      · next behind => rw [Nat.le_antisymm cursor_le (Nat.le_of_not_lt behind), Nat.mod_self]
    have heven : ∀ consumer < wired, dispenser.room consumer = capacity - occupied :=
      fun consumer lt => congrArg (capacity - ·) (hoccupied consumer lt)
    have hturn {index : Nat} {value : α} {answer : PushAnswer α}
        (here : pushes[index]? = some (value, answer))
        (lt : index < wired * (capacity - occupied))
        : answer = .accepted ((sender.cursor % wired + index) % wired) := by
      rw [hanswer here, Dispenser.next?_iterate_of_even heven lt]
      rfl
    rw [hfirst]
    refine ⟨fun index value answer => hturn, fun le consumer lt other lt' => ?_⟩
    have hgained (consumer : Nat)
        : (gained consumer pushes).length
            = share wired (sender.cursor % wired) pushes.length consumer :=
      length_gained (fun index push here =>
        congrArg PushAnswer.taker?
          (hturn here (Nat.lt_of_lt_of_le (List.getElem?_eq_some_iff.mp here).1 le))) consumer
    rw [hgained, hgained]
    exact share_le_succ (Nat.le_of_lt (Nat.mod_lt _ (Nat.zero_lt_of_lt lt))) lt lt' pushes.length

/-- Three links of a sender hold one value each, and the second consumer is the next in turn. -/
def levelled : List (Operation Nat) :=
  [.registerConsumer 0, .registerConsumer 0, .registerConsumer 0, .registerProducer 0,
    .pushTo 0 1 10, .push 0 11, .pushTo 0 2 12, .registerProducer 0]

/-- The sender pushes four times, while another one pushes, leaves, and pushes in vain. -/
def topUp : List (Operation Nat) :=
  [.push 0 20, .push 1 90, .push 0 21, .unregister 1, .push 1 91, .push 0 22, .push 0 23]

/-- With room for one more value each, three pushes go round from the second consumer on, and the
fourth one is rejected.
-/
theorem fan_out_fills_evenly_topUp
    : let reached := (start ⟨2, 3⟩ [⟨2, true⟩]).after 0 levelled
      ∃ fabric,
        reached.sender? 0 = some ⟨0, 0, ⟨1⟩, 1⟩
        ∧ reached.fabric? 0 = some fabric
        ∧ fabric.isRegistered ⟨0, 0, ⟨1⟩, 1⟩ = true
        ∧ isUndisturbed 0 0 0 0 topUp reached = true
        ∧ fanOuts 0 0 topUp reached
          = [(20, .accepted 1), (21, .accepted 2), (22, .accepted 0), (23, .rejected 23)] := by
  intro reached
  have hheld : reached.sender? 0 = some ⟨0, 0, ⟨1⟩, 1⟩ := by decide +kernel
  have hquiet : isUndisturbed 0 0 0 0 topUp reached = true := by decide +kernel
  have hviews
      : (reached.fabric? 0).map (fun fabric =>
            (fabric.isRegistered ⟨0, 0, ⟨1⟩, 1⟩, (fabric.producerRow 0).wired,
              fabric.config.channelCapacity,
              (fabric.held 0 0).length, (fabric.held 0 1).length, (fabric.held 0 2).length))
        = some (true, 3, 2, 1, 1, 1) := by
    decide +kernel
  obtain ⟨fabric, found, hview⟩ := Option.map_eq_some_iff.mp hviews
  simp only [Prod.mk.injEq] at hview
  obtain ⟨hregistered, hwired, hcapacity, hfirst, hsecond, hthird⟩ := hview
  obtain ⟨_, hvalues, hroom, _, heven⟩ :=
    fan_out_fills_evenly ⟨2, 3⟩ [⟨2, true⟩] 0 levelled topUp hheld found hregistered hquiet
  refine ⟨fabric, hheld, found, hregistered, hquiet, ?_⟩
  rw [hwired, hcapacity] at hroom heven
  change _ = [20, 21, 22, 23] at hvalues
  simp only [List.map_eq_cons_iff, List.map_eq_nil_iff] at hvalues
  obtain ⟨⟨_, answer⟩, _, hpushes, rfl, ⟨_, answer'⟩, _, rfl, rfl, ⟨_, answer''⟩, _, rfl, rfl,
    ⟨_, last⟩, _, rfl, rfl, rfl⟩ := hvalues
  rw [hpushes] at hroom heven ⊢
  obtain ⟨hturn, _⟩ := heven 1 (by
    intro consumer lt
    obtain rfl | rfl | rfl : consumer = 0 ∨ consumer = 1 ∨ consumer = 2 := by omega
    · exact hfirst
    · exact hsecond
    · exact hthird)
  rw [hturn 0 20 answer rfl (by decide), hturn 1 21 answer' rfl (by decide),
    hturn 2 22 answer'' rfl (by decide)]
  have hlast : last = .rejected 23 := by
    simpa [Finset.sum_range_succ, hfirst, hsecond, hthird] using hroom 3 23 last rfl
  rw [hlast]
  rfl

end Session

end Crossbar
