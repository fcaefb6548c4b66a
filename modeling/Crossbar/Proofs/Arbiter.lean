import Mathlib.Data.List.Basic
import Crossbar.Proofs.Capacity
import Crossbar.Proofs.Fairness
import Crossbar.Proofs.LinkOrder

/-! A pop is one turn of an arbiter. It examines the links of its consumer one after the other, the
one with the producer of a running streak first and then all of them from the cursor on, and it is
served by the first one with a live value. Which values are live and which are stale is read off the
history of each link.
-/

namespace Crossbar

variable {α : Type}

open Motion
open Passage (onLink)

-----------------------------------------------------------------------------------------
-- What a history says about the values in a link
-----------------------------------------------------------------------------------------

namespace Motion

variable {drain : Bool} {motions : List (Motion α)}

/-- The values in a link that were accepted before the stale mark, oldest first. -/
def staleHeld (drain : Bool) (motions : List (Motion α)) : List α :=
  ((entered motions).take (staleBound drain motions)).drop (departed motions).length

/-- The values in a link that were accepted behind the stale mark, oldest first. -/
def liveHeld (drain : Bool) (motions : List (Motion α)) : List α :=
  (entered motions).drop (max (departed motions).length (staleBound drain motions))

/-- As long as few values have been popped, those to discard are the ones before the mark. -/
theorem take_staleLead_of_few (ruled : Ruled drain motions)
    (few : poppedSince drain motions < 0x8000000000000000)
    : (remaining motions).take (staleLead drain motions) = staleHeld drain motions := by
  rw [staleLead_of_few ruled few, remaining, staleHeld, List.drop_take]

/-- As long as few values have been popped, those to take are the ones behind the mark. -/
theorem drop_staleLead_of_few (ruled : Ruled drain motions)
    (few : poppedSince drain motions < 0x8000000000000000)
    : (remaining motions).drop (staleLead drain motions) = liveHeld drain motions := by
  rw [staleLead_of_few ruled few, remaining, liveHeld, List.drop_drop]
  congr 1
  omega

/-- Behind an overrun mark there is nothing to take, until the total of the values that have left
comes round to it.
-/
theorem drop_staleLead_of_overrun
    (overrun : staleBound drain motions + 0x8000000000000000 ≤ (departed motions).length)
    (near : (entered motions).length ≤ staleBound drain motions + 0x10000000000000000)
    : (remaining motions).drop (staleLead drain motions) = [] := by
  rcases Nat.lt_or_ge (departed motions).length
      (staleBound drain motions + 0x10000000000000000) with lt | ge
  · rw [staleLead_of_overrun overrun lt, remaining, List.drop_drop]
    apply List.drop_eq_nil_iff.mpr
    omega
  · have hnone : remaining motions = [] := List.drop_eq_nil_iff.mpr (Nat.le_trans near ge)
    rw [hnone, List.drop_nil]

end Motion

namespace Link

variable {drain : Bool} {link : Link α} {motions : List (Motion α)}

theorem Follows.stale_eq (follows : link.Follows drain motions)
    : link.stale = (remaining motions).take (staleLead drain motions) := by
  rw [stale, follows.staleCount_eq, follows.toList_eq]

theorem Follows.live_eq (follows : link.Follows drain motions)
    : link.live = (remaining motions).drop (staleLead drain motions) := by
  rw [live, follows.staleCount_eq, follows.toList_eq]

end Link

namespace Fabric

/-- The values in the link of a pair that the reader is going to discard. -/
def stale (fabric : Fabric α) (producer consumer : Nat) : List α :=
  ((fabric.link? producer consumer).map Link.stale).getD []

/-- The values in the link of a pair that the reader is going to take. -/
def live (fabric : Fabric α) (producer consumer : Nat) : List α :=
  ((fabric.link? producer consumer).map Link.live).getD []

variable {config : Config} {fabric : Fabric α} {history : List (Passage α)}

theorem stale_append_live (fabric : Fabric α) (producer consumer : Nat)
    : fabric.stale producer consumer ++ fabric.live producer consumer
        = fabric.held producer consumer := by
  rw [stale, live, held]
  cases fabric.link? producer consumer with
  | none => rfl
  | some link => exact link.stale_append_live

/-- The history of each link tells its stale values from its live ones. -/
theorem Follows.contents_eq (follows : fabric.Follows config history) (producer consumer : Nat)
    : let past := onLink producer consumer history
      let drain := config.drainOnReclaim
      fabric.stale producer consumer = (remaining past).take (staleLead drain past)
      ∧ fabric.live producer consumer = (remaining past).drop (staleLead drain past) := by
  intro past drain
  rw [stale, live]
  cases found : fabric.link? producer consumer with
  | some link => exact ⟨(follows.link found).stale_eq, (follows.link found).live_eq⟩
  | none =>
      have hnone : remaining past = [] := by
        rw [remaining, entered_of_untouched (follows.untouched found), List.drop_nil]
      rw [hnone, List.take_nil, List.drop_nil]
      exact ⟨rfl, rfl⟩

/-- As long as few values have been popped from a link, its stale values are those before the mark
and its live ones those behind it.
-/
theorem Follows.contents_of_few (follows : fabric.Follows config history) (producer consumer : Nat)
    (few
      : poppedSince config.drainOnReclaim (onLink producer consumer history)
        < 0x8000000000000000)
    : fabric.stale producer consumer
          = staleHeld config.drainOnReclaim (onLink producer consumer history)
      ∧ fabric.live producer consumer
          = liveHeld config.drainOnReclaim (onLink producer consumer history) := by
  have hruled := follows.ruled producer consumer
  obtain ⟨hstale, hlive⟩ := follows.contents_eq producer consumer
  exact ⟨hstale.trans (take_staleLead_of_few hruled few),
    hlive.trans (drop_staleLead_of_few hruled few)⟩

end Fabric

-----------------------------------------------------------------------------------------
-- What a walk along links does
-----------------------------------------------------------------------------------------

/-- The values of several producers, producer by producer and oldest first. -/
def sourced (values : Nat → List α) (producers : List Nat) : List (Sourced α) :=
  producers.flatMap fun producer => (values producer).map (Sourced.mk producer)

theorem sourced_append (values : Nat → List α) (producers more : List Nat)
    : sourced values (producers ++ more) = sourced values producers ++ sourced values more :=
  List.flatMap_append

theorem sourced_cons (values : Nat → List α) (producer : Nat) (rest : List Nat)
    : sourced values (producer :: rest)
        = (values producer).map (Sourced.mk producer) ++ sourced values rest :=
  List.flatMap_cons

theorem sourced_congr {values values' : Nat → List α} {producers : List Nat}
    (same : ∀ producer ∈ producers, values producer = values' producer)
    : sourced values producers = sourced values' producers :=
  List.flatMap_congr fun producer member =>
    congrArg (List.map (Sourced.mk producer)) (same producer member)

/-- Producers without values can be left out. -/
theorem sourced_filter {values values' : Nat → List α} {left : List Nat} (producers : List Nat)
    (gone : ∀ producer ∈ left, values producer = [])
    (same : ∀ producer, producer ∉ left → values producer = values' producer)
    : sourced values producers = sourced values' (producers.filter (· ∉ left)) := by
  induction producers with
  | nil => rfl
  | cons producer rest ih =>
      rw [sourced_cons, ih]
      by_cases member : producer ∈ left
      · simp [member, gone producer member]
      · simp [member, same producer member, sourced_cons]

namespace Fabric

/-- A walk has examined the links of a consumer with some producers: it left each of them with what
is behind its first live value, and it touched no other link.
-/
structure Examined (consumer : Nat) (examined : List Nat) (before after : Fabric α) : Prop where
  only : OnlyLinks before after
  left
    : ∀ producer ∈ examined,
        after.held producer consumer = (before.live producer consumer).tail
  spared
    : ∀ producer consumer',
        ¬(producer ∈ examined ∧ consumer' = consumer)
        → after.link? producer consumer' = before.link? producer consumer'

section Examined

variable {config : Config} {fabric before after : Fabric α}
  {history : List (Passage α)} {consumer : Nat} {examined more : List Nat}

theorem Examined.none (fabric : Fabric α) (consumer : Nat)
    : Examined consumer [] fabric fabric where
  only := .refl fabric
  left := fun _ member => absurd member List.not_mem_nil
  spared := fun _ _ _ => rfl

/-- A link that was not examined has the values it had. -/
theorem Examined.contents_of_not_mem (examines : Examined consumer examined before after)
    {producer : Nat} (apart : producer ∉ examined)
    : after.stale producer consumer = before.stale producer consumer
      ∧ after.live producer consumer = before.live producer consumer := by
  have hsame := examines.spared producer consumer fun member => apart member.1
  exact ⟨by rw [stale, stale, hsame], by rw [live, live, hsame]⟩

/-- The stale values of links that were not examined are still there. -/
theorem Examined.stale_apart (examines : Examined consumer examined before after)
    {producers : List Nat} (apart : ∀ producer ∈ producers, producer ∉ examined)
    : sourced (after.stale · consumer) producers = sourced (before.stale · consumer) producers :=
  sourced_congr fun producer member => (examines.contents_of_not_mem (apart producer member)).1

theorem Examined.congr (examines : Examined consumer examined before after)
    (same : ∀ producer, producer ∈ more ↔ producer ∈ examined)
    : Examined consumer more before after where
  only := examines.only
  left := fun producer member => examines.left producer ((same producer).mp member)
  spared := fun producer consumer' apart =>
    examines.spared producer consumer' fun both => apart ⟨(same producer).mpr both.1, both.2⟩

section Dry

variable (examines : Examined consumer examined before after)
  (dry : ∀ producer ∈ examined, before.live producer consumer = [])

include examines dry

/-- A link without live values is empty once it was examined. -/
theorem Examined.contents_of_mem {producer : Nat} (member : producer ∈ examined)
    : after.stale producer consumer = [] ∧ after.live producer consumer = [] := by
  have hleft := examines.left producer member
  rw [dry producer member, List.tail_nil, ← stale_append_live] at hleft
  exact List.append_eq_nil_iff.mp hleft

/-- Examining links without live values leaves the live values of all links as they are. -/
theorem Examined.live_eq (producer : Nat)
    : after.live producer consumer = before.live producer consumer := by
  by_cases member : producer ∈ examined
  · rw [(examines.contents_of_mem dry member).2, dry producer member]
  · exact (examines.contents_of_not_mem member).2

/-- One walk after another is one walk, if the first one finds no live value. -/
theorem Examined.trans {last : Fabric α} (next : Examined consumer more after last)
    : Examined consumer (examined ++ more) before last where
  only := examines.only.trans next.only
  left := by
    intro producer member
    by_cases again : producer ∈ more
    · rw [next.left producer again, examines.live_eq dry]
    · have hfirst : producer ∈ examined := (List.mem_append.mp member).resolve_right again
      have hsame := next.spared producer consumer fun both => again both.1
      rw [held, hsame, ← held, examines.left producer hfirst]
  spared := by
    intro producer consumer' apart
    rw [next.spared producer consumer' fun both =>
        apart ⟨List.mem_append_right _ both.1, both.2⟩,
      examines.spared producer consumer' fun both =>
        apart ⟨List.mem_append_left _ both.1, both.2⟩]

/-- A walk after another finds stale values only in links that it is the first to examine. -/
theorem Examined.stale_after (producers : List Nat)
    : sourced (after.stale · consumer) producers
        = sourced (before.stale · consumer) (producers.filter (· ∉ examined)) :=
  sourced_filter producers (fun _ member => (examines.contents_of_mem dry member).1)
    fun _ apart => (examines.contents_of_not_mem apart).1

end Dry

theorem drawAlong_cons_of_none {wire : Wire} {next : Fabric α} {discarded : List (Sourced α)}
    (drawn : fabric.draw wire = (⟨none, discarded⟩, next)) (rest : List Wire)
    : Fabric.drawAlong (wire :: rest) fabric
        = (⟨(Fabric.drawAlong rest next).1.taken,
              discarded ++ (Fabric.drawAlong rest next).1.discarded⟩,
            (Fabric.drawAlong rest next).2) := by
  simp only [Fabric.drawAlong, drawn]

theorem drawAlong_cons_of_some {wire : Wire} {next : Fabric α} {taken : Sourced α}
    {discarded : List (Sourced α)} (drawn : fabric.draw wire = (⟨some taken, discarded⟩, next))
    (rest : List Wire)
    : Fabric.drawAlong (wire :: rest) fabric = (⟨some taken, discarded⟩, next) := by
  simp only [Fabric.drawAlong, drawn]

/-- Drawing from an entry examines its link, discards what is stale and takes the first live value.
-/
theorem Follows.draw_eq (follows : fabric.Follows config history) {producer name : Nat}
    (named : fabric.name? producer consumer = some name)
    : (fabric.draw ⟨producer, name⟩).1
          = ⟨(fabric.live producer consumer).head?.map (Sourced.mk producer),
              sourced (fabric.stale · consumer) [producer]⟩
      ∧ Examined consumer [producer] fabric (fabric.draw ⟨producer, name⟩).2 := by
  obtain ⟨link, hplace, hlink⟩ := follows.wired.links_of_name named
  obtain ⟨_, hdraw, hrest, _⟩ := Link.pop_eq (follows.sound hlink)
  have honly := fabric.onlyLinks_draw ⟨producer, name⟩
  rw [draw_of_link ⟨producer, name⟩ hplace] at honly ⊢
  refine ⟨?_, honly, ?_, ?_⟩
  · simp [hdraw, live, stale, sourced, hlink]
  · intro producer' member
    obtain rfl := List.mem_singleton.mp member
    simp only [held, live, follows.wired.link?_setLink named, hlink, and_self, if_true,
      Option.map_some, Option.getD_some]
    exact hrest
  · intro producer' consumer' apart
    rw [follows.wired.link?_setLink named, if_neg]
    exact fun same => apart ⟨List.mem_singleton.mpr same.1, same.2⟩

/-- A walk along links without live values examines them all and discards what is stale in them. The
induction is on the list of entries, no two of which are for the same link.
-/
theorem Follows.drawAlong_dry (follows : fabric.Follows config history) {wires : List Wire}
    (named : ∀ wire ∈ wires, fabric.name? wire.position consumer = some wire.link)
    (once : (wires.map Wire.position).Nodup)
    (dry : ∀ producer ∈ wires.map Wire.position, fabric.live producer consumer = [])
    : (Fabric.drawAlong wires fabric).1
          = ⟨none, sourced (fabric.stale · consumer) (wires.map Wire.position)⟩
      ∧ Examined consumer (wires.map Wire.position) fabric (Fabric.drawAlong wires fabric).2 := by
  induction wires generalizing fabric history with
  | nil => exact ⟨rfl, .none fabric consumer⟩
  | cons wire rest ih =>
      have hname := named wire List.mem_cons_self
      have hdry : ∀ producer ∈ [wire.position], fabric.live producer consumer = [] :=
        fun producer member => List.mem_singleton.mp member ▸ dry _ List.mem_cons_self
      obtain ⟨hapart, honce⟩ := List.nodup_cons.mp once
      obtain ⟨hdraw, hfirst⟩ := follows.draw_eq hname
      obtain ⟨hsame, hf⟩ := follows.draw hname
      rw [hdry wire.position List.mem_cons_self, List.head?_nil, Option.map_none] at hdraw
      obtain ⟨hrest, hlater⟩ := ih hf
        (fun other member =>
          (hsame.name? _ _).trans (named other (List.mem_cons_of_mem _ member)))
        honce
        (fun producer member =>
          (hfirst.live_eq hdry producer).trans (dry producer (List.mem_cons_of_mem _ member)))
      have hlater' : ∀ producer ∈ rest.map Wire.position, producer ∉ [wire.position] :=
        fun producer member same => hapart (List.mem_singleton.mp same ▸ member)
      have hstale := hfirst.stale_apart hlater'
      rw [drawAlong_cons_of_none (Prod.ext hdraw rfl), hrest, hstale, ← sourced_append]
      exact ⟨rfl, hfirst.trans hdry hlater⟩

/-- A walk stops at the first link with a live value and takes that value. -/
theorem Follows.drawAlong_served (follows : fabric.Follows config history)
    {front back : List Wire} {wire : Wire} {value : α} {rest : List α}
    (named
      : ∀ other ∈ front ++ wire :: back,
          fabric.name? other.position consumer = some other.link)
    (once : (front.map Wire.position).Nodup)
    (dry : ∀ producer ∈ front.map Wire.position, fabric.live producer consumer = [])
    (found : fabric.live wire.position consumer = value :: rest)
    : (Fabric.drawAlong (front ++ wire :: back) fabric).1
          = ⟨some ⟨wire.position, value⟩,
              sourced (fabric.stale · consumer)
                (front.map Wire.position ++ [wire.position])⟩
      ∧ Examined consumer (front.map Wire.position ++ [wire.position]) fabric
          (Fabric.drawAlong (front ++ wire :: back) fabric).2 := by
  have hnamed : ∀ other ∈ front, fabric.name? other.position consumer = some other.link :=
    fun other member => named other (List.mem_append_left _ member)
  obtain ⟨hdraws, hfront⟩ := follows.drawAlong_dry hnamed once dry
  obtain ⟨hsame, hf⟩ := follows.drawAlong consumer front hnamed
  rcases hresult : Fabric.drawAlong front fabric with ⟨intake, next⟩
  simp only [hresult] at hdraws hfront hsame hf
  subst hdraws
  obtain ⟨hdraw, hlast⟩ := hf.draw_eq
    ((hsame.name? _ _).trans (named wire (List.mem_append_right _ List.mem_cons_self)))
  -- The links in front have no live value, so this is none of them.
  have hapart : wire.position ∉ front.map Wire.position := by
    intro member
    cases (dry _ member).symm.trans found
  have hlast' : ∀ producer ∈ [wire.position], producer ∉ front.map Wire.position :=
    fun producer member => List.mem_singleton.mp member ▸ hapart
  have hstale := hfront.stale_apart hlast'
  rw [hfront.live_eq dry, found, hstale, List.head?_cons, Option.map_some] at hdraw
  rw [drawAlong_append, hresult]
  dsimp only
  rw [drawAlong_cons_of_some (Prod.ext hdraw rfl), sourced_append]
  exact ⟨rfl, hfront.trans dry hlast⟩

end Examined

end Fabric

-----------------------------------------------------------------------------------------
-- The order in which a pop examines links
-----------------------------------------------------------------------------------------

namespace Receiver

/-- The producer that a running streak is with, as long as it may serve another pop. -/
def favoured (receiver : Receiver) : List Nat :=
  if 0 < receiver.streak ∧ receiver.streak < maxStickyReads then [receiver.cursor - 1] else []

/-- All producers, from the cursor on and then from the first one up to the cursor. -/
def round (receiver : Receiver) (producers : Nat) : List Nat :=
  List.range' receiver.cursor (producers - receiver.cursor) ++ List.range' 0 receiver.cursor

/-- The producers in the order in which a pop examines their links. -/
def turns (receiver : Receiver) (producers : Nat) : List Nat :=
  receiver.favoured ++ receiver.round producers

variable {receiver : Receiver} {producers : Nat}

theorem Poised.mem_round (poised : receiver.Poised producers) {producer : Nat}
    : producer ∈ receiver.round producers ↔ producer < producers := by
  have hcursor := poised.cursor_le
  simp only [round, List.mem_append, List.mem_range'_1]
  omega

theorem Poised.nodup_round (poised : receiver.Poised producers)
    : (receiver.round producers).Nodup := by
  have hcursor := poised.cursor_le
  refine List.nodup_append.mpr ⟨List.nodup_range', List.nodup_range', ?_⟩
  intro later hlater earlier hearlier
  rw [List.mem_range'_1] at hlater hearlier
  omega

theorem favoured_cases (receiver : Receiver)
    : receiver.favoured = []
      ∨ (0 < receiver.streak ∧ receiver.streak < maxStickyReads)
        ∧ receiver.favoured = [receiver.cursor - 1] := by
  by_cases sticky : 0 < receiver.streak ∧ receiver.streak < maxStickyReads
  · exact .inr ⟨sticky, if_pos sticky⟩
  · exact .inl (if_neg sticky)

theorem Poised.favoured_lt (poised : receiver.Poised producers) {producer : Nat}
    (favoured : producer ∈ receiver.favoured)
    : producer < producers := by
  rcases receiver.favoured_cases with hnone | ⟨sticky, hsame⟩
  · simp [hnone] at favoured
  · rw [hsame, List.mem_singleton] at favoured
    have hpos := poised.cursor_pos sticky.1
    have hcursor := poised.cursor_le
    omega

/-- A receiver whose streak has run dry stands where it stood. -/
theorem Poised.streak_over (poised : receiver.Poised producers)
    : ({ receiver with streak := 0 } : Receiver).Poised producers :=
  ⟨poised.cursor_le, fun streak => absurd streak (Nat.lt_irrefl 0)⟩

/-- A round comes to the producer of a running streak at its very end, so whoever is met before it
is another one.
-/
theorem Poised.apart_of_round (poised : receiver.Poised producers) {front back : List Nat}
    {producer : Nat} (split : receiver.round producers = front ++ producer :: back)
    (other : producer ∉ receiver.favoured)
    : ∀ earlier ∈ front ++ [producer], earlier ∉ receiver.favoured := by
  rcases receiver.favoured_cases with hnone | ⟨sticky, hfavoured⟩
  · simp [hnone]
  · have hpos := poised.cursor_pos sticky.1
    obtain ⟨init, hround⟩ : ∃ init,
        receiver.round producers = init ++ [receiver.cursor - 1] := by
      have hlast : List.range' 0 receiver.cursor
          = List.range' 0 (receiver.cursor - 1) ++ [receiver.cursor - 1] := by
        obtain ⟨before, hbefore⟩ := Nat.exists_eq_succ_of_ne_zero (Nat.ne_of_gt hpos)
        rw [hbefore, Nat.succ_sub_one, List.range'_1_concat, Nat.zero_add]
      exact ⟨_, by rw [round, hlast, ← List.append_assoc]⟩
    have honce := poised.nodup_round
    rw [hround] at split honce
    rw [hfavoured] at other ⊢
    intro earlier member favoured
    obtain rfl := List.mem_singleton.mp favoured
    rcases split_concat split with ⟨_, here, _⟩ | ⟨more, _, rfl⟩
    · exact other (List.mem_singleton.mpr here)
    · have hinit : receiver.cursor - 1 ∈ front ++ producer :: more := by
        rw [List.mem_append, List.mem_singleton] at member
        rw [List.mem_append, List.mem_cons]
        exact member.imp_right .inl
      exact (List.nodup_append.mp honce).2.2 _ hinit _ List.mem_cons_self rfl

end Receiver

namespace Fabric

-----------------------------------------------------------------------------------------
-- One turn of the arbiter on a fabric
-----------------------------------------------------------------------------------------

/-- A pop or a scan examined some links in turn, took a value or none, and left the receiver with a
cursor and a streak.
-/
structure Turn (fabric : Fabric α) (receiver : Receiver) (examined : List Nat)
    (taken : Option (Sourced α)) (cursor streak : Nat)
    (result : Intake α × Receiver × Fabric α) : Prop where
  intake : result.1 = ⟨taken, sourced (fabric.stale · receiver.slot) examined⟩
  moved : result.2.1 = { receiver with cursor := cursor, streak := streak }
  examines : Examined receiver.slot examined fabric result.2.2

variable {config : Config} {fabric : Fabric α} {history : List (Passage α)}
  {receiver : Receiver}

/-- A sweep of a consumer's row meets the producers of a round. -/
theorem Wired.positions_sweep (wired : fabric.Wired)
    (within : receiver.slot < fabric.consumerCount)
    (cursor_le : receiver.cursor ≤ fabric.producerCount)
    : ((fabric.consumerRow receiver.slot).sweep receiver.cursor).map Wire.position
        = receiver.round fabric.producerCount := by
  apply Row.positions_sweep cursor_le
  · rw [wired.consumer_width _ within]
    exact wired.producers_le
  · intro producer
    rw [wired.shared]
    exact (wired.grid.wired_iff producer receiver.slot).trans (and_iff_left within)

/-- The entry of a running streak is that of the favoured producer. -/
theorem Wired.positions_stickyWire (wired : fabric.Wired)
    (poised : receiver.Poised fabric.producerCount)
    (within : receiver.slot < fabric.consumerCount)
    : (fabric.stickyWire receiver).map Wire.position = receiver.favoured := by
  by_cases sticky : 0 < receiver.streak ∧ receiver.streak < maxStickyReads
  · obtain ⟨_, _, hwire⟩ := wired.stickyWire_of_streak poised within sticky
    rw [hwire, Receiver.favoured, if_pos sticky]
    rfl
  · rw [stickyWire, Receiver.favoured, if_neg sticky, if_neg sticky]
    rfl

/-- Every link of a consumer holds nothing, so that all its capacity is free for the producer. -/
def Vacant (fabric : Fabric α) (consumer : Nat) : Prop :=
  ∀ producer < fabric.producerCount,
    ∃ link,
      fabric.link? producer consumer = some link
      ∧ link.toList = []
      ∧ link.ring.size = 0
      ∧ link.ring.capacity = fabric.config.channelCapacity

/-- Where nothing is held for a consumer, its links are vacant. -/
theorem Follows.vacant (follows : fabric.Follows config history) (uniform : fabric.Uniform)
    {consumer : Nat} (within : consumer < fabric.consumerCount)
    (empty : ∀ producer < fabric.producerCount, fabric.held producer consumer = [])
    : fabric.Vacant consumer := by
  intro producer lt
  obtain ⟨link, found⟩ :=
    Option.isSome_iff_exists.mp ((follows.wired.link?_isSome producer consumer).mpr ⟨lt, within⟩)
  have hempty : link.toList = [] := by
    have hheld := empty producer lt
    rwa [held, found] at hheld
  refine ⟨link, found, hempty, ?_, uniform.link? found⟩
  rw [← Ring.length_toList (follows.sound found)]
  exact congrArg List.length hempty

section Turn

variable (follows : fabric.Follows config history)
  (poised : receiver.Poised fabric.producerCount)
  (within : receiver.slot < fabric.consumerCount)

include follows poised within

/-- A scan that finds no live value examines all links of its consumer. -/
theorem Follows.scan_dry
    (dry
      : ∀ producer ∈ receiver.round fabric.producerCount,
          fabric.live producer receiver.slot = [])
    : fabric.Turn receiver (receiver.round fabric.producerCount) none receiver.cursor 0
        (fabric.scan receiver) := by
  have hpositions := follows.wired.positions_sweep within poised.cursor_le
  rw [← hpositions] at dry ⊢
  obtain ⟨hdraws, hexamined⟩ := follows.drawAlong_dry
    (fun wire member => (follows.wired.shared _ _).symm.trans (Row.link?_of_mem_sweep member))
    (hpositions ▸ poised.nodup_round) dry
  rw [Fabric.scan, drawSweep_eq]
  rcases hresult : Fabric.drawAlong ((fabric.consumerRow receiver.slot).sweep receiver.cursor)
    fabric with ⟨intake, next⟩
  simp only [hresult] at hdraws hexamined
  subst hdraws
  exact ⟨rfl, rfl, hexamined⟩

/-- A scan is served by the first producer of its round with a live value. -/
theorem Follows.scan_served {front back : List Nat} {producer : Nat} {value : α} {rest : List α}
    (split : receiver.round fabric.producerCount = front ++ producer :: back)
    (dry : ∀ other ∈ front, fabric.live other receiver.slot = [])
    (found : fabric.live producer receiver.slot = value :: rest)
    : fabric.Turn receiver (front ++ [producer]) (some ⟨producer, value⟩) (producer + 1) 1
        (fabric.scan receiver) := by
  have honce := poised.nodup_round
  have hpositions := follows.wired.positions_sweep within poised.cursor_le
  rw [split] at hpositions honce
  obtain ⟨before, tail, hsweep, rfl, htail⟩ := List.map_eq_append_iff.mp hpositions
  obtain ⟨wire, after, rfl, rfl, _⟩ := List.map_eq_cons_iff.mp htail
  obtain ⟨hdraws, hexamined⟩ := follows.drawAlong_served
    (fun other member => (follows.wired.shared _ _).symm.trans
      (Row.link?_of_mem_sweep (hsweep ▸ member)))
    (List.nodup_append.mp honce).1 dry found
  rw [Fabric.scan, drawSweep_eq, hsweep]
  rcases hresult : Fabric.drawAlong (before ++ wire :: after) fabric with ⟨intake, next⟩
  simp only [hresult] at hdraws hexamined
  subst hdraws
  exact ⟨rfl, rfl, hexamined⟩

/-- A pop without a running streak, or with one that has run dry, goes on with a scan of what the
attempt has left.
-/
theorem Follows.pop_dry_streak
    (dry : ∀ producer ∈ receiver.favoured, fabric.live producer receiver.slot = [])
    : ∃ next more,
        Examined receiver.slot receiver.favoured fabric next
        ∧ next.Follows config (history ++ more)
        ∧ ∀ {examined taken cursor streak},
            next.Turn { receiver with streak := 0 } examined taken cursor streak
                (next.scan { receiver with streak := 0 })
            → fabric.Turn receiver
                (receiver.favoured ++ examined.filter (· ∉ receiver.favoured))
                taken cursor streak (fabric.pop receiver) := by
  have hpositions := follows.wired.positions_stickyWire poised within
  have hlinks : ∀ wire ∈ fabric.stickyWire receiver,
      (fabric.consumerRow receiver.slot).link? wire.position = some wire.link :=
    fun _ member => link?_of_mem_stickyWire member
  have honce : receiver.favoured.Nodup := by
    rcases receiver.favoured_cases with hnone | ⟨_, hfavoured⟩
    · simp [hnone]
    · simp [hfavoured]
  obtain ⟨hdraws, hfirst⟩ := follows.drawAlong_dry
    (fun wire member => (follows.wired.shared _ _).symm.trans (hlinks wire member))
    (hpositions.symm ▸ honce) (hpositions.symm ▸ dry)
  obtain ⟨_, hf⟩ := follows.drawRow receiver.slot _ hlinks
  rw [hpositions] at hdraws hfirst
  refine ⟨_, _, hfirst, hf, ?_⟩
  intro examined taken cursor streak turn
  rcases hresult : Fabric.drawAlong (fabric.stickyWire receiver) fabric with ⟨intake, next⟩
  simp only [hresult] at hdraws hfirst turn
  subst hdraws
  have hstale := hfirst.stale_after dry examined
  have htaken := congrArg Intake.taken turn.intake
  have hdiscarded := congrArg Intake.discarded turn.intake
  simp only at htaken hdiscarded
  simp only [Fabric.pop, hresult]
  refine ⟨?_, turn.moved, (hfirst.trans dry turn.examines).congr ?_⟩
  · rw [htaken, hdiscarded, hstale, sourced_append]
  · intro producer
    simp only [List.mem_append, List.mem_filter, decide_eq_true_eq]
    tauto

/-- Where the attempt at a running streak finds no live value, a pop is served by the first producer
of the round with one, and begins a new streak.
-/
theorem Follows.pop_served_by_scan {front back : List Nat} {producer : Nat} {value : α}
    {rest : List α} (split : receiver.round fabric.producerCount = front ++ producer :: back)
    (dry : ∀ other ∈ receiver.favoured ++ front, fabric.live other receiver.slot = [])
    (found : fabric.live producer receiver.slot = value :: rest)
    : fabric.Turn receiver (receiver.favoured ++ front ++ [producer]) (some ⟨producer, value⟩)
        (producer + 1) 1 (fabric.pop receiver) := by
  have hdry : ∀ other ∈ receiver.favoured, fabric.live other receiver.slot = [] :=
    fun other member => dry other (List.mem_append_left _ member)
  obtain ⟨next, _, hfirst, hf, hturn⟩ := follows.pop_dry_streak poised within hdry
  have hsame := hfirst.only.sameWiring
  have hpoised : ({ receiver with streak := 0 } : Receiver).Poised next.producerCount :=
    hsame.producers.symm ▸ poised.streak_over
  have hround : ({ receiver with streak := 0 } : Receiver).round next.producerCount
      = front ++ producer :: back := by
    rw [hsame.producers]
    exact split
  have hscan := hf.scan_served hpoised
    (Nat.lt_of_lt_of_eq within (congrArg Array.size hsame.consumers).symm) hround
    (fun other member =>
      (hfirst.live_eq hdry other).trans (dry other (List.mem_append_right _ member)))
    ((hfirst.live_eq hdry producer).trans found)
  -- The favoured producer comes last in the round, so the scan does not meet it again.
  have hother : producer ∉ receiver.favoured := by
    intro member
    cases (hdry producer member).symm.trans found
  have hapart := poised.apart_of_round split hother
  have hserved := hturn hscan
  rw [List.filter_eq_self.mpr (by simpa using hapart), ← List.append_assoc] at hserved
  exact hserved

/-- A running streak goes on if its producer has a live value. -/
theorem Follows.pop_served_by_streak {producer : Nat} {value : α} {rest : List α}
    (favoured : receiver.favoured = [producer])
    (found : fabric.live producer receiver.slot = value :: rest)
    : fabric.Turn receiver [producer] (some ⟨producer, value⟩) (producer + 1)
        (receiver.streak + 1) (fabric.pop receiver) := by
  rcases receiver.favoured_cases with hnone | ⟨sticky, hsame⟩
  · cases hnone.symm.trans favoured
  obtain rfl := List.head_eq_of_cons_eq (hsame.symm.trans favoured)
  have hpos := poised.cursor_pos sticky.1
  obtain ⟨name, named, hwire⟩ := follows.wired.stickyWire_of_streak poised within sticky
  have hnamed : ∀ other ∈ [] ++ (⟨receiver.cursor - 1, name⟩ : Wire) :: [],
      fabric.name? other.position receiver.slot = some other.link :=
    fun other member => List.mem_singleton.mp member ▸ named
  obtain ⟨hdraws, hexamined⟩ := follows.drawAlong_served hnamed List.nodup_nil
    (fun _ member => absurd member List.not_mem_nil) found
  simp only [List.nil_append, List.map_nil] at hdraws hexamined
  simp only [Fabric.pop, hwire]
  rcases hresult : Fabric.drawAlong [⟨receiver.cursor - 1, name⟩] fabric with ⟨intake, next⟩
  simp only [hresult] at hdraws hexamined
  subst hdraws
  refine ⟨rfl, ?_, hexamined⟩
  rw [Nat.sub_add_cancel hpos]

/-- A pop is served by the first producer in turn with a live value. It goes on with a running
streak if that is the first producer asked, and begins a new one otherwise.
-/
theorem Follows.pop_served {front back : List Nat} {producer : Nat} {value : α} {rest : List α}
    (split : receiver.turns fabric.producerCount = front ++ producer :: back)
    (dry : ∀ other ∈ front, fabric.live other receiver.slot = [])
    (found : fabric.live producer receiver.slot = value :: rest)
    : fabric.Turn receiver (front ++ [producer]) (some ⟨producer, value⟩) (producer + 1)
        (if front = [] ∧ receiver.favoured ≠ [] then receiver.streak + 1 else 1)
        (fabric.pop receiver) := by
  have hscan {front' : List Nat} (hfront : front = receiver.favoured ++ front')
      (split' : receiver.round fabric.producerCount = front' ++ producer :: back)
      : fabric.Turn receiver (front ++ [producer]) (some ⟨producer, value⟩) (producer + 1)
          (if front = [] ∧ receiver.favoured ≠ [] then receiver.streak + 1 else 1)
          (fabric.pop receiver) := by
    subst hfront
    rw [if_neg fun first => first.2 (List.append_eq_nil_iff.mp first.1).1]
    exact follows.pop_served_by_scan poised within split' dry found
  rcases List.append_eq_append_iff.mp split
    with ⟨front', hfront, split'⟩ | ⟨favoured', hfavoured, htail⟩
  · exact hscan hfront split'
  · cases favoured' with
    | nil =>
        have hfront : front = receiver.favoured ++ [] := by simpa using hfavoured.symm
        exact hscan hfront htail.symm
    | cons first others =>
        -- There is one favoured producer at most.
        obtain ⟨rfl, rfl⟩ := List.cons.inj htail
        rcases receiver.favoured_cases with hnone | ⟨_, hsame⟩
        · simp [hnone] at hfavoured
        · have hone := hfavoured.symm.trans hsame
          obtain ⟨rfl, hone⟩ : front = [] ∧ producer :: others = [receiver.cursor - 1] := by
            cases front with
            | nil => exact ⟨rfl, hone⟩
            | cons => simp at hone
          obtain ⟨rfl, rfl⟩ := List.cons.inj hone
          rw [if_pos ⟨rfl, by simp [hsame]⟩]
          exact follows.pop_served_by_streak poised within hsame found

/-- A pop that finds no live value examines every link of its consumer, each once, and ends the
streak.
-/
theorem Follows.pop_dry
    (dry : ∀ producer < fabric.producerCount, fabric.live producer receiver.slot = [])
    : fabric.Turn receiver
        (receiver.favoured
          ++ (receiver.round fabric.producerCount).filter (· ∉ receiver.favoured))
        none receiver.cursor 0 (fabric.pop receiver) := by
  have hround : ∀ producer ∈ receiver.round fabric.producerCount,
      fabric.live producer receiver.slot = [] :=
    fun producer member => dry producer (poised.mem_round.mp member)
  have hdry : ∀ producer ∈ receiver.favoured, fabric.live producer receiver.slot = [] :=
    fun producer member => dry producer (poised.favoured_lt member)
  obtain ⟨next, _, hfirst, hf, hturn⟩ := follows.pop_dry_streak poised within hdry
  have hsame := hfirst.only.sameWiring
  have hpoised : ({ receiver with streak := 0 } : Receiver).Poised next.producerCount :=
    hsame.producers.symm ▸ poised.streak_over
  have hscan := hf.scan_dry hpoised
    (Nat.lt_of_lt_of_eq within (congrArg Array.size hsame.consumers).symm) fun producer member =>
      (hfirst.live_eq hdry producer).trans (hround producer (hsame.producers ▸ member))
  rw [hsame.producers] at hscan
  exact hturn hscan

/-- A pop that finds no live value leaves all links of its consumer vacant. -/
theorem Follows.vacant_pop_dry (uniform : fabric.Uniform)
    (dry : ∀ producer < fabric.producerCount, fabric.live producer receiver.slot = [])
    : (fabric.pop receiver).2.2.Vacant receiver.slot := by
  have hturn := follows.pop_dry poised within dry
  obtain ⟨hsame, hnext⟩ := follows.pop receiver
  refine hnext.vacant (uniform.pop receiver)
    (Nat.lt_of_lt_of_eq within (congrArg Array.size hsame.consumers).symm) ?_
  intro producer lt
  rw [hsame.producers] at lt
  have hround := poised.mem_round.mpr lt
  have hexamined : producer ∈ receiver.favoured
      ++ (receiver.round fabric.producerCount).filter (· ∉ receiver.favoured) := by
    simp only [List.mem_append, List.mem_filter, decide_eq_true_eq]
    tauto
  rw [hturn.examines.left producer hexamined, dry producer lt, List.tail_nil]

end Turn

end Fabric

namespace Session

-----------------------------------------------------------------------------------------
-- One turn of the arbiter in a session
-----------------------------------------------------------------------------------------

/-- A pop through the receiver at `place` examined the links of its consumer with some producers. It
answered with what it took and discarded all stale values of these links, link by link and oldest
first. It left each of them with what is behind its first live value, and everything else as it was,
apart from the receiver's cursor and streak.
-/
structure Arbitrated (stale live : Nat → List α) (place : Nat) (receiver : Receiver)
    (before : Session α) (fabric next : Fabric α) (outcome : Outcome α) (examined : List Nat)
    (taken : Option (Sourced α)) (cursor streak : Nat) : Prop where
  reply : outcome.reply = .popped ⟨taken, sourced stale examined⟩
  discarded : outcome.discarded = sourced stale examined
  log : outcome.log = []
  moved
    : outcome.session.receivers[place]?
        = some ⟨{ receiver with cursor := cursor, streak := streak }, true⟩
  left : ∀ producer ∈ examined, next.held producer receiver.slot = (live producer).tail
  links
    : ∀ producer consumer,
        ¬(producer ∈ examined ∧ consumer = receiver.slot)
        → next.link? producer consumer = fabric.link? producer consumer
  only : Fabric.OnlyLinks fabric next
  fabrics
    : ∀ number,
        number ≠ receiver.fabric → outcome.session.fabric? number = before.fabric? number
  senders : outcome.session.senders = before.senders
  receivers
    : ∀ other, other ≠ place → outcome.session.receivers[other]? = before.receivers[other]?

variable {session : Session α} {place : Nat} {receiver : Receiver} {fabric : Fabric α}

/-- A turn on the fabric of a receiver is one in the session, which changes nothing else. -/
theorem arbitrated_of_turn (held : session.receiver? place = some receiver)
    (found : session.fabric? receiver.fabric = some fabric) (now : Nat)
    {examined : List Nat} {taken : Option (Sourced α)} {cursor streak : Nat}
    (turn : fabric.Turn receiver examined taken cursor streak (fabric.pop receiver))
    {stale live : Nat → List α}
    (contents
      : ∀ producer,
          fabric.stale producer receiver.slot = stale producer
          ∧ fabric.live producer receiver.slot = live producer)
    : session.Arbitrated stale live place receiver fabric (fabric.pop receiver).2.2
        (session.step now (.pop place)) examined taken cursor streak := by
  have hkept := congrArg Seat.fabric (pop_seat ⟨fabric, receiver, #[]⟩)
  have hintake : (fabric.pop receiver).1 = ⟨taken, sourced stale examined⟩ :=
    turn.intake.trans
      (congrArg (Intake.mk taken) (sourced_congr fun producer _ => (contents producer).1))
  have hstep : session.step now (.pop place)
      = { reply := .popped (fabric.pop receiver).1
          discarded := (Reading.pop ⟨fabric, receiver, #[]⟩).2.discarded.toList
          log := []
          session := session.keepReading place (Reading.pop ⟨fabric, receiver, #[]⟩).2 } :=
    withReading_of_held held found hkept .popped
  rw [hstep]
  exact {
    reply := congrArg Reply.popped hintake
    discarded := by simp [Reading.pop, hintake]
    log := rfl
    moved := by
      obtain ⟨within, _⟩ := Array.getElem?_eq_some_iff.mp (receivers_of_held held)
      rw [← turn.moved]
      exact Array.getElem?_setIfInBounds_self_of_lt within
    left := fun producer member =>
      (turn.examines.left producer member).trans (congrArg List.tail (contents producer).2)
    links := turn.examines.spared
    only := turn.examines.only
    fabrics := fun number other =>
      (fabric?_keepReading session place hkept number).trans
        ((fabric?_setFabric found _ _).trans (if_neg (Ne.symm other)))
    senders := rfl
    receivers := fun other apart => Array.getElem?_setIfInBounds_ne (Ne.symm apart)
  }

/-- Some producer in turn is the first with a live value, unless there is none. -/
theorem first_live_or_dry (live : Nat → List α) (turns : List Nat)
    : (∀ producer ∈ turns, live producer = [])
      ∨ ∃ front producer back value rest,
          turns = front ++ producer :: back
          ∧ (∀ other ∈ front, live other = [])
          ∧ live producer = value :: rest := by
  induction turns with
  | nil => exact .inl fun _ member => absurd member List.not_mem_nil
  | cons first others ih =>
      cases hfirst : live first with
      | cons value rest =>
          exact .inr ⟨[], first, others, value, rest, rfl,
            fun _ member => absurd member List.not_mem_nil, hfirst⟩
      | nil =>
          rcases ih with hdry | ⟨front, producer, back, value, rest, rfl, hdry, found⟩
          · exact .inl (List.forall_mem_cons.mpr ⟨hfirst, hdry⟩)
          · exact .inr ⟨first :: front, producer, back, value, rest, rfl,
              List.forall_mem_cons.mpr ⟨hfirst, hdry⟩, found⟩

/-- The fabric of a receiver that is held, and how the receiver stands on it. -/
theorem receiver_stands (shape : Shape) (configs : List Config) (now : Nat)
    (operations : List (Operation α)) {config : Config}
    (held : ((start shape configs).after now operations).receiver? place = some receiver)
    (configured : configs[receiver.fabric]? = some config)
    : ∃ fabric,
        ((start shape configs).after now operations).fabric? receiver.fabric = some fabric
        ∧ receiver.slot < fabric.consumerCount
        ∧ receiver.Poised fabric.producerCount
        ∧ fabric.Follows config (history now receiver.fabric operations (start shape configs))
        ∧ fabric.Uniform := by
  have hhoused : (start shape configs : Session α).Housed shape configs := housed_start ..
  have hposted := (posted_start shape configs).after hhoused now operations
  have hplace := receivers_of_held held
  have hseat : ((start shape configs).after now operations).seat? place = some receiver.seat :=
    Option.map_eq_some_iff.mpr ⟨_, hplace, rfl⟩
  obtain ⟨fabric, found, within⟩ := (hhoused.after now operations).receiver hseat
  obtain ⟨_, configured', hf⟩ := (follows_after_start shape configs now operations).fabric found
  obtain rfl := Option.some.inj (configured.symm.trans configured')
  exact ⟨fabric, found, within, hposted.poised hplace found, hf,
    (uniform_start shape configs).after now operations _ fabric found⟩

/-- Pop is a sticky round-robin arbiter. In every reachable state, and for every receiver of which
no link has had 2^63 values popped since it was last retired: a pop returns the oldest live value of
the first link in turn that has one, and it discards the stale values of the links that it examined
on the way and those in front of the value, and nothing else. The cursor comes to stand behind the
producer served, and the streak grows if that is the one it was with and begins anew otherwise. A
pop returns none exactly if no link of the consumer holds a live value; then it leaves them all
empty, the cursor where it is and the streak at zero.
-/
theorem pop_arbitrates (shape : Shape) (configs : List Config) (now : Nat)
    (operations : List (Operation α)) {place : Nat} {receiver : Receiver} {config : Config}
    (held : ((start shape configs).after now operations).receiver? place = some receiver)
    (configured : configs[receiver.fabric]? = some config)
    (few
      : ∀ producer,
          poppedSince config.drainOnReclaim
              (onLink producer receiver.slot
                (history now receiver.fabric operations (start shape configs)))
            < 0x8000000000000000)
    : let reached := (start shape configs).after now operations
      let outcome := reached.step now (.pop place)
      let column (producer : Nat) :=
        onLink producer receiver.slot
          (history now receiver.fabric operations (start shape configs))
      let stale (producer : Nat) := staleHeld config.drainOnReclaim (column producer)
      let live (producer : Nat) := liveHeld config.drainOnReclaim (column producer)
      ∃ fabric next,
        reached.fabric? receiver.fabric = some fabric
        ∧ outcome.session.fabric? receiver.fabric = some next
        ∧ (let producers := (fabric.consumerRow receiver.slot).wired
          (∀ front producer back value rest,
            receiver.turns producers = front ++ producer :: back
            → (∀ other ∈ front, live other = [])
            → live producer = value :: rest
            → reached.Arbitrated stale live place receiver fabric next outcome
                (front ++ [producer]) (some ⟨producer, value⟩) (producer + 1)
                (if front = [] ∧ receiver.favoured ≠ [] then receiver.streak + 1 else 1))
          ∧ ((∃ discarded, outcome.reply = .popped ⟨none, discarded⟩)
            ↔ ∀ producer < producers, live producer = [])
          ∧ ((∀ producer < producers, live producer = [])
            → reached.Arbitrated stale live place receiver fabric next outcome
                (receiver.favoured
                  ++ (receiver.round producers).filter (· ∉ receiver.favoured))
                none receiver.cursor 0
              ∧ next.Vacant receiver.slot)) := by
  intro reached outcome column stale live
  obtain ⟨fabric, found, within, hpoised, hf, huniform⟩ :=
    receiver_stands shape configs now operations held configured
  have hcontents := fun producer => hf.contents_of_few producer receiver.slot (few producer)
  have hserved {front producer back value rest}
      (split : receiver.turns fabric.producerCount = front ++ producer :: back)
      (dry : ∀ other ∈ front, live other = []) (first : live producer = value :: rest) :=
    arbitrated_of_turn held found now
      (hf.pop_served hpoised within split
        (fun other member => (hcontents other).2.trans (dry other member))
        ((hcontents producer).2.trans first))
      hcontents
  have hlive (dry : ∀ producer < fabric.producerCount, live producer = [])
      : ∀ producer < fabric.producerCount, fabric.live producer receiver.slot = [] :=
    fun producer lt => (hcontents producer).2.trans (dry producer lt)
  have hdry (dry : ∀ producer < fabric.producerCount, live producer = []) :=
    arbitrated_of_turn held found now (hf.pop_dry hpoised within (hlive dry)) hcontents
  refine ⟨fabric, (fabric.pop receiver).2.2, found, (step_pop held found now).2.1, ?_⟩
  rw [hf.wired.consumer_wired within]
  refine ⟨fun _ _ _ _ _ => hserved, ⟨?_, ?_⟩, fun dry => ⟨hdry dry, ?_⟩⟩
  · rintro ⟨discarded, hnone⟩
    rcases first_live_or_dry live (receiver.turns fabric.producerCount)
      with hall | ⟨front, producer, back, value, rest, split, dry, first⟩
    · intro producer lt
      exact hall producer (List.mem_append_right _ (hpoised.mem_round.mpr lt))
    · cases hnone.symm.trans (hserved split dry first).reply
  · intro dry
    exact ⟨_, (hdry dry).reply⟩
  · exact hf.vacant_pop_dry hpoised within huniform (hlive dry)

/-- No more values have been popped from a link than have passed in the whole fabric. -/
theorem poppedSince_le_history (drain : Bool) (producer consumer : Nat)
    (history : List (Passage α))
    : poppedSince drain (onLink producer consumer history) ≤ history.length := by
  have hmotions : (onLink producer consumer history).length ≤ history.length :=
    List.length_filterMap_le _ _
  rw [poppedSince]
  split
  · exact Nat.le_trans (drawnSince_le_length _) hmotions
  · exact Nat.le_trans (List.length_filterMap_le _ _) hmotions

/-- Three producers write to one consumer, and the second and the third one are replaced, with
values on their way. The consumer has popped once, served by the first one.
-/
def contest : List (Operation Nat) :=
  [.registerConsumer 0, .registerProducer 0, .registerProducer 0, .registerProducer 0, .push 0 10,
    .push 1 20, .push 1 21, .push 2 30, .unregister 1, .registerProducer 0, .push 3 22,
    .unregister 2, .registerProducer 0, .pop 0]

/-- The consumer pops once more. -/
def rematch : List (Operation Nat) := contest ++ [.pop 0]

/-- The next pop asks the first producer once more, in vain, and is served by the second one, behind
two stale values; the link from the third one is not examined. The pop after that finds no live
value anywhere and discards the stale one of the third producer.
-/
theorem pop_arbitrates_contest
    : let begun := start ⟨3, 1⟩ [⟨4, true⟩]
      let reached := begun.after 0 contest
      let later := begun.after 0 rematch
      reached.receiver? 0 = some ⟨0, 0, 1, 1⟩
        ∧ later.receiver? 0 = some ⟨0, 0, 2, 1⟩
        ∧ (∀ producer,
          poppedSince true (onLink producer 0 (history 0 0 contest begun))
            < 0x8000000000000000)
        ∧ (∀ producer,
          poppedSince true (onLink producer 0 (history 0 0 rematch begun))
            < 0x8000000000000000)
        ∧ (reached.step 0 (.pop 0)).reply = .popped ⟨some ⟨1, 22⟩, [⟨1, 20⟩, ⟨1, 21⟩]⟩
        ∧ (reached.step 0 (.pop 0)).session.receivers[0]? = some ⟨⟨0, 0, 2, 1⟩, true⟩
        ∧ (later.step 0 (.pop 0)).reply = .popped ⟨none, [⟨2, 30⟩]⟩
        ∧ ∃ next, (later.step 0 (.pop 0)).session.fabric? 0 = some next ∧ next.Vacant 0 := by
  intro begun reached later
  have hheld : reached.receiver? 0 = some ⟨0, 0, 1, 1⟩ := by decide +kernel
  have hheld' : later.receiver? 0 = some ⟨0, 0, 2, 1⟩ := by decide +kernel
  have hfew (producer : Nat)
      : poppedSince true (onLink producer 0 (history 0 0 contest begun)) < 0x8000000000000000 :=
    Nat.lt_of_le_of_lt (poppedSince_le_history true producer 0 _) (by decide +kernel)
  have hfew' (producer : Nat)
      : poppedSince true (onLink producer 0 (history 0 0 rematch begun)) < 0x8000000000000000 :=
    Nat.lt_of_le_of_lt (poppedSince_le_history true producer 0 _) (by decide +kernel)
  obtain ⟨fabric, _, found, _, hserved, _⟩ :=
    pop_arbitrates ⟨3, 1⟩ [⟨4, true⟩] 0 contest hheld rfl hfew
  obtain ⟨fabric', next, found', hnext, _, _, hdry⟩ :=
    pop_arbitrates ⟨3, 1⟩ [⟨4, true⟩] 0 rematch hheld' rfl hfew'
  have hwired : (reached.fabric? 0).map (fun fabric => (fabric.consumerRow 0).wired) = some 3 := by
    decide +kernel
  have hwired' : (later.fabric? 0).map (fun fabric => (fabric.consumerRow 0).wired) = some 3 := by
    decide +kernel
  obtain ⟨_, same, hwired⟩ := Option.map_eq_some_iff.mp hwired
  obtain ⟨_, same', hwired'⟩ := Option.map_eq_some_iff.mp hwired'
  obtain rfl := Option.some.inj (found.symm.trans same)
  obtain rfl := Option.some.inj (found'.symm.trans same')
  rw [hwired] at hserved
  rw [hwired'] at hdry
  have hfirst := hserved [0] 1 [2, 0] 22 [] (by decide) (by decide +kernel) (by decide +kernel)
  obtain ⟨hlast, hvacant⟩ := hdry (by decide +kernel)
  refine ⟨hheld, hheld', hfew, hfew', ?_, ?_, ?_, next, hnext, hvacant⟩
  · rw [hfirst.reply]
    rfl
  · rw [hfirst.moved]
    decide
  · rw [hlast.reply]
    rfl

end Session

end Crossbar
