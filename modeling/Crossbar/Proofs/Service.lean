import Crossbar.Proofs.FabricHistory
import Crossbar.Proofs.Frame

/-! How soon a consumer turns to a producer whose link has a live value. A pop serves that producer
or another one that comes before it in turn, and each pop of the second kind uses up some of a
budget that starts with at most `maxStickyReads` pops for each other producer.
-/

namespace Crossbar

variable {α : Type}

-----------------------------------------------------------------------------------------
-- How long a producer has to wait
-----------------------------------------------------------------------------------------

/-- How many of the producers in turn come before a given one. -/
def distance (producers cursor producer : Nat) : Nat :=
  if cursor ≤ producer then producer - cursor else producer + producers - cursor

/-- A sweep over all producers meets each one once, those before a given one being nearer to it. -/
theorem sweep_split {producers cursor producer : Nat} (cursor_le : cursor ≤ producers)
    (within : producer < producers)
    : ∃ before after,
        List.range' cursor (producers - cursor) ++ List.range' 0 cursor
            = before ++ producer :: after
        ∧ ∀ other ∈ before,
            other ≠ producer
            ∧ distance producers (other + 1) producer < distance producers cursor producer := by
  -- The producer is met on the way to the end, or after the sweep has started over.
  have hcut {first last : Nat} (le : first ≤ producer) (lt : producer < last)
      : List.range' first (last - first)
        = List.range' first (producer - first)
          ++ producer :: List.range' (producer + 1) (last - (producer + 1)) := by
    have hsum : last - first = producer - first + (last - (producer + 1) + 1) := by omega
    rw [hsum, ← List.range'_append_1, List.range'_succ, Nat.add_sub_cancel' le]
  rcases Nat.lt_or_ge producer cursor with hbefore | hafter
  · have hfront := hcut (Nat.zero_le producer) hbefore
    rw [Nat.sub_zero] at hfront
    refine ⟨_, _, by rw [hfront, ← List.append_assoc], ?_⟩
    intro other member
    simp only [List.mem_append, List.mem_range'_1] at member
    simp only [distance, if_neg (Nat.not_le.mpr hbefore)]
    split <;> omega
  · refine ⟨_, _, by rw [hcut hafter within, List.append_assoc, List.cons_append], ?_⟩
    intro other member
    simp only [List.mem_range'_1] at member
    simp only [distance, if_pos hafter]
    split <;> omega

/-- All other producers come before a given one at most, and the one right behind it is the last. -/
theorem distance_le {producers cursor producer : Nat} (cursor_le : cursor ≤ producers)
    (within : producer < producers)
    : distance producers cursor producer ≤ producers - 1
      ∧ (0 < cursor
        → cursor ≠ producer + 1
        → distance producers cursor producer + 1 ≤ producers - 1) := by
  simp only [distance]
  split <;> omega

/-- Producers that arrive may come before a given one. -/
theorem distance_grow {producers cursor more : Nat} (cursor_le : cursor ≤ producers)
    (le : producers ≤ more) (producer : Nat)
    : distance more cursor producer
        ≤ distance producers cursor producer + (more - producers) := by
  simp only [distance]
  split <;> omega

namespace Receiver

/-- A receiver's cursor stands among the producers, behind the one that a streak is with. -/
structure Poised (receiver : Receiver) (producers : Nat) : Prop where
  cursor_le : receiver.cursor ≤ producers
  cursor_pos : 0 < receiver.streak → 0 < receiver.cursor

/-- A receiver starts at the first producer. -/
theorem poised_new (fabric slot producers : Nat)
    : (⟨fabric, slot, 0, 0⟩ : Receiver).Poised producers :=
  ⟨Nat.zero_le _, fun streak => absurd streak (Nat.lt_irrefl 0)⟩

/-- How many pops may serve other producers before a given one gets its turn: what is left of a
streak with another one, and a full streak with each that comes before it.
-/
def patience (receiver : Receiver) (producers producer : Nat) : Nat :=
  if 0 < receiver.streak ∧ receiver.streak < maxStickyReads then
    if receiver.cursor = producer + 1 then 0
    else
      maxStickyReads - receiver.streak
        + maxStickyReads * distance producers receiver.cursor producer
  else
    maxStickyReads * distance producers receiver.cursor producer

variable {receiver : Receiver} {producers producer : Nat}

/-- No more pops than full streaks with all other producers. -/
theorem Poised.patience_le (poised : receiver.Poised producers) (within : producer < producers)
    : receiver.patience producers producer ≤ maxStickyReads * (producers - 1) := by
  obtain ⟨hall, hother⟩ := distance_le poised.cursor_le within
  simp only [patience]
  split
  · next sticky =>
      split
      · exact Nat.zero_le _
      · next other =>
          have hnear := hother (poised.cursor_pos sticky.1) other
          simp only [maxStickyReads]
          omega
  · exact Nat.mul_le_mul_left _ hall

/-- Each producer that arrives may come first for one full streak. -/
theorem Poised.patience_grow (poised : receiver.Poised producers) {more : Nat}
    (le : producers ≤ more) (producer : Nat)
    : receiver.patience more producer
        ≤ receiver.patience producers producer + maxStickyReads * (more - producers) := by
  have hgrow := distance_grow poised.cursor_le le producer
  simp only [patience]
  split
  · split
    · exact Nat.zero_le _
    · simp only [maxStickyReads]
      omega
  · simp only [maxStickyReads]
    omega

theorem Poised.grow (poised : receiver.Poised producers) {more : Nat} (le : producers ≤ more)
    : receiver.Poised more :=
  ⟨Nat.le_trans poised.cursor_le le, poised.cursor_pos⟩

/-- One more pop in a streak with another producer. -/
theorem patience_streak (sticky : 0 < receiver.streak ∧ receiver.streak < maxStickyReads)
    (other : receiver.cursor ≠ producer + 1)
    : ({ receiver with streak := receiver.streak + 1 } : Receiver).patience producers producer
        < receiver.patience producers producer := by
  simp only [patience, if_pos sticky, if_neg other]
  have hbound : receiver.streak < 32 := sticky.2
  split <;> simp only [maxStickyReads] <;> omega

/-- A new streak with a producer that comes before. -/
theorem patience_scan (streak : Nat) {other : Nat}
    (nearer
      : distance producers (other + 1) producer < distance producers receiver.cursor producer)
    (ne : other ≠ producer)
    (elsewhere : 0 < streak ∧ streak < maxStickyReads → receiver.cursor ≠ producer + 1)
    : ({ receiver with cursor := other + 1, streak := 1 } : Receiver).patience producers producer
        < ({ receiver with streak := streak } : Receiver).patience producers producer := by
  have hone : 0 < 1 ∧ 1 < maxStickyReads := ⟨Nat.one_pos, by decide⟩
  have hother : other + 1 ≠ producer + 1 := fun same => ne (Nat.succ.inj same)
  simp only [patience, if_pos hone, if_neg hother]
  split
  · next sticky =>
      rw [if_neg (elsewhere sticky)]
      simp only [maxStickyReads]
      omega
  · simp only [maxStickyReads]
    omega

end Receiver

-----------------------------------------------------------------------------------------
-- What a walk along a row yields
-----------------------------------------------------------------------------------------

namespace Fabric

theorem links_draw_of_ne (fabric : Fabric α) (wire : Wire) {other : Nat} (ne : wire.link ≠ other)
    : (fabric.draw wire).2.links[other]? = fabric.links[other]? := by
  simp only [draw, takeOut]
  cases fabric.links[wire.link]? with
  | none => exact Array.getElem?_setIfInBounds_ne ne
  | some link =>
      refine (Array.getElem?_setIfInBounds_ne ne).trans ?_
      exact Array.getElem?_setIfInBounds_ne ne

/-- What is drawn from an entry comes from the producer of its position. -/
theorem draw_positions (fabric : Fabric α) (wire : Wire)
    : (∀ taken ∈ (fabric.draw wire).1.taken, taken.producer = wire.position)
      ∧ ∀ stale ∈ (fabric.draw wire).1.discarded, stale.producer = wire.position := by
  simp only [draw, takeOut]
  cases fabric.links[wire.link]? with
  | none => simp
  | some link =>
      constructor
      · intro taken member
        obtain ⟨value, _, rfl⟩ := Option.map_eq_some_iff.mp member
        rfl
      · intro stale member
        obtain ⟨value, _, rfl⟩ := List.mem_map.mp member
        rfl

/-- What is drawn along a list of entries comes from producers of their positions, by induction on
the list.
-/
theorem drawAlong_positions (wires : List Wire) (fabric : Fabric α)
    : (∀ taken ∈ (drawAlong wires fabric).1.taken,
        taken.producer ∈ wires.map Wire.position)
      ∧ ∀ stale ∈ (drawAlong wires fabric).1.discarded,
          stale.producer ∈ wires.map Wire.position := by
  induction wires generalizing fabric with
  | nil => simp [drawAlong]
  | cons wire rest ih =>
      obtain ⟨htaken, hstale⟩ := fabric.draw_positions wire
      rcases hresult : fabric.draw wire with ⟨⟨_ | taken, discarded⟩, next⟩
      · obtain ⟨htaken', hstale'⟩ := ih next
        simp only [hresult] at hstale
        simp only [drawAlong, hresult, List.map_cons]
        refine ⟨fun taken member => List.mem_cons_of_mem _ (htaken' taken member), ?_⟩
        intro stale member
        rcases List.mem_append.mp member with hfirst | hrest
        · exact hstale stale hfirst ▸ List.mem_cons_self
        · exact List.mem_cons_of_mem _ (hstale' stale hrest)
      · simp only [hresult] at htaken hstale
        simp only [drawAlong, hresult, List.map_cons]
        refine ⟨fun taken member => htaken taken member ▸ List.mem_cons_self, ?_⟩
        exact fun stale member => hstale stale member ▸ List.mem_cons_self

/-- A walk that comes to an entry with a live value takes that value or one before it, and in the
second case leaves the entry alone. The induction is on the entries before it.
-/
theorem drawAlong_of_live {fabric : Fabric α} (wire : Wire) {link : Link α}
    (found : fabric.links[wire.link]? = some link) (sound : link.ring.Sound)
    (live : link.live ≠ []) (front back : List Wire)
    (unnamed : ∀ other ∈ front, other.link ≠ wire.link)
    : ∃ taken,
        (drawAlong (front ++ wire :: back) fabric).1.taken = some taken
        ∧ (taken.producer = wire.position
          ∨ taken.producer ∈ front.map Wire.position
            ∧ ∀ stale ∈ (drawAlong (front ++ wire :: back) fabric).1.discarded,
                stale.producer ∈ front.map Wire.position) := by
  induction front generalizing fabric with
  | nil =>
      obtain ⟨_, hdraw, _⟩ := Link.pop_eq sound
      obtain ⟨value, rest, hlive⟩ := List.exists_cons_of_ne_nil live
      refine ⟨⟨wire.position, value⟩, ?_, .inl rfl⟩
      simp only [List.nil_append, drawAlong, draw_of_link wire found, hdraw, hlive,
        List.head?_cons, Option.map_some]
  | cons first rest ih =>
      have hkept := fabric.links_draw_of_ne first (unnamed first List.mem_cons_self)
      obtain ⟨htaken, hstale⟩ := fabric.draw_positions first
      rcases hresult : fabric.draw first with ⟨⟨_ | value, discarded⟩, next⟩
      · simp only [hresult] at hkept hstale
        obtain ⟨taken, hdrawn, hwhere⟩ :=
          ih (hkept.trans found) fun other member => unnamed other (List.mem_cons_of_mem _ member)
        simp only [List.cons_append, drawAlong, hresult, List.map_cons]
        refine ⟨taken, hdrawn, hwhere.imp_right ?_⟩
        rintro ⟨hfront, hrest⟩
        refine ⟨List.mem_cons_of_mem _ hfront, fun stale member => ?_⟩
        rcases List.mem_append.mp member with hfirst | hlater
        · exact hstale stale hfirst ▸ List.mem_cons_self
        · exact List.mem_cons_of_mem _ (hrest stale hlater)
      · simp only [hresult] at htaken hstale
        simp only [List.cons_append, drawAlong, hresult, List.map_cons]
        refine ⟨value, rfl, .inr ⟨htaken value rfl ▸ List.mem_cons_self, ?_⟩⟩
        exact fun stale member => hstale stale member ▸ List.mem_cons_self

-----------------------------------------------------------------------------------------
-- A pop serves a producer or uses up some of its patience
-----------------------------------------------------------------------------------------

/-- The link of a pair, with its place in the store, has a live value. -/
structure LiveAt (fabric : Fabric α) (producer consumer name : Nat) (link : Link α) : Prop where
  named : fabric.name? producer consumer = some name
  found : fabric.links[name]? = some link
  sound : link.ring.Sound
  live : link.live ≠ []

variable {fabric : Fabric α} {producer consumer name : Nat} {link : Link α} {receiver : Receiver}

/-- A sweep of a consumer's row meets the entry of a producer behind those that come before it. -/
theorem Wired.sweep_split (wired : fabric.Wired) {cursor : Nat}
    (cursor_le : cursor ≤ fabric.producerCount)
    (named : fabric.name? producer consumer = some name)
    : ∃ front back,
        (fabric.consumerRow consumer).sweep cursor = front ++ ⟨producer, name⟩ :: back
        ∧ (∀ other ∈ front, other.link ≠ name)
        ∧ ∀ other ∈ front.map Wire.position,
            other ≠ producer
            ∧ distance fabric.producerCount (other + 1) producer
              < distance fabric.producerCount cursor producer := by
  obtain ⟨hproducer, hconsumer⟩ :=
    (wired.grid.wired_iff producer consumer).mp (by simp [named])
  have hwired (position : Nat)
      : ((fabric.consumerRow consumer).link? position).isSome
        ↔ position < fabric.producerCount := by
    rw [wired.shared]
    exact (wired.grid.wired_iff position consumer).trans (and_iff_left hconsumer)
  have hwidth : fabric.producerCount ≤ (fabric.consumerRow consumer).width :=
    wired.consumer_width consumer hconsumer ▸ wired.producers_le
  have hpositions := Row.positions_sweep cursor_le hwidth hwired
  obtain ⟨before, after, hsplit, hnearer⟩ := Crossbar.sweep_split cursor_le hproducer
  rw [hsplit] at hpositions
  obtain ⟨front, tail, hsweep, hfront, htail⟩ := List.map_eq_append_iff.mp hpositions
  obtain ⟨wire, back, rfl, hwire, _⟩ := List.map_eq_cons_iff.mp htail
  have hlink (other : Wire) (member : other ∈ (fabric.consumerRow consumer).sweep cursor)
      : fabric.name? other.position consumer = some other.link :=
    (wired.shared other.position consumer).symm.trans (Row.link?_of_mem_sweep member)
  have hsame : wire = ⟨producer, name⟩ := by
    have hnamed := hlink wire (by simp [hsweep])
    rw [hwire, named] at hnamed
    cases wire
    simp only [Wire.mk.injEq]
    exact ⟨hwire, (Option.some.inj hnamed).symm⟩
  refine ⟨front, back, hsame ▸ hsweep, ?_, fun other member => hnearer other (hfront ▸ member)⟩
  intro other member same
  have hother := hlink other (by simp [hsweep, member])
  rw [same] at hother
  have hmet : other.position ∈ before := hfront ▸ List.mem_map_of_mem member
  exact (hnearer other.position hmet).1 (wired.grid.name_inj hother named).1

/-- A sweep of a producer's row meets a link if there is a consumer, wherever it starts. -/
theorem Wired.sweep_ne_nil (wired : fabric.Wired) (within : producer < fabric.producerCount)
    (read : 0 < fabric.consumerCount) (cursor : Nat)
    : (fabric.producerRow producer).sweep cursor ≠ [] := by
  have hwired (consumer : Nat)
      : ((fabric.producerRow producer).link? consumer).isSome ↔ consumer < fabric.consumerCount :=
    (wired.grid.wired_iff producer consumer).trans (and_iff_right within)
  have hwidth := wired.producer_width producer within
  have hle := wired.consumers_le
  have hlength (first count : Nat)
      : ((fabric.producerRow producer).run first count).length
        = min count (fabric.consumerCount - first) := by
    have hpositions := congrArg List.length (Row.positions_run hwired first count)
    simpa only [List.length_map, List.length_range'] using hpositions
  intro none
  have hnone := congrArg List.length none
  simp only [Row.sweep, List.length_append, hlength, List.length_nil] at hnone
  omega

/-- A scan takes from a producer with a live value or from one that comes before it. -/
theorem Wired.scan_of_live (wired : fabric.Wired) (receiver : Receiver)
    (liveAt : fabric.LiveAt producer receiver.slot name link)
    (cursor_le : receiver.cursor ≤ fabric.producerCount)
    : ∃ taken,
        (fabric.scan receiver).1.taken = some taken
        ∧ (fabric.scan receiver).2.1
          = { receiver with cursor := taken.producer + 1, streak := 1 }
        ∧ (taken.producer = producer
          ∨ taken.producer ≠ producer
            ∧ distance fabric.producerCount (taken.producer + 1) producer
              < distance fabric.producerCount receiver.cursor producer
            ∧ ∀ stale ∈ (fabric.scan receiver).1.discarded, stale.producer ≠ producer) := by
  obtain ⟨front, back, hsweep, hunnamed, hnearer⟩ := wired.sweep_split cursor_le liveAt.named
  obtain ⟨taken, htaken, hwhere⟩ :=
    drawAlong_of_live ⟨producer, name⟩ liveAt.found liveAt.sound liveAt.live front back hunnamed
  rw [← hsweep] at htaken hwhere
  simp only [scan, drawSweep_eq]
  rcases hresult : drawAlong ((fabric.consumerRow receiver.slot).sweep receiver.cursor) fabric
    with ⟨⟨_ | value, discarded⟩, next⟩
  · simp only [hresult, reduceCtorEq] at htaken
  · simp only [hresult, Option.some.injEq] at htaken hwhere
    subst htaken
    refine ⟨value, rfl, rfl, hwhere.imp_right ?_⟩
    rintro ⟨hfront, hstale⟩
    obtain ⟨hother, hless⟩ := hnearer _ hfront
    exact ⟨hother, hless, fun stale member => (hnearer _ (hstale stale member)).1⟩

/-- A streak is with the producer before the cursor. -/
theorem Wired.stickyWire_of_streak (wired : fabric.Wired)
    (poised : receiver.Poised fabric.producerCount)
    (within : receiver.slot < fabric.consumerCount)
    (sticky : 0 < receiver.streak ∧ receiver.streak < maxStickyReads)
    : ∃ name,
        fabric.name? (receiver.cursor - 1) receiver.slot = some name
        ∧ fabric.stickyWire receiver = [⟨receiver.cursor - 1, name⟩] := by
  have hpos := poised.cursor_pos sticky.1
  have hcursor := poised.cursor_le
  obtain ⟨name, named⟩ : ∃ name,
      fabric.name? (receiver.cursor - 1) receiver.slot = some name :=
    Option.isSome_iff_exists.mp ((wired.grid.wired_iff _ _).mpr ⟨by omega, within⟩)
  refine ⟨name, named, ?_⟩
  simp only [stickyWire, if_pos sticky, wired.shared, named]

/-- A streak with a producer goes on as long as it has live values. -/
theorem pop_of_own_streak (liveAt : fabric.LiveAt producer receiver.slot name link)
    (streak : fabric.stickyWire receiver = [⟨producer, name⟩])
    : ∃ taken, (fabric.pop receiver).1.taken = some taken ∧ taken.producer = producer := by
  obtain ⟨taken, htaken, hwhere⟩ :=
    drawAlong_of_live ⟨producer, name⟩ liveAt.found liveAt.sound liveAt.live [] []
      fun _ member => absurd member List.not_mem_nil
  simp only [List.nil_append] at htaken
  simp only [pop, streak]
  rcases hresult : drawAlong [⟨producer, name⟩] fabric with ⟨⟨_ | value, discarded⟩, next⟩
  · simp only [hresult, reduceCtorEq] at htaken
  · simp only [hresult, Option.some.injEq] at htaken
    subst htaken
    refine ⟨value, rfl, hwhere.resolve_right ?_⟩
    rintro ⟨met, _⟩
    exact List.not_mem_nil met

/-- A streak with another producer goes on and is one pop shorter, or it has run dry and the pop
goes on to a scan.
-/
theorem Wired.pop_of_other_streak (wired : fabric.Wired)
    (liveAt : fabric.LiveAt producer receiver.slot name link)
    (poised : receiver.Poised fabric.producerCount)
    (sticky : 0 < receiver.streak ∧ receiver.streak < maxStickyReads) {other : Nat}
    (named : fabric.name? (receiver.cursor - 1) receiver.slot = some other)
    (streak : fabric.stickyWire receiver = [⟨receiver.cursor - 1, other⟩])
    (apart : receiver.cursor - 1 ≠ producer)
    : ∃ taken,
        (fabric.pop receiver).1.taken = some taken
        ∧ (taken.producer = producer
          ∨ taken.producer ≠ producer
            ∧ (∀ stale ∈ (fabric.pop receiver).1.discarded, stale.producer ≠ producer)
            ∧ (fabric.pop receiver).2.1.patience fabric.producerCount producer
              < receiver.patience fabric.producerCount producer) := by
  have hapart : receiver.cursor ≠ producer + 1 := by omega
  have hne : other ≠ name := by
    rintro rfl
    exact apart (wired.grid.name_inj named liveAt.named).1
  have hkept := fabric.links_draw_of_ne ⟨receiver.cursor - 1, other⟩ hne
  obtain ⟨htaken, hstale⟩ := fabric.draw_positions ⟨receiver.cursor - 1, other⟩
  have hsame := (fabric.onlyLinks_draw ⟨receiver.cursor - 1, other⟩).sameWiring
  simp only [pop, streak, drawAlong]
  rcases hresult : fabric.draw ⟨receiver.cursor - 1, other⟩ with ⟨⟨_ | value, discarded⟩, next⟩
  · -- The streak has run dry.
    simp only [hresult] at hkept hstale hsame
    have hnext : next.LiveAt producer receiver.slot name link :=
      ⟨(hsame.name? _ _).trans liveAt.named, hkept.trans liveAt.found, liveAt.sound, liveAt.live⟩
    obtain ⟨taken, hscan, hreceiver, hwhere⟩ :=
      (hsame.wired wired).scan_of_live { receiver with streak := 0 } hnext
        (hsame.producers ▸ poised.cursor_le)
    rw [hsame.producers] at hwhere
    refine ⟨taken, hscan, hwhere.imp_right ?_⟩
    rintro ⟨hfar, hless, hrest⟩
    refine ⟨hfar, ?_, ?_⟩
    · intro stale member
      rcases List.mem_append.mp member with hfirst | hlater
      · simp only [List.append_nil] at hfirst
        exact hstale stale hfirst ▸ apart
      · exact hrest stale hlater
    · rw [hreceiver]
      exact Receiver.patience_scan receiver.streak hless hfar fun _ => hapart
  · simp only [hresult] at htaken hstale
    refine ⟨value, rfl, .inr ⟨?_, ?_, ?_⟩⟩
    · exact htaken value rfl ▸ apart
    · exact fun stale member => hstale stale member ▸ apart
    · exact Receiver.patience_streak sticky hapart

/-- A pop for a consumer with a live value from a producer takes that producer's value, or it takes
another's and uses up some of the producer's patience.
-/
theorem Wired.pop_of_live (wired : fabric.Wired)
    (liveAt : fabric.LiveAt producer receiver.slot name link)
    (poised : receiver.Poised fabric.producerCount)
    : ∃ taken,
        (fabric.pop receiver).1.taken = some taken
        ∧ (taken.producer = producer
          ∨ taken.producer ≠ producer
            ∧ (∀ stale ∈ (fabric.pop receiver).1.discarded, stale.producer ≠ producer)
            ∧ (fabric.pop receiver).2.1.patience fabric.producerCount producer
              < receiver.patience fabric.producerCount producer) := by
  by_cases sticky : 0 < receiver.streak ∧ receiver.streak < maxStickyReads
  · have hwithin := (wired.grid.wired_iff producer receiver.slot).mp (by simp [liveAt.named])
    obtain ⟨other, named, streak⟩ := wired.stickyWire_of_streak poised hwithin.2 sticky
    by_cases turn : receiver.cursor - 1 = producer
    · rw [turn] at named streak
      obtain rfl : other = name := Option.some.inj (named.symm.trans liveAt.named)
      obtain ⟨taken, htaken, hown⟩ := pop_of_own_streak liveAt streak
      exact ⟨taken, htaken, .inl hown⟩
    · exact wired.pop_of_other_streak liveAt poised sticky named streak turn
  · have hnone : fabric.stickyWire receiver = [] := if_neg sticky
    obtain ⟨taken, htaken, hreceiver, hwhere⟩ :=
      wired.scan_of_live { receiver with streak := 0 } liveAt poised.cursor_le
    simp only [pop, hnone, drawAlong, List.nil_append]
    refine ⟨taken, htaken, hwhere.imp_right ?_⟩
    rintro ⟨hother, hless, hstale⟩
    refine ⟨hother, hstale, ?_⟩
    rw [hreceiver]
    exact Receiver.patience_scan receiver.streak hless hother fun held => absurd held sticky

-----------------------------------------------------------------------------------------
-- Receivers stay poised
-----------------------------------------------------------------------------------------

theorem Wired.scan_poised (wired : fabric.Wired) (receiver : Receiver)
    (cursor_le : receiver.cursor ≤ fabric.producerCount)
    : (fabric.scan receiver).2.1.Poised fabric.producerCount := by
  obtain ⟨htaken, _⟩ :=
    drawAlong_positions ((fabric.consumerRow receiver.slot).sweep receiver.cursor) fabric
  simp only [scan, drawSweep_eq]
  rcases hresult : drawAlong ((fabric.consumerRow receiver.slot).sweep receiver.cursor) fabric
    with ⟨⟨_ | value, discarded⟩, next⟩
  · exact ⟨cursor_le, fun streak => absurd streak (Nat.lt_irrefl 0)⟩
  · simp only [hresult] at htaken
    obtain ⟨wire, member, hposition⟩ := List.mem_map.mp (htaken value rfl)
    have hnamed : (fabric.name? wire.position receiver.slot).isSome := by
      rw [← wired.shared, Row.link?_of_mem_sweep member]
      rfl
    have hwithin := ((wired.grid.wired_iff _ _).mp hnamed).1
    rw [hposition] at hwithin
    exact ⟨hwithin, fun _ => Nat.succ_pos _⟩

/-- A pop leaves the receiver's cursor among the producers. -/
theorem Wired.pop_poised (wired : fabric.Wired)
    (poised : receiver.Poised fabric.producerCount)
    : (fabric.pop receiver).2.1.Poised fabric.producerCount := by
  have hsame := (onlyLinks_drawAlong (fabric.stickyWire receiver) fabric).sameWiring
  rw [pop]
  split
  · next taken discarded next hresult =>
      refine ⟨poised.cursor_le, fun _ => poised.cursor_pos ?_⟩
      -- Only a streak has an entry to draw from.
      refine Classical.byContradiction fun none => ?_
      rw [stickyWire, if_neg (fun sticky => none sticky.1), drawAlong] at hresult
      simp only [Prod.mk.injEq, Intake.mk.injEq, reduceCtorEq, false_and] at hresult
  · next discarded next hresult =>
      simp only [hresult] at hsame
      have hscan := (hsame.wired wired).scan_poised { receiver with streak := 0 }
        (hsame.producers ▸ poised.cursor_le)
      rw [hsame.producers] at hscan
      exact hscan

end Fabric

end Crossbar
