import Crossbar.Proofs.Arbiter
import Crossbar.Proofs.ChannelHistory

/-! Attempts made again after one that failed. A failed push has looked at the reader's total and a
failed pop at the writer's, and a failed pop of a consumer has also discarded what was stale and
ended the streak. All that is done once: until somebody else acts, the next attempt fails as well
and changes nothing any more.
-/

namespace Crossbar

variable {α : Type}

-----------------------------------------------------------------------------------------
-- Rings and channels
-----------------------------------------------------------------------------------------

namespace Ring

variable {ring : Ring α}

/-- A pop in vain made again changes nothing. -/
theorem pop_again (sound : ring.Sound) (vain : ring.pop.1 = none)
    : ring.pop.2.pop = (none, ring.pop.2) := by
  have hempty : ring.size = 0 := by
    rw [pop_fst sound, List.head?_eq_none_iff] at vain
    rw [← length_toList sound, vain, List.length_nil]
  have hpop := pop_of_empty sound hempty
  have hagain := pop_of_empty (sound_refreshPushed sound) hempty
  rw [hpop]
  exact hagain

/-- A push in vain made again changes nothing. -/
theorem push_again {value : α} (sound : ring.Sound) (vain : (ring.push value).1 ≠ .accepted)
    : (ring.push value).2.push value = (.rejected value, (ring.push value).2) := by
  have hfull : ring.size = ring.capacity := by
    by_contra room
    exact vain (push_of_room value sound (Nat.lt_of_le_of_ne sound.size_le room)).1
  have hagain := push_of_full value (sound_refreshPopped sound) hfull
  rw [push_of_full value sound hfull]
  exact hagain

end Ring

namespace Channel

variable {channel next : Channel α} {value : α}

theorem pushAttempt_eq_error {kept : α}
    : pushAttempt value channel = (.error kept, next)
        ↔ channel.push value = (.rejected kept, next) := by
  rw [pushAttempt]
  rcases channel.push value with ⟨_ | returned, after⟩ <;> simp

theorem popAttempt_eq_error
    : popAttempt () channel = (.error (), next) ↔ channel.pop = (none, next) := by
  rw [popAttempt]
  rcases channel.pop with ⟨_ | taken, after⟩ <;> simp

theorem pushAttempt_again (sound : channel.ring.Sound)
    (vain : pushAttempt value channel = (.error value, next))
    : pushAttempt value next = (.error value, next) := by
  rw [pushAttempt_eq_error] at vain ⊢
  have hoffer : (channel.ring.push value).1 = .rejected value := congrArg Prod.fst vain
  have hagain := Ring.push_again sound (by rw [hoffer]; exact fun same => by cases same)
  obtain rfl := congrArg Prod.snd vain
  simp only [push, hagain]

theorem popAttempt_again (sound : channel.ring.Sound)
    (vain : popAttempt () channel = (.error (), next))
    : popAttempt () next = (.error (), next) := by
  rw [popAttempt_eq_error] at vain ⊢
  have hnone : channel.ring.pop.1 = none := congrArg Prod.fst vain
  have hagain := Ring.pop_again sound hnone
  obtain rfl := congrArg Prod.snd vain
  simp only [pop, hagain]

end Channel

-----------------------------------------------------------------------------------------
-- Links and fabrics
-----------------------------------------------------------------------------------------

namespace Link

/-- A pop of a link finds nothing and changes nothing. -/
def Drained (link : Link α) : Prop :=
  link.pop = (⟨none, []⟩, link)

/-- A ring that pops in vain without a change has nothing to discard either. -/
theorem drained_of_ring {link : Link α} (vain : link.ring.pop = (none, link.ring))
    : link.Drained := by
  have hdiscards : Ring.popUpTo link.staleCount link.ring = ([], link.ring) := by
    cases link.staleCount with
    | zero => rfl
    | succ count => rw [Ring.popUpTo, gather_succ, vain]
  rw [Drained, pop_def, hdiscards, vain]

/-- A pop in vain drains a link, stale values and all. -/
theorem drained_pop {link : Link α} (sound : link.ring.Sound) (vain : link.pop.1.value = none)
    : link.pop.2.Drained := by
  obtain ⟨hsound, _⟩ := Ring.popUpTo_eq link.staleCount sound
  rw [pop_def] at vain ⊢
  exact drained_of_ring (Ring.pop_again hsound vain)

end Link

namespace Fabric

variable {config : Config} {fabric : Fabric α} {history : List (Passage α)} {consumer : Nat}

/-- The link of a name, if there is one, is drained. -/
def Drained (fabric : Fabric α) (name : Nat) : Prop :=
  ∀ link, fabric.links[name]? = some link → link.Drained

theorem draw_of_drained {wire : Wire} (drained : fabric.Drained wire.link)
    : fabric.draw wire = (⟨none, []⟩, fabric) := by
  cases here : fabric.links[wire.link]? with
  | none => rw [draw, takeOut_of_size_le _ (Array.getElem?_eq_none_iff.mp here)]
  | some link =>
      have hpop : link.pop = (⟨none, []⟩, link) := drained link here
      obtain ⟨within, rfl⟩ := Array.getElem?_eq_some_iff.mp here
      rw [draw_of_link wire here, hpop, setLink, Array.setIfInBounds_def]
      simp [within]

/-- A draw leaves drained links as they are. -/
theorem Drained.draw {name : Nat} (drained : fabric.Drained name) (wire : Wire)
    : (fabric.draw wire).2.Drained name := by
  by_cases here : wire.link = name
  · subst here
    rwa [draw_of_drained drained]
  · intro link found
    rw [links_draw_of_ne fabric wire here] at found
    exact drained link found

/-- A draw in vain drains the link of its entry. -/
theorem Follows.drained_draw (follows : fabric.Follows config history) {producer name : Nat}
    (named : fabric.name? producer consumer = some name)
    (vain : (fabric.draw ⟨producer, name⟩).1.taken = none)
    : (fabric.draw ⟨producer, name⟩).2.Drained name := by
  obtain ⟨link, hplace, hlink⟩ := follows.wired.links_of_name named
  rw [draw_of_link ⟨producer, name⟩ hplace] at vain ⊢
  obtain ⟨within, _⟩ := Array.getElem?_eq_some_iff.mp hplace
  intro last found
  rw [Fabric.setLink, Array.getElem?_setIfInBounds_self_of_lt within] at found
  obtain rfl := Option.some.inj found
  exact Link.drained_pop (follows.sound hlink) (Option.map_eq_none_iff.mp vain)

theorem Drained.drawAlong {name : Nat} (drained : fabric.Drained name) (wires : List Wire)
    : (Fabric.drawAlong wires fabric).2.Drained name := by
  induction wires generalizing fabric with
  | nil => exact drained
  | cons wire rest ih =>
      have hdraw := drained.draw wire
      rcases hresult : fabric.draw wire with ⟨⟨_ | taken, discarded⟩, next⟩
      · rw [hresult] at hdraw
        simp only [Fabric.drawAlong, hresult]
        exact ih hdraw
      · rw [hresult] at hdraw
        simpa only [Fabric.drawAlong, hresult]

/-- Draws in vain drain the links of all their entries, by induction on these. -/
theorem Follows.drained_drawAlong (follows : fabric.Follows config history) {wires : List Wire}
    (named : ∀ wire ∈ wires, fabric.name? wire.position consumer = some wire.link)
    (vain : (Fabric.drawAlong wires fabric).1.taken = none)
    : ∀ wire ∈ wires, (Fabric.drawAlong wires fabric).2.Drained wire.link := by
  induction wires generalizing fabric history with
  | nil => exact fun _ member => absurd member List.not_mem_nil
  | cons wire rest ih =>
      have hname := named wire List.mem_cons_self
      obtain ⟨hsame, hf⟩ := follows.draw hname
      have hfirst := follows.drained_draw hname
      rcases hresult : fabric.draw wire with ⟨⟨_ | taken, discarded⟩, next⟩
      · rw [hresult] at hsame hf hfirst
        rw [drawAlong_cons_of_none hresult] at vain ⊢
        refine List.forall_mem_cons.mpr ⟨(hfirst rfl).drawAlong rest, ih hf ?_ vain⟩
        exact fun other member =>
          (hsame.name? _ _).trans (named other (List.mem_cons_of_mem _ member))
      · rw [drawAlong_cons_of_some hresult] at vain
        cases vain

theorem drawAlong_of_drained {wires : List Wire}
    (drained : ∀ wire ∈ wires, fabric.Drained wire.link)
    : Fabric.drawAlong wires fabric = (⟨none, []⟩, fabric) := by
  induction wires with
  | nil => rfl
  | cons wire rest ih =>
      obtain ⟨hfirst, hrest⟩ := List.forall_mem_cons.mp drained
      rw [drawAlong_cons_of_none (draw_of_drained hfirst), ih hrest]
      rfl

/-- A pop in vain made again finds nothing to discard and no streak to end. -/
theorem Follows.pop_again (follows : fabric.Follows config history) {receiver : Receiver}
    (vain : (fabric.pop receiver).1.taken = none)
    : (fabric.pop receiver).2.2.pop (fabric.pop receiver).2.1
        = (⟨none, []⟩, (fabric.pop receiver).2.1, (fabric.pop receiver).2.2) := by
  have hsticky : ∀ wire ∈ fabric.stickyWire receiver,
      (fabric.consumerRow receiver.slot).link? wire.position = some wire.link :=
    fun _ member => link?_of_mem_stickyWire member
  obtain ⟨_, hf⟩ := follows.drawRow receiver.slot _ hsticky
  rcases hfirst : Fabric.drawAlong (fabric.stickyWire receiver) fabric
    with ⟨⟨_ | taken, discarded⟩, next⟩
  · rw [hfirst] at hf
    have hsweep : ∀ wire ∈ (next.consumerRow receiver.slot).sweep receiver.cursor,
        (next.consumerRow receiver.slot).link? wire.position = some wire.link :=
      fun _ member => Row.link?_of_mem_sweep member
    have hdrained := hf.drained_drawAlong fun wire member =>
      (hf.wired.shared wire.position receiver.slot).symm.trans (hsweep wire member)
    obtain ⟨hsame, _⟩ := hf.drawRow receiver.slot _ hsweep
    rcases hsecond : Fabric.drawAlong ((next.consumerRow receiver.slot).sweep receiver.cursor)
      next with ⟨⟨_ | taken, discarded'⟩, last⟩
    · rw [hsecond] at hdrained hsame
      have hagain := drawAlong_of_drained (hdrained rfl)
      have hidle : last.stickyWire { receiver with streak := 0 } = [] := if_neg (by simp)
      have hpop : fabric.pop receiver
          = (⟨none, discarded ++ discarded'⟩, { receiver with streak := 0 }, last) := by
        simp only [Fabric.pop, hfirst, Fabric.scan, drawSweep_eq, hsecond]
      rw [hpop]
      simp only [Fabric.pop, hidle, Fabric.drawAlong, Fabric.scan, drawSweep_eq,
        hsame.consumerRow, hagain]
      rfl
    · simp only [Fabric.pop, hfirst, Fabric.scan, drawSweep_eq, hsecond] at vain
      cases vain
  · simp only [Fabric.pop, hfirst] at vain
    cases vain

end Fabric

/-- An attempt of a waiting receiver that failed fails again and changes nothing. -/
theorem Reading.attempt_again {config : Config} {history : List (Passage α)}
    {reading next : Reading α} (follows : reading.fabric.Follows config history)
    (vain : attempt () reading = (.error (), next))
    : attempt () next = (.error (), next) := by
  obtain ⟨fabric, receiver, discarded⟩ := reading
  have hagain (none : (fabric.pop receiver).1.taken = none) := follows.pop_again none
  rw [attempt] at vain
  rcases hpop : fabric.pop receiver with ⟨⟨_ | item, more⟩, receiver', fabric'⟩
  · rw [hpop] at hagain
    simp only [pop, hpop, Prod.mk.injEq, true_and] at vain
    subst vain
    simp [attempt, pop, hagain rfl]
  · simp only [pop, hpop, Prod.mk.injEq, reduceCtorEq, false_and] at vain

end Crossbar
