import Crossbar.Link.Lemmas

/-! The totals of a ring count what has gone through it, modulo 2^64. A push leaves the reader's
total alone, every value taken moves it by one, and the writer's total is ahead of it by exactly
what is held.
-/

namespace Crossbar

namespace Counter

/-- A total that leads another is that total moved on by the distance between them. -/
theorem eq_add_lead (ahead behind : Counter)
    : ahead = behind + UInt64.ofNat (lead ahead behind) := by
  rw [lead, UInt64.ofNat_toNat, UInt64.add_comm]
  exact (UInt64.sub_add_cancel ahead behind).symm

/-- Counts that are at most half the range apart compare as their words do. -/
theorem isBehind_ofNat {position mark : Nat} (past : position < mark + 0x8000000000000000)
    (ahead : mark ≤ position + 0x8000000000000000)
    : isBehind (UInt64.ofNat position) (UInt64.ofNat mark) = true ↔ position < mark := by
  simp only [isBehind, decide_eq_true_eq, lead, UInt64.toNat_sub, UInt64.toNat_ofNat']
  omega

/-- Moving a position on by less than its distance to the mark leaves it behind the mark, because
the distance shrinks by as much and stays on the same side of half the range.
-/
theorem isBehind_add {position mark : Counter} {steps : Nat}
    (hb : isBehind position mark = true) (hs : steps < lead mark position)
    : isBehind (position + UInt64.ofNat steps) mark = true := by
  have hp := UInt64.toNat_lt position
  have hm := UInt64.toNat_lt mark
  have hl := lead_lt mark position
  simp only [isBehind, decide_eq_true_eq, lead, UInt64.toNat_sub, UInt64.toNat_add,
    UInt64.toNat_ofNat'] at hb hs hl ⊢
  omega

/-- Moving a position on by its whole distance reaches the mark, which is not behind itself. -/
theorem isBehind_add_lead (position mark : Counter)
    : isBehind (position + UInt64.ofNat (lead mark position)) mark = false := by
  rw [← eq_add_lead mark position]
  simp [isBehind]

end Counter

namespace Ring

variable {α : Type}

theorem popped_push (ring : Ring α) (value : α) : (ring.push value).2.popped = ring.popped := by
  simp only [push]
  split
  · split <;> rfl
  · rfl

theorem capacity_push (ring : Ring α) (value : α)
    : (ring.push value).2.capacity = ring.capacity := by
  simp only [push]
  split
  · split <;> rfl
  · rfl

theorem capacity_pop (ring : Ring α) : ring.pop.2.capacity = ring.capacity := by
  simp only [pop]
  split
  · split <;> rfl
  · rfl

/-- The writer's total is the reader's total moved on by the number of values held. -/
theorem pushed_eq (ring : Ring α) : ring.pushed = ring.popped + UInt64.ofNat ring.size :=
  Counter.eq_add_lead ring.pushed ring.popped

/-- A pop moves the reader's total by the number of values it found, one or none. -/
theorem popped_pop {ring : Ring α} (h : ring.Sound)
    : ring.pop.2.popped = ring.popped + UInt64.ofNat ring.pop.1.toList.length := by
  rcases Nat.eq_zero_or_pos ring.size with hs | hs
  · rw [pop_of_empty h hs]
    exact (UInt64.add_zero ring.popped).symm
  · obtain ⟨_, value, hv, _⟩ := pop_of_held h hs
    have hone : ring.popped + 1 = ring.popped + UInt64.ofNat ring.pop.1.toList.length := by
      rw [hv]
      rfl
    rw [← hone]
    -- Only a pop without a value leaves the total as it is.
    revert hv
    simp only [pop]
    split
    · split
      · simp
      · exact fun _ => rfl
    · exact fun _ => rfl

/-- Taking several values moves the reader's total by their number. -/
theorem popped_popUpTo (limit : Nat) {ring : Ring α} (h : ring.Sound)
    : (popUpTo limit ring).2.popped
        = ring.popped + UInt64.ofNat (popUpTo limit ring).1.length := by
  induction limit generalizing ring with
  | zero => exact (UInt64.add_zero ring.popped).symm
  | succ limit ih =>
      have hsound := sound_pop h
      have hmoved := popped_pop h
      rw [popUpTo, gather_succ]
      split
      · next next hp =>
          rw [hp] at hmoved
          exact hmoved
      · next value next hp =>
          rw [hp] at hsound hmoved
          have hrest := ih hsound
          rw [popUpTo] at hrest
          rw [hrest, hmoved, UInt64.add_assoc, ← UInt64.ofNat_add, List.length_cons,
            Nat.add_comm]
          rfl

theorem capacity_popUpTo (limit : Nat) (ring : Ring α)
    : (popUpTo limit ring).2.capacity = ring.capacity := by
  induction limit generalizing ring with
  | zero => rfl
  | succ limit ih =>
      have hcapacity := capacity_pop ring
      rw [popUpTo, gather_succ]
      split
      · next next hp =>
          rw [hp] at hcapacity
          exact hcapacity
      · next value next hp =>
          rw [hp] at hcapacity
          exact (ih next).trans hcapacity

end Ring

namespace Link

variable {α : Type}

theorem capacity_pop (link : Link α) : link.pop.2.ring.capacity = link.ring.capacity := by
  rw [pop_def]
  exact (Ring.capacity_pop _).trans (Ring.capacity_popUpTo _ _)

/-- A pop moves the reader's total by what it discards and what it takes. -/
theorem popped_pop {link : Link α} (h : link.ring.Sound)
    : link.pop.2.ring.popped
        = link.ring.popped
          + UInt64.ofNat (link.stale.length + link.live.head?.toList.length) := by
  obtain ⟨hs, ht, hd⟩ := Ring.popUpTo_eq link.staleCount h
  have hfront := Ring.pop_fst hs
  have hdiscarded := Ring.popped_popUpTo link.staleCount h
  have htaken := Ring.popped_pop hs
  rw [hfront, hd, hdiscarded, ht, UInt64.add_assoc, ← UInt64.ofNat_add] at htaken
  rw [pop_def]
  exact htaken

end Link

end Crossbar
