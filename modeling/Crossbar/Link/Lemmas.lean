import Crossbar.Link
import Crossbar.Ring.Lemmas

/-! A link seen as a queue whose front part may be stale. The reader discards exactly that part and
takes the first value behind it; the writer fills the ring whatever is stale in it.
-/

namespace Crossbar.Link

variable {α : Type}

/-- The values held, oldest first, stale ones included. -/
def toList (link : Link α) : List α :=
  link.ring.toList

/-- The values held that the reader is going to discard. -/
def stale (link : Link α) : List α :=
  link.toList.take link.staleCount

/-- The values held that the reader is going to take. -/
def live (link : Link α) : List α :=
  link.toList.drop link.staleCount

theorem stale_append_live (link : Link α) : link.stale ++ link.live = link.toList :=
  List.take_append_drop _ _

/-- A pop is a run of discards followed by one pop of the ring. -/
theorem pop_def (link : Link α)
    : link.pop
        = (⟨(Ring.popUpTo link.staleCount link.ring).2.pop.1,
              (Ring.popUpTo link.staleCount link.ring).1⟩,
            { link with ring := (Ring.popUpTo link.staleCount link.ring).2.pop.2 }) := by
  rcases hd : Ring.popUpTo link.staleCount link.ring with ⟨discarded, ring⟩
  rcases hp : ring.pop with ⟨value, last⟩
  simp only [pop, hd, hp]

/-- A pop discards what is stale and takes the first live value. -/
theorem pop_eq {link : Link α} (h : link.ring.Sound)
    : link.pop.2.ring.Sound
      ∧ link.pop.1 = ⟨link.live.head?, link.stale⟩
      ∧ link.pop.2.toList = link.live.tail
      ∧ link.pop.2.staleUntil = link.staleUntil := by
  obtain ⟨hs, ht, hd⟩ := Ring.popUpTo_eq link.staleCount h
  have hfront := Ring.pop_fst hs
  have hrest := Ring.toList_pop hs
  rw [hd] at hfront hrest
  rw [pop_def, hfront, ht]
  exact ⟨Ring.sound_pop hs, rfl, hrest, rfl⟩

theorem push_fst (link : Link α) (value : α)
    : (link.push value).1 = (link.ring.push value).1 := rfl

theorem toList_push_snd (link : Link α) (value : α)
    : (link.push value).2.toList = (link.ring.push value).2.toList := rfl

/-- A push adds at the end if the ring has room, and otherwise hands the value back. -/
theorem push_eq {link : Link α} (value : α) (h : link.ring.Sound)
    : (link.push value).2.ring.Sound
      ∧ (link.push value).2.staleUntil = link.staleUntil
      ∧ (if link.ring.size < link.ring.capacity then
          (link.push value).1 = .accepted
            ∧ (link.push value).2.toList = link.toList ++ [value]
        else
          (link.push value).1 = .rejected value
            ∧ (link.push value).2.toList = link.toList) := by
  refine ⟨Ring.sound_push value h, rfl, ?_⟩
  split
  · next hr =>
      obtain ⟨ha, _, hl⟩ := Ring.push_of_room value h hr
      exact ⟨ha, toList_push_snd link value ▸ hl⟩
  · next hr =>
      have hsize := h.size_le
      have hfull := Ring.push_of_full value h (by omega)
      rw [toList_push_snd, push_fst, hfull]
      exact ⟨rfl, rfl⟩

@[simp] theorem toList_retire (link : Link α) : link.retire.2.toList = link.toList := rfl

end Crossbar.Link
