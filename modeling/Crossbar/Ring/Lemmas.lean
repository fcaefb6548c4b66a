import Crossbar.Ring.View

/-! The totals, cursors and slots of a ring stay in step with each other. Seen as a queue, a push
adds at the end unless the ring is full, a pop takes the front unless it is empty, and tearing a
ring down gives up exactly what is held.
-/

namespace Crossbar.Ring

variable {α : Type}

/-- The totals, cursors and slots agree on which values are held, and each end's old copy of the
other's total lies between the two totals.
-/
structure Sound (ring : Ring α) : Prop where
  capacity_pos : 0 < ring.capacity
  capacity_lt : ring.capacity < 0x10000000000000000
  slots_size : ring.slots.size = ring.capacity
  readAt_lt : ring.readAt < ring.capacity
  size_le : ring.size ≤ ring.capacity
  writeAt_eq : ring.writeAt = ring.readPosition ring.size
  filled : ∀ offset, offset < ring.size → (ring.slotAt (ring.readPosition offset)).isSome
  vacant
    : ∀ offset,
        ring.size ≤ offset
        → offset < ring.capacity
        → ring.slotAt (ring.readPosition offset) = none
  seenPopped_between
    : ring.size + Counter.lead ring.popped ring.seenPopped
        = Counter.lead ring.pushed ring.seenPopped
  seenPopped_le : Counter.lead ring.pushed ring.seenPopped ≤ ring.capacity
  seenPushed_between
    : Counter.lead ring.pushed ring.seenPushed + Counter.lead ring.seenPushed ring.popped
        = ring.size

/-! ### Cursors and slots -/

/-- One step past a cursor is the next position around the end, by the two cases of the step. -/
theorem after_eq {ring : Ring α} {cursor : Nat} (h : cursor < ring.capacity)
    : ring.after cursor = if cursor + 1 < ring.capacity then cursor + 1 else 0 := by
  unfold after
  split <;> split <;> omega

/-- Within one lap a position is found by at most one subtraction. -/
theorem readPosition_eq {ring : Ring α} {offset : Nat} (hr : ring.readAt < ring.capacity)
    (ho : offset ≤ ring.capacity)
    : ring.readPosition offset
        = if ring.readAt + offset < ring.capacity then ring.readAt + offset
          else ring.readAt + offset - ring.capacity := by
  unfold readPosition
  split
  · exact Nat.mod_eq_of_lt ‹_›
  · rw [Nat.mod_eq_sub_mod (by omega)]
    exact Nat.mod_eq_of_lt (by omega)

theorem readPosition_lt {ring : Ring α} (offset : Nat) (h : 0 < ring.capacity)
    : ring.readPosition offset < ring.capacity :=
  Nat.mod_lt _ h

/-- The reader's cursor is the position without an offset. -/
theorem readPosition_zero {ring : Ring α} (h : ring.readAt < ring.capacity)
    : ring.readPosition 0 = ring.readAt :=
  Nat.mod_eq_of_lt h

/-- Different offsets within one lap name different slots. -/
theorem readPosition_inj {ring : Ring α} {first second : Nat}
    (hr : ring.readAt < ring.capacity) (hf : first < ring.capacity)
    (hs : second < ring.capacity)
    (h : ring.readPosition first = ring.readPosition second)
    : first = second := by
  rw [readPosition_eq hr (by omega), readPosition_eq hr (by omega)] at h
  split at h <;> split at h <;> omega

/-- Stepping past a position is the same as one more offset. -/
theorem after_readPosition {ring : Ring α} {offset : Nat} (hr : ring.readAt < ring.capacity)
    (ho : offset < ring.capacity)
    : ring.after (ring.readPosition offset) = ring.readPosition (offset + 1) := by
  rw [after_eq (readPosition_lt _ (by omega)), readPosition_eq hr (by omega),
    readPosition_eq hr (by omega)]
  split <;> split <;> split <;> omega

/-- A store changes the slot under the writer's cursor and no other. -/
theorem slotAt_store {ring : Ring α} (value : α) (cursor : Nat)
    (hw : ring.writeAt < ring.slots.size)
    : (ring.store value).slotAt cursor
        = if cursor = ring.writeAt then some value else ring.slotAt cursor := by
  simp only [slotAt, store, Array.getElem?_setIfInBounds]
  by_cases hc : ring.writeAt = cursor
  · subst hc
    simp [hw]
  · simp [hc, Ne.symm hc]

/-- Vacating changes the slot under the reader's cursor and no other. -/
theorem slotAt_vacate {ring : Ring α} (cursor : Nat)
    : ring.vacate.slotAt cursor
        = if cursor = ring.readAt then none else ring.slotAt cursor := by
  simp only [slotAt, vacate, Array.getElem?_setIfInBounds]
  by_cases hc : ring.readAt = cursor
  · subst hc
    by_cases hb : ring.readAt < ring.slots.size <;> simp [hb]
  · simp [hc, Ne.symm hc]

/-! ### The queue seen -/

/-- Reading the same slots gives the same queue. -/
theorem filterMap_agree {first second : Nat → Option α} {offsets : List Nat}
    (h : ∀ offset ∈ offsets, first offset = second offset)
    : offsets.filterMap first = offsets.filterMap second := by
  induction offsets with
  | nil => rfl
  | cons offset rest ih =>
      rw [List.filterMap_cons, List.filterMap_cons, h offset List.mem_cons_self,
        ih fun offset ho => h offset (List.mem_cons_of_mem _ ho)]

theorem length_toList {ring : Ring α} (h : ring.Sound) : ring.toList.length = ring.size := by
  have held : ∀ offset ∈ List.range ring.size,
      (ring.slotAt (ring.readPosition offset)).isSome := by
    intro offset ho
    exact h.filled offset (List.mem_range.mp ho)
  rw [toList, List.length_filterMap_eq_countP, List.countP_eq_length.mpr held,
    List.length_range]

/-- The oldest value stands under the reader's cursor. -/
theorem toList_eq_cons {ring : Ring α} (h : ring.Sound) (hs : 0 < ring.size)
    : ∃ value,
        ring.front? = some value
        ∧ ring.toList
            = value
              :: (List.range (ring.size - 1)).filterMap fun offset =>
                  ring.slotAt (ring.readPosition (offset + 1)) := by
  have hfront : ring.front? = ring.slotAt (ring.readPosition 0) := by
    rw [front?, readPosition_zero h.readAt_lt]
  obtain ⟨value, hv⟩ := Option.isSome_iff_exists.mp (h.filled 0 hs)
  refine ⟨value, hfront.trans hv, ?_⟩
  obtain ⟨count, hc⟩ := Nat.exists_eq_add_one_of_ne_zero (Nat.ne_of_gt hs)
  rw [toList, hc, List.range_succ_eq_map, List.filterMap_cons, hv, List.filterMap_map,
    Nat.add_sub_cancel]
  rfl

theorem sound_empty {capacity : Nat} (start : Counter) (hp : 0 < capacity)
    (hl : capacity < 0x10000000000000000)
    : (empty capacity start : Ring α).Sound where
  capacity_pos := hp
  capacity_lt := hl
  slots_size := Array.size_replicate
  readAt_lt := hp
  size_le := by simp
  writeAt_eq := by
    rw [size_empty]
    exact (Nat.zero_mod capacity).symm
  filled := by simp
  vacant := by
    intro offset _ _
    simp only [slotAt, empty, Array.getElem?_replicate]
    split <;> rfl
  seenPopped_between := by simp [empty, size]
  seenPopped_le := by simp [empty]
  seenPushed_between := by simp [empty, size]

/-! ### Looking at the other end -/

theorem sound_refreshPopped {ring : Ring α} (h : ring.Sound) : ring.refreshPopped.Sound where
  capacity_pos := h.capacity_pos
  capacity_lt := h.capacity_lt
  slots_size := h.slots_size
  readAt_lt := h.readAt_lt
  size_le := h.size_le
  writeAt_eq := h.writeAt_eq
  filled := h.filled
  vacant := h.vacant
  seenPopped_between := by simp [refreshPopped, size]
  seenPopped_le := h.size_le
  seenPushed_between := h.seenPushed_between

theorem sound_refreshPushed {ring : Ring α} (h : ring.Sound) : ring.refreshPushed.Sound where
  capacity_pos := h.capacity_pos
  capacity_lt := h.capacity_lt
  slots_size := h.slots_size
  readAt_lt := h.readAt_lt
  size_le := h.size_le
  writeAt_eq := h.writeAt_eq
  filled := h.filled
  vacant := h.vacant
  seenPopped_between := h.seenPopped_between
  seenPopped_le := h.seenPopped_le
  seenPushed_between := by simp [refreshPushed, size]

@[simp] theorem toList_refreshPopped (ring : Ring α) : ring.refreshPopped.toList = ring.toList :=
  rfl

@[simp] theorem toList_refreshPushed (ring : Ring α) : ring.refreshPushed.toList = ring.toList :=
  rfl

/-! ### Pushing -/

/-- Storing into a free slot and publishing it adds one value at the end. -/
theorem sound_publishPush_store {ring : Ring α} (value : α) (h : ring.Sound)
    (hf : ring.looksFull = false)
    : (ring.store value).publishPush.Sound
      ∧ (ring.store value).publishPush.toList = ring.toList ++ [value] := by
  have hcap := h.capacity_lt
  have hseen : Counter.lead ring.pushed ring.seenPopped < ring.capacity := by
    simpa [looksFull] using hf
  have hbetween := h.seenPopped_between
  have hroom : ring.size < ring.capacity := by omega
  have hwrite : ring.writeAt < ring.slots.size := by
    rw [h.slots_size, h.writeAt_eq]
    exact readPosition_lt _ h.capacity_pos
  have hsize : (ring.store value).publishPush.size = ring.size + 1 :=
    Counter.lead_succ_left (by change ring.size + 1 < _; omega)
  have hposition (offset : Nat)
      : (ring.store value).publishPush.readPosition offset = ring.readPosition offset := rfl
  have hslot (cursor : Nat)
      : (ring.store value).publishPush.slotAt cursor
          = if cursor = ring.writeAt then some value else ring.slotAt cursor :=
    slotAt_store value cursor hwrite
  have hother {offset : Nat} (ho : offset < ring.capacity) (hne : offset ≠ ring.size)
      : (ring.store value).publishPush.slotAt (ring.readPosition offset)
          = ring.slotAt (ring.readPosition offset) := by
    rw [hslot, if_neg]
    intro heq
    rw [h.writeAt_eq] at heq
    exact hne (readPosition_inj h.readAt_lt ho hroom heq)
  have hlast : (ring.store value).publishPush.slotAt (ring.readPosition ring.size)
      = some value := by
    rw [hslot, if_pos h.writeAt_eq.symm]
  constructor
  · exact {
      capacity_pos := h.capacity_pos
      capacity_lt := h.capacity_lt
      slots_size := Array.size_setIfInBounds.trans h.slots_size
      readAt_lt := h.readAt_lt
      size_le := by rw [hsize]; exact hroom
      writeAt_eq := by
        rw [hsize, hposition, ← after_readPosition h.readAt_lt hroom, ← h.writeAt_eq]
        rfl
      filled := by
        intro offset ho
        rw [hsize] at ho
        rw [hposition]
        by_cases hne : offset = ring.size
        · rw [hne, hlast]
          rfl
        · rw [hother (by omega) hne]
          exact h.filled offset (by omega)
      vacant := by
        intro offset hlo hhi
        rw [hsize] at hlo
        have hhi : offset < ring.capacity := hhi
        rw [hposition, hother hhi (by omega)]
        exact h.vacant offset (by omega) hhi
      seenPopped_between := by
        have hlead := @Counter.lead_succ_left ring.pushed ring.seenPopped (by omega)
        rw [hsize]
        change _ + Counter.lead ring.popped ring.seenPopped
          = Counter.lead (ring.pushed + 1) ring.seenPopped
        omega
      seenPopped_le := by
        have hlead := @Counter.lead_succ_left ring.pushed ring.seenPopped (by omega)
        change Counter.lead (ring.pushed + 1) ring.seenPopped ≤ ring.capacity
        omega
      seenPushed_between := by
        have hold := h.seenPushed_between
        have hlead := @Counter.lead_succ_left ring.pushed ring.seenPushed (by omega)
        rw [hsize]
        change Counter.lead (ring.pushed + 1) ring.seenPushed
          + Counter.lead ring.seenPushed ring.popped = _
        omega
    }
  · have hinit : ∀ offset ∈ List.range ring.size,
        (ring.store value).publishPush.slotAt (ring.readPosition offset)
          = ring.slotAt (ring.readPosition offset) := by
      intro offset ho
      have ho := List.mem_range.mp ho
      exact hother (by omega) (by omega)
    simp only [toList, hsize, hposition, List.range_succ, List.filterMap_append]
    rw [filterMap_agree hinit]
    simp [hlast]

/-- A push into a ring with room takes the value. -/
theorem push_of_room {ring : Ring α} (value : α) (h : ring.Sound)
    (hr : ring.size < ring.capacity)
    : (ring.push value).1 = .accepted
      ∧ (ring.push value).2.Sound
      ∧ (ring.push value).2.toList = ring.toList ++ [value] := by
  by_cases hf : ring.looksFull = true
  · have hroom : ring.refreshPopped.looksFull = false := by
      exact decide_eq_false (Nat.not_le.mpr hr)
    have hs := sound_publishPush_store value (sound_refreshPopped h) hroom
    simpa [push, hf, hroom] using hs
  · have hf : ring.looksFull = false := by simpa using hf
    have hs := sound_publishPush_store value h hf
    simpa [push, hf] using hs

/-- A push into a full ring hands the value back and renews only the writer's old copy. -/
theorem push_of_full {ring : Ring α} (value : α) (h : ring.Sound)
    (hr : ring.size = ring.capacity)
    : ring.push value = (.rejected value, ring.refreshPopped) := by
  have hbetween := h.seenPopped_between
  have hf : ring.looksFull = true := by
    simp only [looksFull, decide_eq_true_eq]
    omega
  have hfull : ring.refreshPopped.looksFull = true := by
    exact decide_eq_true (Nat.le_of_eq hr.symm)
  simp [push, hf, hfull]

/-! ### Popping -/

/-- Taking the value under the reader's cursor and publishing that takes the front. -/
theorem sound_advanceReader_vacate {ring : Ring α} (h : ring.Sound)
    (he : ring.looksEmpty = false)
    : ring.vacate.publishPop.advanceReader.Sound
      ∧ ∃ value,
          ring.front? = some value
          ∧ ring.toList = value :: ring.vacate.publishPop.advanceReader.toList := by
  have hseen : ring.seenPushed ≠ ring.popped := by simpa [looksEmpty] using he
  have hlead := Counter.lead_succ_right hseen.symm
  have hbetween := h.seenPushed_between
  have hpos : 0 < ring.size := by omega
  have hcap := h.capacity_lt
  have hle := h.size_le
  have hne : ring.popped ≠ ring.pushed := by
    intro heq
    have hz : ring.size = 0 := by rw [size, heq]; exact Counter.lead_self _
    omega
  have hsize : ring.vacate.publishPop.advanceReader.size + 1 = ring.size :=
    Counter.lead_succ_right hne
  have hread : ring.vacate.publishPop.advanceReader.readAt = ring.readPosition 1 := by
    have hstep := after_readPosition h.readAt_lt h.capacity_pos
    rwa [readPosition_zero h.readAt_lt] at hstep
  have hreadLt : ring.vacate.publishPop.advanceReader.readAt < ring.capacity := by
    rw [hread]
    exact readPosition_lt _ h.capacity_pos
  have hposition {offset : Nat} (ho : offset < ring.capacity)
      : ring.vacate.publishPop.advanceReader.readPosition offset
          = ring.readPosition (offset + 1) := by
    have hr := @readPosition_eq α ring 1 h.readAt_lt h.capacity_pos
    rw [@readPosition_eq α ring.vacate.publishPop.advanceReader _ hreadLt (Nat.le_of_lt ho),
      readPosition_eq h.readAt_lt ho, hread, hr]
    change (if _ < ring.capacity then _ else _ - ring.capacity) = _
    have := h.readAt_lt
    split <;> split <;> split <;> omega
  have hslot {offset : Nat} (ho : offset + 1 < ring.capacity)
      : ring.vacate.publishPop.advanceReader.slotAt (ring.readPosition (offset + 1))
          = ring.slotAt (ring.readPosition (offset + 1)) := by
    change ring.vacate.slotAt _ = _
    rw [slotAt_vacate, if_neg]
    intro heq
    have hz := readPosition_inj h.readAt_lt ho h.capacity_pos
      (heq.trans (readPosition_zero h.readAt_lt).symm)
    omega
  constructor
  · exact {
      capacity_pos := h.capacity_pos
      capacity_lt := h.capacity_lt
      slots_size := Array.size_setIfInBounds.trans h.slots_size
      readAt_lt := hreadLt
      size_le := by change _ ≤ ring.capacity; omega
      writeAt_eq := by
        change ring.writeAt = _
        rw [hposition (by omega), hsize]
        exact h.writeAt_eq
      filled := by
        intro offset ho
        rw [hposition (by omega), hslot (by omega)]
        exact h.filled _ (by omega)
      vacant := by
        intro offset hlo hhi
        have hhi : offset < ring.capacity := hhi
        rw [hposition hhi]
        by_cases hlast : offset + 1 < ring.capacity
        · rw [hslot hlast]
          exact h.vacant _ (by omega) hlast
        · have hwrap : ring.readPosition (offset + 1) = ring.readAt := by
            rw [readPosition_eq h.readAt_lt hhi]
            have := h.readAt_lt
            split <;> omega
          rw [hwrap]
          change ring.vacate.slotAt _ = _
          rw [slotAt_vacate, if_pos rfl]
      seenPopped_between := by
        have hold := h.seenPopped_between
        have hseenLe := h.seenPopped_le
        have hstep := @Counter.lead_succ_left ring.popped ring.seenPopped (by omega)
        change _ + Counter.lead (ring.popped + 1) ring.seenPopped
          = Counter.lead ring.pushed ring.seenPopped
        omega
      seenPopped_le := h.seenPopped_le
      seenPushed_between := by
        change Counter.lead ring.pushed ring.seenPushed
          + Counter.lead ring.seenPushed (ring.popped + 1) = _
        omega
    }
  · obtain ⟨value, hv, hl⟩ := toList_eq_cons h hpos
    refine ⟨value, hv, hl.trans ?_⟩
    have hcount : ring.vacate.publishPop.advanceReader.size = ring.size - 1 := by omega
    have hrest : ∀ offset ∈ List.range (ring.size - 1),
        ring.slotAt (ring.readPosition (offset + 1))
          = ring.vacate.publishPop.advanceReader.slotAt
              (ring.vacate.publishPop.advanceReader.readPosition offset) := by
      intro offset ho
      have ho := List.mem_range.mp ho
      rw [hposition (by omega), hslot (by omega)]
    rw [toList, hcount, filterMap_agree hrest]

/-- A pop from an empty ring finds nothing and renews only the reader's old copy. -/
theorem pop_of_empty {ring : Ring α} (h : ring.Sound) (hs : ring.size = 0)
    : ring.pop = (none, ring.refreshPushed) := by
  have hbetween := h.seenPushed_between
  have heq : ring.seenPushed = ring.popped := Counter.lead_eq_zero_iff.mp (by omega)
  have hpushed : ring.pushed = ring.popped := Counter.lead_eq_zero_iff.mp hs
  have he : ring.looksEmpty = true := by simp [looksEmpty, heq]
  have hempty : ring.refreshPushed.looksEmpty = true := by
    simp [looksEmpty, refreshPushed, hpushed]
  simp [pop, he, hempty]

/-- A pop from a ring that holds something takes the front. -/
theorem pop_of_held {ring : Ring α} (h : ring.Sound) (hs : 0 < ring.size)
    : ring.pop.2.Sound
      ∧ ∃ value, ring.pop.1 = some value ∧ ring.toList = value :: ring.pop.2.toList := by
  by_cases he : ring.looksEmpty = true
  · have hheld : ring.refreshPushed.looksEmpty = false := by
      simp only [looksEmpty, refreshPushed, beq_eq_false_iff_ne, ne_eq]
      intro heq
      have hz : ring.size = 0 := Counter.lead_eq_zero_iff.mpr heq
      omega
    have hp := sound_advanceReader_vacate (sound_refreshPushed h) hheld
    simpa [pop, he, hheld] using hp
  · have he : ring.looksEmpty = false := by simpa using he
    have hp := sound_advanceReader_vacate h he
    simpa [pop, he] using hp

theorem sound_push {ring : Ring α} (value : α) (h : ring.Sound) : (ring.push value).2.Sound := by
  rcases Nat.lt_or_eq_of_le h.size_le with hr | hr
  · exact (push_of_room value h hr).2.1
  · rw [push_of_full value h hr]
    exact sound_refreshPopped h

theorem sound_pop {ring : Ring α} (h : ring.Sound) : ring.pop.2.Sound := by
  rcases Nat.eq_zero_or_pos ring.size with hs | hs
  · rw [pop_of_empty h hs]
    exact sound_refreshPushed h
  · exact (pop_of_held h hs).1

/-- A pop finds the front of the queue seen. -/
theorem pop_fst {ring : Ring α} (h : ring.Sound) : ring.pop.1 = ring.toList.head? := by
  rcases Nat.eq_zero_or_pos ring.size with hs | hs
  · rw [pop_of_empty h hs, List.eq_nil_of_length_eq_zero ((length_toList h).trans hs)]
    rfl
  · obtain ⟨_, value, hv, hl⟩ := pop_of_held h hs
    rw [hv, hl]
    rfl

/-- A pop leaves the rest of the queue seen. -/
theorem toList_pop {ring : Ring α} (h : ring.Sound)
    : ring.pop.2.toList = ring.toList.tail := by
  rcases Nat.eq_zero_or_pos ring.size with hs | hs
  · rw [pop_of_empty h hs, toList_refreshPushed,
      List.eq_nil_of_length_eq_zero ((length_toList h).trans hs)]
    rfl
  · obtain ⟨_, value, _, hl⟩ := pop_of_held h hs
    rw [hl]
    rfl

/-- Taking several values takes them from the front, as many as there are. -/
theorem popUpTo_eq (limit : Nat) {ring : Ring α} (h : ring.Sound)
    : (popUpTo limit ring).2.Sound
      ∧ (popUpTo limit ring).1 = ring.toList.take limit
      ∧ (popUpTo limit ring).2.toList = ring.toList.drop limit := by
  induction limit generalizing ring with
  | zero => exact ⟨h, rfl, rfl⟩
  | succ limit ih =>
      have hsound := sound_pop h
      have hfront := pop_fst h
      have hrest := toList_pop h
      rw [popUpTo, gather_succ]
      split
      · next next hp =>
          rw [hp] at hsound hfront hrest
          have hnil : ring.toList = [] := List.head?_eq_none_iff.mp hfront.symm
          rw [hnil] at hrest ⊢
          exact ⟨hsound, rfl, hrest⟩
      · next value next hp =>
          rw [hp] at hsound hfront hrest
          obtain ⟨rest, hl⟩ := List.head?_eq_some_iff.mp hfront.symm
          obtain ⟨hs, ht, hd⟩ := ih hsound
          rw [hl] at hrest ⊢
          rw [hrest] at ht hd
          exact ⟨hs, congrArg (value :: ·) ht, hd⟩

/-! ### Tearing down -/

/-- From an offset on, the walk of a teardown meets the same slots as the queue seen. -/
theorem gather_slots_eq {ring : Ring α} (h : ring.Sound) (count offset : Nat)
    (ho : offset + count = ring.size)
    : (gather (fun cursor => (ring.slotAt cursor, ring.after cursor)) count
          (ring.readPosition offset)).1
        = (List.range' offset count).filterMap fun offset =>
            ring.slotAt (ring.readPosition offset) := by
  induction count generalizing offset with
  | zero => rfl
  | succ count ih =>
      have hle := h.size_le
      obtain ⟨value, hv⟩ := Option.isSome_iff_exists.mp (h.filled offset (by omega))
      rw [gather_succ, List.range'_succ, List.filterMap_cons, hv,
        after_readPosition h.readAt_lt (by omega)]
      exact congrArg (value :: ·) (ih (offset + 1) (by omega))

/-- Tearing a ring down gives up what is held, oldest first. -/
theorem release_eq_toList {ring : Ring α} (h : ring.Sound) : ring.release = ring.toList := by
  have hwalk := gather_slots_eq h ring.size 0 (Nat.zero_add _)
  rw [readPosition_zero h.readAt_lt] at hwalk
  rw [release, hwalk, toList, List.range_eq_range']

end Crossbar.Ring
