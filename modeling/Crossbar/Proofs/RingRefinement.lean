import Crossbar.Proofs.RingTotals
import Crossbar.Ring.Exchange

/-! A ring used one call at a time is a bounded queue, whatever its capacity and wherever its
totals begin. The queue is a list without cursors, totals or old copies. One call on a sound ring
is one call on the list, and the induction over the calls carries this to every run.
-/

namespace Crossbar

variable {α : Type}

/-- A call on a queue, made and answered in one piece. -/
inductive Call (α : Type) where
  | push (value : α)
  | pop
deriving Repr, DecidableEq

namespace Answer

/-- A push that took its value. -/
def isAccepted : Answer α → Bool
  | .pushed .accepted => true
  | _ => false

/-- A pop that returned a value. -/
def isTaken : Answer α → Bool
  | .popped (some _) => true
  | _ => false

end Answer

namespace BoundedQueue

/-- One call on a queue that holds at most `capacity` values, oldest first. -/
def call (capacity : Nat) (queue : List α) : Call α → Answer α × List α
  | .push value =>
      if queue.length < capacity then
        (.pushed .accepted, queue ++ [value])
      else
        (.pushed (.rejected value), queue)
  | .pop => (.popped queue.head?, queue.tail)

/-- The answers of a sequence of calls, and the queue that they leave. -/
def run (capacity : Nat) : List (Call α) → List α → List (Answer α) × List α
  | [], queue => ([], queue)
  | next :: rest, queue =>
      let (answer, queue) := call capacity queue next
      let (answers, queue) := run capacity rest queue
      (answer :: answers, queue)

end BoundedQueue

namespace Ring

/-- One call on a ring. -/
def call (ring : Ring α) : Call α → Answer α × Ring α
  | .push value =>
      let (offer, ring) := ring.push value
      (.pushed offer, ring)
  | .pop =>
      let (value, ring) := ring.pop
      (.popped value, ring)

/-- The answers of a sequence of calls, and the ring that they leave. -/
def run : List (Call α) → Ring α → List (Answer α) × Ring α
  | [], ring => ([], ring)
  | next :: rest, ring =>
      let (answer, ring) := ring.call next
      let (answers, ring) := run rest ring
      (answer :: answers, ring)

/-- The loop that tears a ring down. It stands at a total and a cursor, ends where its total meets
the writer's, and otherwise gives up the value under its cursor, which has to be there.
-/
inductive Unloads (ring : Ring α) : Counter → Nat → List α → Prop where
  | finished {cursor : Nat}
    : ring.Unloads ring.pushed cursor []
  | gaveUp {total : Counter} {cursor : Nat} {value : α} {rest : List α}
    (short : total ≠ ring.pushed)
    (full : ring.slotAt cursor = some value)
    (onward : ring.Unloads (total + 1) (ring.after cursor) rest)
    : ring.Unloads total cursor (value :: rest)

-----------------------------------------------------------------------------------------
-- What a call does to the totals and slots
-----------------------------------------------------------------------------------------

theorem pushed_pop (ring : Ring α) : ring.pop.2.pushed = ring.pushed := by
  simp only [pop]
  split
  · split <;> rfl
  · rfl

/-- A push that takes its value stores it under the writer's cursor, touches no other slot and
moves the writer's total by one.
-/
theorem push_stores {ring : Ring α} (value : α) (taken : (ring.push value).1 = .accepted)
    : (ring.push value).2.slots = ring.slots.setIfInBounds ring.writeAt (some value)
      ∧ (ring.push value).2.pushed = ring.pushed + 1 := by
  revert taken
  simp only [push]
  split
  · split
    · simp
    · exact fun _ => ⟨rfl, rfl⟩
  · exact fun _ => ⟨rfl, rfl⟩

/-- A pop that returns a value reads it under the reader's cursor, leaves that slot empty and
touches no other one.
-/
theorem pop_reads {ring : Ring α} {value : α} (taken : ring.pop.1 = some value)
    : ring.slotAt ring.readAt = some value
      ∧ ring.pop.2.slots = ring.slots.setIfInBounds ring.readAt none := by
  revert taken
  simp only [pop]
  split
  · split
    · simp
    · exact fun taken => ⟨taken, rfl⟩
  · exact fun taken => ⟨taken, rfl⟩

/-- A call on a sound ring is a call on the queue that it holds, and the totals move with the
answers.
-/
theorem call_eq {ring : Ring α} (sound : ring.Sound) (next : Call α)
    : (ring.call next).1 = (BoundedQueue.call ring.capacity ring.toList next).1
      ∧ (ring.call next).2.toList = (BoundedQueue.call ring.capacity ring.toList next).2
      ∧ (ring.call next).2.Sound
      ∧ (ring.call next).2.capacity = ring.capacity
      ∧ (ring.call next).2.pushed
          = ring.pushed + UInt64.ofNat (ring.call next).1.isAccepted.toNat
      ∧ (ring.call next).2.popped
          = ring.popped + UInt64.ofNat (ring.call next).1.isTaken.toNat := by
  have hlength := length_toList sound
  cases next with
  | push value =>
      simp only [call, BoundedQueue.call, hlength]
      rcases Nat.lt_or_eq_of_le sound.size_le with hroom | hfull
      · obtain ⟨htaken, hsound, hlist⟩ := push_of_room value sound hroom
        have hmoved := (push_stores value htaken).2
        rw [if_pos hroom, htaken]
        refine ⟨rfl, hlist, hsound, capacity_push ring value, hmoved, ?_⟩
        exact (popped_push ring value).trans (UInt64.add_zero _).symm
      · rw [if_neg (by omega), push_of_full value sound hfull]
        refine ⟨rfl, rfl, sound_refreshPopped sound, rfl, ?_, ?_⟩
        · exact (UInt64.add_zero _).symm
        · exact (UInt64.add_zero _).symm
  | pop =>
      refine ⟨congrArg Answer.popped (pop_fst sound), toList_pop sound, sound_pop sound,
        capacity_pop ring, ?_, ?_⟩
      · exact (pushed_pop ring).trans (UInt64.add_zero _).symm
      · have hcount : ring.pop.1.toList.length = (ring.call .pop).1.isTaken.toNat := by
          simp only [call]
          cases ring.pop.1 <;> rfl
        rw [← hcount]
        exact popped_pop sound

-----------------------------------------------------------------------------------------
-- Runs
-----------------------------------------------------------------------------------------

/-- What a run makes of a sound ring: the answers are those of the queue, the ring holds what the
queue holds, and the totals have moved by the number of values that went in and came out.
-/
structure Tracks (calls : List (Call α)) (ring : Ring α) : Prop where
  answers : (run calls ring).1 = (BoundedQueue.run ring.capacity calls ring.toList).1
  contents : (run calls ring).2.toList = (BoundedQueue.run ring.capacity calls ring.toList).2
  sound : (run calls ring).2.Sound
  capacity_eq : (run calls ring).2.capacity = ring.capacity
  pushed_eq
    : (run calls ring).2.pushed
        = ring.pushed + UInt64.ofNat ((run calls ring).1.countP Answer.isAccepted)
  popped_eq
    : (run calls ring).2.popped
        = ring.popped + UInt64.ofNat ((run calls ring).1.countP Answer.isTaken)

/-- Counting one more answer moves a total by what that answer counts for. -/
theorem add_ofNat_countP_cons (total : Counter) (counts : Answer α → Bool) (answer : Answer α)
    (answers : List (Answer α))
    : total + UInt64.ofNat ((answer :: answers).countP counts)
        = total + UInt64.ofNat (counts answer).toNat
          + UInt64.ofNat (answers.countP counts) := by
  rw [UInt64.add_assoc, ← UInt64.ofNat_add, List.countP_cons, Nat.add_comm]
  cases counts answer <;> rfl

theorem tracks_of_sound (calls : List (Call α)) {ring : Ring α} (sound : ring.Sound)
    : ring.Tracks calls := by
  induction calls generalizing ring with
  | nil =>
      exact {
        answers := rfl
        contents := rfl
        sound := sound
        capacity_eq := rfl
        pushed_eq := (UInt64.add_zero _).symm
        popped_eq := (UInt64.add_zero _).symm
      }
  | cons next rest ih =>
      obtain ⟨hanswer, hlist, hsound, hcapacity, hpushed, hpopped⟩ := call_eq sound next
      have hrest := ih hsound
      exact {
        answers := by
          have h := hrest.answers
          rw [hcapacity, hlist] at h
          simp only [run, BoundedQueue.run, hanswer, h]
        contents := by
          have h := hrest.contents
          rw [hcapacity, hlist] at h
          exact h
        sound := hrest.sound
        capacity_eq := hrest.capacity_eq.trans hcapacity
        pushed_eq := by
          have h := hrest.pushed_eq
          rw [hpushed] at h
          exact h.trans (add_ofNat_countP_cons _ _ _ _).symm
        popped_eq := by
          have h := hrest.popped_eq
          rw [hpopped] at h
          exact h.trans (add_ofNat_countP_cons _ _ _ _).symm
      }

-----------------------------------------------------------------------------------------
-- Where the values stand
-----------------------------------------------------------------------------------------

/-- A value held stands as many slots past the reader's cursor as there are older ones. -/
theorem slotAt_readPosition {ring : Ring α} (sound : ring.Sound) {offset : Nat} {value : α}
    (found : ring.toList[offset]? = some value)
    : ring.slotAt (ring.readPosition offset) = some value := by
  have hheld : ∀ count, count ≤ ring.size →
      (((List.range count).filterMap fun offset => ring.slotAt (ring.readPosition offset)).map some
        = (List.range count).map fun offset => ring.slotAt (ring.readPosition offset)) := by
    intro count hc
    induction count with
    | zero => rfl
    | succ count ih =>
        obtain ⟨last, hl⟩ := Option.isSome_iff_exists.mp (sound.filled count (by omega))
        rw [List.range_succ, List.filterMap_append, List.map_append, List.map_append,
          ih (by omega)]
        simp [hl]
  have hlist := congrArg (·[offset]?) (hheld ring.size (Nat.le_refl _))
  have hlt : offset < ring.size := by
    rw [← length_toList sound]
    exact (List.getElem?_eq_some_iff.mp found).1
  simp only [List.getElem?_map, List.getElem?_range hlt, Option.map_some] at hlist
  rw [← toList, found] at hlist
  exact (Option.some.inj hlist).symm

/-- While there is room, the writer's cursor is at none of the values held. -/
theorem readPosition_ne_writeAt {ring : Ring α} (sound : ring.Sound)
    (room : ring.size < ring.capacity) {offset : Nat} (within : offset < ring.size)
    : ring.readPosition offset ≠ ring.writeAt := by
  intro heq
  rw [sound.writeAt_eq] at heq
  have := readPosition_inj sound.readAt_lt (by omega) room heq
  omega

theorem writeAt_lt {ring : Ring α} (sound : ring.Sound) : ring.writeAt < ring.capacity := by
  rw [sound.writeAt_eq]
  exact readPosition_lt _ sound.capacity_pos

-----------------------------------------------------------------------------------------
-- Tearing down
-----------------------------------------------------------------------------------------

/-- Fewer steps than there are values held leave the reader's total short of the writer's,
wherever the two have wrapped, because the distance is less than 2^64.
-/
theorem popped_add_ne {ring : Ring α} {offset : Nat} (within : offset < ring.size)
    : ring.popped + UInt64.ofNat offset ≠ ring.pushed := by
  intro heq
  have hlt : ring.size < 0x10000000000000000 := Counter.lead_lt _ _
  have hsize : ring.size = offset := by
    rw [size, ← heq, Counter.lead, UInt64.add_comm, UInt64.add_sub_cancel,
      UInt64.toNat_ofNat_of_lt' (Nat.lt_trans within hlt)]
  omega

/-- From an offset on, the teardown gives up the values held there and then stops. -/
theorem unloads_from {ring : Ring α} (sound : ring.Sound) (count offset : Nat)
    (rest : offset + count = ring.size)
    : ring.Unloads (ring.popped + UInt64.ofNat offset) (ring.readPosition offset)
        ((List.range' offset count).filterMap fun offset =>
          ring.slotAt (ring.readPosition offset)) := by
  induction count generalizing offset with
  | zero =>
      obtain rfl : offset = ring.size := rest
      rw [← pushed_eq]
      exact .finished
  | succ count ih =>
      have hle := sound.size_le
      obtain ⟨value, hv⟩ := Option.isSome_iff_exists.mp (sound.filled offset (by omega))
      have hnext := ih (offset + 1) (by omega)
      rw [List.range'_succ, List.filterMap_cons, hv]
      refine .gaveUp (popped_add_ne (by omega)) hv ?_
      rw [after_readPosition sound.readAt_lt (by omega), UInt64.add_assoc]
      rwa [UInt64.ofNat_add] at hnext

/-- The teardown leaves no choice. -/
theorem Unloads.unique {ring : Ring α} {total : Counter} {cursor : Nat} {first second : List α}
    (one : ring.Unloads total cursor first) (other : ring.Unloads total cursor second)
    : first = second := by
  induction one generalizing second with
  | finished =>
      cases other with
      | finished => rfl
      | gaveUp short _ _ => exact absurd rfl short
  | gaveUp short full _ ih =>
      cases other with
      | finished => exact absurd rfl short
      | gaveUp _ again onward =>
          obtain rfl := Option.some.inj (full.symm.trans again)
          rw [ih onward]

/-- The teardown of a sound ring comes to an end and gives up exactly what is held. -/
theorem unloads_iff {ring : Ring α} (sound : ring.Sound) (given : List α)
    : ring.Unloads ring.popped ring.readAt given ↔ given = ring.toList := by
  have hwhole := unloads_from sound ring.size 0 (Nat.zero_add _)
  rw [readPosition_zero sound.readAt_lt, ← List.range_eq_range', ← toList] at hwhole
  have hwhole : ring.Unloads ring.popped ring.readAt ring.toList := by
    simpa using hwhole
  constructor
  · intro hgiven
    exact hgiven.unique hwhole
  · rintro rfl
    exact hwhole

-----------------------------------------------------------------------------------------
-- The refinement
-----------------------------------------------------------------------------------------

/-- A ring stands for a queue: it holds the same values, its cursors stay within its slots, and
whatever is called next does to the ring what it does to the queue.
-/
structure StandsFor (capacity : Nat) (ring : Ring α) (queue : List α) : Prop where
  contents : ring.toList = queue
  writeAt_lt : ring.writeAt < capacity
  readAt_lt : ring.readAt < capacity
  slots_size : ring.slots.size = capacity
  /-- Every value held stands in a slot of its own, counted from the reader's cursor. -/
  placed
    : ∀ index value,
        queue[index]? = some value
        → ring.slotAt ((ring.readAt + index) % capacity) = some value
  push_accepted : ∀ value, (ring.push value).1 = .accepted ↔ queue.length < capacity
  /-- A push that is taken writes where no value is waiting. -/
  push_writes
    : ∀ value,
        queue.length < capacity
        → ring.slotAt ring.writeAt = none
          ∧ (∀ index < queue.length, (ring.readAt + index) % capacity ≠ ring.writeAt)
          ∧ (ring.push value).2.slots = ring.slots.setIfInBounds ring.writeAt (some value)
  /-- A refused push hands the same value back and changes nothing that is seen. -/
  push_refused
    : ∀ value,
        capacity ≤ queue.length
        → (ring.push value).1 = .rejected value
          ∧ (ring.push value).2 = { ring with seenPopped := ring.popped }
  pop_answer : ring.pop.1 = queue.head?
  /-- A pop that takes a value reads a slot that holds it. -/
  pop_reads
    : ∀ value,
        queue.head? = some value
        → ring.slotAt ring.readAt = some value
          ∧ ring.pop.2.slots = ring.slots.setIfInBounds ring.readAt none
  pop_idle
    : queue = []
      → ring.pop = (none, { ring with seenPushed := ring.pushed })
  /-- The teardown loop ends, and gives up exactly the values held, oldest first. -/
  unloads : ∀ given, ring.Unloads ring.popped ring.readAt given ↔ given = queue
  release : ring.release = queue

theorem standsFor_of_sound {ring : Ring α} (sound : ring.Sound)
    : ring.StandsFor ring.capacity ring.toList := by
  have hlength := length_toList sound
  have hle := sound.size_le
  have hroom (value : α) (h : ring.size < ring.capacity)
      : (ring.push value).1 = .accepted :=
    (push_of_room value sound h).1
  exact {
    contents := rfl
    writeAt_lt := writeAt_lt sound
    readAt_lt := sound.readAt_lt
    slots_size := sound.slots_size
    placed := fun index value found => slotAt_readPosition sound found
    push_accepted := by
      intro value
      rw [hlength]
      constructor
      · intro htaken
        rcases Nat.lt_or_eq_of_le hle with h | hfull
        · exact h
        · rw [push_of_full value sound hfull] at htaken
          cases htaken
      · exact hroom value
    push_writes := by
      intro value h
      rw [hlength] at h ⊢
      have hvacant := sound.vacant ring.size (Nat.le_refl _) h
      rw [← sound.writeAt_eq] at hvacant
      refine ⟨hvacant, ?_, (push_stores value (hroom value h)).1⟩
      intro index hi
      exact readPosition_ne_writeAt sound h hi
    push_refused := by
      intro value h
      rw [push_of_full value sound (by omega)]
      exact ⟨rfl, rfl⟩
    pop_answer := pop_fst sound
    pop_reads := by
      intro value h
      exact pop_reads ((pop_fst sound).trans h)
    pop_idle := by
      intro h
      rw [h] at hlength
      exact pop_of_empty sound hlength.symm
    unloads := unloads_iff sound
    release := release_eq_toList sound
  }

/-- A ring refines a bounded queue, for every capacity, every start of its totals and every
sequence of calls. Each call is answered as the queue answers it, the totals have moved by the
values that went in and came out, and at every point the ring stands for the queue.
-/
theorem refines_bounded_queue (capacity : Nat) (start : Counter) (calls : List (Call α))
    (positive : 0 < capacity) (fits : capacity < 0x10000000000000000)
    : let outcome := (Ring.empty capacity start).run calls
      let expected := BoundedQueue.run capacity calls []
      outcome.1 = expected.1
      ∧ outcome.2.StandsFor capacity expected.2
      ∧ outcome.2.pushed = start + UInt64.ofNat (outcome.1.countP Answer.isAccepted)
      ∧ outcome.2.popped = start + UInt64.ofNat (outcome.1.countP Answer.isTaken) := by
  have htracks : (Ring.empty capacity start : Ring α).Tracks calls :=
    tracks_of_sound calls (sound_empty start positive fits)
  have hanswers := htracks.answers
  have hstands := standsFor_of_sound htracks.sound
  rw [toList_empty] at hanswers
  rw [htracks.capacity_eq, htracks.contents, toList_empty] at hstands
  exact ⟨hanswers, hstands, htracks.pushed_eq, htracks.popped_eq⟩

/-- Three slots and totals that wrap with the third value: the fourth push is refused, and what is
left at the end is given up although the writer's total has wrapped and the reader's has not.
-/
theorem refines_bounded_queue_wrapping
    : let calls : List (Call Nat) := [.push 1, .push 2, .push 3, .push 4, .pop, .push 5, .pop]
      let outcome := (Ring.empty 3 0xFFFFFFFFFFFFFFFD).run calls
      outcome.1
        = [.pushed .accepted, .pushed .accepted, .pushed .accepted, .pushed (.rejected 4),
            .popped (some 1), .pushed .accepted, .popped (some 2)]
      ∧ outcome.2.Unloads outcome.2.popped outcome.2.readAt [3, 5]
      ∧ outcome.2.pushed = 1
      ∧ outcome.2.popped = 0xFFFFFFFFFFFFFFFF := by
  intro calls outcome
  obtain ⟨hanswers, hstands, hpushed, hpopped⟩ :=
    refines_bounded_queue 3 0xFFFFFFFFFFFFFFFD calls (by decide) (by decide)
  rw [hanswers] at hpushed hpopped
  exact ⟨hanswers, (hstands.unloads [3, 5]).mpr rfl, hpushed.trans (by decide),
    hpopped.trans (by decide)⟩

end Ring

end Crossbar
