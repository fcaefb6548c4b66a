import Crossbar.Proofs.RingRefinement

/-! Two parties that share a ring do not disturb each other, however their single accesses fall
between one another. An observer counts what has been published, read and given back. The
invariant says for each place that a party can have reached what its end of the ring looks like
there, and an access of one party keeps what it says of the other.
-/

namespace Crossbar

variable {α : Type}

namespace Counter

/-- Two totals counted from one start are as far apart as their counts. -/
theorem lead_add_ofNat {start : Counter} {ahead behind : Nat} (order : behind ≤ ahead)
    (near : ahead < behind + 0x10000000000000000)
    : lead (start + UInt64.ofNat ahead) (start + UInt64.ofNat behind) = ahead - behind := by
  have hs := UInt64.toNat_lt start
  simp only [lead, UInt64.toNat_sub, UInt64.toNat_add, UInt64.toNat_ofNat']
  omega

theorem add_ofNat_succ (start : Counter) (count : Nat)
    : start + UInt64.ofNat (count + 1) = start + UInt64.ofNat count + 1 := by
  rw [UInt64.ofNat_add, ← UInt64.add_assoc]
  rfl

end Counter

/-- Indices less than one lap apart fall on different slots. -/
theorem mod_ne_of_within_lap {first second capacity : Nat} (order : first < second)
    (within : second < first + capacity)
    : first % capacity ≠ second % capacity := by
  intro heq
  have hzero := Nat.sub_mod_eq_zero_of_mod_eq heq.symm
  rw [Nat.mod_eq_of_lt (by omega)] at hzero
  omega

/-- The slot of the next index is the one after the slot of this index. -/
theorem Ring.after_mod {ring : Ring α} (positive : 0 < ring.capacity) (index : Nat)
    : ring.after (index % ring.capacity) = (index + 1) % ring.capacity := by
  have hlt := Nat.mod_lt index positive
  rw [Ring.after_eq hlt, ← Nat.mod_add_mod]
  split
  · exact (Nat.mod_eq_of_lt ‹_›).symm
  · have hlast : index % ring.capacity + 1 = ring.capacity := by omega
    rw [hlast, Nat.mod_self]

/-- What a completed pop returned, if it returned a value. -/
def Answer.value? : Answer α → Option α
  | .popped value => value
  | .pushed _ => none

/-- The accesses that complete a call, each with its answer and with what the party stands before
when it makes the access.
-/
inductive Exchange.Completes (shared : Exchange α) : Access α → Answer α → Prop where
  | accepted (next : α)
    (phase : shared.writer = .publishing)
    : shared.Completes (.writer next) (.pushed .accepted)
  | rejected (next : α) {held : α}
    (phase : shared.writer = .looking held)
    (full : shared.ring.refreshPopped.looksFull = true)
    : shared.Completes (.writer next) (.pushed (.rejected held))
  | nothing
    (phase : shared.reader = .looking)
    (empty : shared.ring.refreshPushed.looksEmpty = true)
    : shared.Completes .reader (.popped none)
  | returned {value : Option α}
    (phase : shared.reader = .advancing value)
    : shared.Completes .reader (.popped value)

/-- An answer tells which access has been made. -/
theorem Exchange.completes_of_answer {shared : Exchange α} {access : Access α}
    {answer : Answer α} (given : (shared.step access).1 = some answer)
    : shared.Completes access answer := by
  cases access with
  | writer next =>
      cases phase : shared.writer with
      | ready => cases hf : shared.ring.looksFull <;> simp [step, writerStep, phase, hf] at given
      | storing held => simp [step, writerStep, phase] at given
      | looking held =>
          cases full : shared.ring.refreshPopped.looksFull with
          | true =>
              obtain rfl : Answer.pushed (.rejected held) = answer := by
                simpa [step, writerStep, phase, full] using given
              exact .rejected next phase full
          | false => simp [step, writerStep, phase, full] at given
      | publishing =>
          obtain rfl : Answer.pushed .accepted = answer := by
            simpa [step, writerStep, phase] using given
          exact .accepted next phase
  | reader =>
      cases phase : shared.reader with
      | ready => cases he : shared.ring.looksEmpty <;> simp [step, readerStep, phase, he] at given
      | taking | publishing value => simp [step, readerStep, phase] at given
      | looking =>
          cases empty : shared.ring.refreshPushed.looksEmpty with
          | true =>
              obtain rfl : Answer.popped none = answer := by
                simpa [step, readerStep, phase, empty] using given
              exact .nothing phase empty
          | false => simp [step, readerStep, phase, empty] at given
      | advancing value =>
          obtain rfl : Answer.popped value = answer := by
            simpa [step, readerStep, phase] using given
          exact .returned phase

/-- An exchange under observation. The counts are those of an observer who sees every access; no
party reads them.
-/
structure Watch (α : Type) where
  shared : Exchange α
  /-- The value of the push that the writer began last. -/
  offered : Option α
  /-- The values published, in the order of publication. -/
  published : List α
  /-- How many values have been given back when the writer last looked. -/
  sawTaken : Nat
  /-- How many slots the reader has read. -/
  read : Nat
  /-- How many slots the reader has given back. -/
  taken : Nat
  /-- How many values had been published when the reader last looked. -/
  sawPublished : Nat
  /-- The answers of the calls completed. -/
  answers : List (Answer α)

namespace Watch

def start (ring : Ring α) : Watch α where
  shared := .start ring
  offered := none
  published := []
  sawTaken := 0
  read := 0
  taken := 0
  sawPublished := 0
  answers := []

/-- What the observer notes when the writer makes an access from the phase it stands in. -/
def noteWriter (watch : Watch α) (value : α) : WriterPhase α → Watch α
  | .ready => { watch with offered := some value }
  | .looking _ => { watch with sawTaken := watch.taken }
  | .storing _ => watch
  | .publishing => { watch with published := watch.published ++ watch.offered.toList }

/-- What the observer notes when the reader makes an access from the phase it stands in. -/
def noteReader (watch : Watch α) : ReaderPhase α → Watch α
  | .ready => watch
  | .looking => { watch with sawPublished := watch.published.length }
  | .taking => { watch with read := watch.read + 1 }
  | .publishing _ => { watch with taken := watch.taken + 1 }
  | .advancing _ => watch

/-- One access of either party, observed. -/
def step (watch : Watch α) (access : Access α) : Watch α :=
  let outcome := watch.shared.step access
  let noted :=
    match access with
    | .writer value => watch.noteWriter value watch.shared.writer
    | .reader => watch.noteReader watch.shared.reader
  { noted with
    shared := outcome.2
    answers := watch.answers ++ outcome.1.toList }

/-- A sequence of accesses, observed. -/
def run : List (Access α) → Watch α → Watch α
  | [], watch => watch
  | access :: rest, watch => run rest (watch.step access)

/-- The values that completed pops have returned, in order. -/
def returned (watch : Watch α) : List α :=
  watch.answers.filterMap Answer.value?

/-- The writer's old copy of the reader's total is brought up to date. -/
def lookTaken (watch : Watch α) : Watch α :=
  { watch with
    sawTaken := watch.taken
    shared := { watch.shared with ring := watch.shared.ring.refreshPopped } }

/-- The reader's old copy of the writer's total is brought up to date. -/
def lookPublished (watch : Watch α) : Watch α :=
  { watch with
    sawPublished := watch.published.length
    shared := { watch.shared with ring := watch.shared.ring.refreshPushed } }

/-- Watching changes nothing: the exchange and the answers are those of the run itself. -/
theorem run_eq (accesses : List (Access α)) (watch : Watch α)
    : (run accesses watch).shared = (Exchange.run accesses watch.shared).2
      ∧ (run accesses watch).answers
          = watch.answers ++ (Exchange.run accesses watch.shared).1 := by
  induction accesses generalizing watch with
  | nil => exact ⟨rfl, (List.append_nil _).symm⟩
  | cons access rest ih =>
      obtain ⟨hshared, hanswers⟩ := ih (watch.step access)
      refine ⟨hshared, hanswers.trans ?_⟩
      simp [step, Exchange.run]

-----------------------------------------------------------------------------------------
-- The invariant
-----------------------------------------------------------------------------------------

/-- The writer's end of the ring, by where the writer stands. Only between the store and the
publication is its cursor one slot further than what is published.
-/
def WriterStands (watch : Watch α) : Prop :=
  let ring := watch.shared.ring
  let next := watch.published.length
  match watch.shared.writer with
  | .ready => ring.writeAt = next % ring.capacity
  | .looking value => ring.writeAt = next % ring.capacity ∧ watch.offered = some value
  | .storing value =>
      ring.writeAt = next % ring.capacity
      ∧ watch.offered = some value
      ∧ next < watch.sawTaken + ring.capacity
  | .publishing =>
      ring.writeAt = (next + 1) % ring.capacity
      ∧ next < watch.sawTaken + ring.capacity
      ∧ ∃ value, watch.offered = some value ∧ ring.slotAt (next % ring.capacity) = some value

/-- The reader's end of the ring, by where the reader stands. Between the read and the return the
value read is on its way: first its slot is not given back, then the cursor is one slot behind.
-/
def ReaderStands (watch : Watch α) : Prop :=
  let ring := watch.shared.ring
  match watch.shared.reader with
  | .ready | .looking =>
      watch.read = watch.taken
      ∧ ring.readAt = watch.taken % ring.capacity
      ∧ watch.returned = watch.published.take watch.taken
  | .taking =>
      watch.read = watch.taken
      ∧ ring.readAt = watch.taken % ring.capacity
      ∧ watch.returned = watch.published.take watch.taken
      ∧ watch.taken < watch.sawPublished
  | .publishing value =>
      watch.read = watch.taken + 1
      ∧ ring.readAt = watch.taken % ring.capacity
      ∧ watch.returned = watch.published.take watch.taken
      ∧ watch.taken < watch.sawPublished
      ∧ value = watch.published[watch.taken]?
  | .advancing value =>
      watch.read = watch.taken
      ∧ ∃ before,
          watch.taken = before + 1
          ∧ ring.readAt = before % ring.capacity
          ∧ watch.returned = watch.published.take before
          ∧ value = watch.published[before]?

/-- The totals are the counts, each end's old copy is an earlier count, every value published and
not yet read stands in its slot, and both parties stand where their phases say.
-/
structure Consistent (start : Counter) (watch : Watch α) : Prop where
  positive : 0 < watch.shared.ring.capacity
  fits : watch.shared.ring.capacity < 0x10000000000000000
  slots_size : watch.shared.ring.slots.size = watch.shared.ring.capacity
  pushed_eq : watch.shared.ring.pushed = start + UInt64.ofNat watch.published.length
  popped_eq : watch.shared.ring.popped = start + UInt64.ofNat watch.taken
  seenPopped_eq : watch.shared.ring.seenPopped = start + UInt64.ofNat watch.sawTaken
  seenPushed_eq : watch.shared.ring.seenPushed = start + UInt64.ofNat watch.sawPublished
  sawTaken_le : watch.sawTaken ≤ watch.taken
  published_le : watch.published.length ≤ watch.sawTaken + watch.shared.ring.capacity
  taken_le : watch.taken ≤ watch.sawPublished
  sawPublished_le : watch.sawPublished ≤ watch.published.length
  standing
    : ∀ index value,
        watch.read ≤ index
        → watch.published[index]? = some value
        → watch.shared.ring.slotAt (index % watch.shared.ring.capacity) = some value
  writer : watch.WriterStands
  reader : watch.ReaderStands

variable {start : Counter} {watch : Watch α}

theorem consistent_start {capacity : Nat} (start : Counter) (positive : 0 < capacity)
    (fits : capacity < 0x10000000000000000)
    : (Watch.start (.empty capacity start) : Watch α).Consistent start where
  positive := positive
  fits := fits
  slots_size := Array.size_replicate
  pushed_eq := (UInt64.add_zero start).symm
  popped_eq := (UInt64.add_zero start).symm
  seenPopped_eq := (UInt64.add_zero start).symm
  seenPushed_eq := (UInt64.add_zero start).symm
  sawTaken_le := Nat.le_refl 0
  published_le := Nat.zero_le _
  taken_le := Nat.le_refl 0
  sawPublished_le := Nat.le_refl 0
  standing := by simp [Watch.start]
  writer := (Nat.zero_mod capacity).symm
  reader := ⟨rfl, (Nat.zero_mod capacity).symm, rfl⟩

namespace Consistent

/-- The writer finds no room exactly when a whole lap is published past what it saw given back. -/
theorem looksFull_iff (consistent : watch.Consistent start)
    : watch.shared.ring.looksFull = true
      ↔ watch.published.length = watch.sawTaken + watch.shared.ring.capacity := by
  have hle := consistent.published_le
  have hfits := consistent.fits
  have hsaw := consistent.sawTaken_le
  have htaken := consistent.taken_le
  have hpublished := consistent.sawPublished_le
  rw [Ring.looksFull, decide_eq_true_eq, consistent.pushed_eq, consistent.seenPopped_eq,
    Counter.lead_add_ofNat (by omega) (by omega)]
  omega

/-- The reader finds nothing exactly when it has given back all that it saw published. -/
theorem looksEmpty_iff (consistent : watch.Consistent start)
    : watch.shared.ring.looksEmpty = true ↔ watch.sawPublished = watch.taken := by
  have hle := consistent.published_le
  have hfits := consistent.fits
  have hsaw := consistent.sawTaken_le
  have htaken := consistent.taken_le
  have hpublished := consistent.sawPublished_le
  rw [Ring.looksEmpty, beq_iff_eq, ← Counter.lead_eq_zero_iff, consistent.popped_eq,
    consistent.seenPushed_eq, Counter.lead_add_ofNat htaken (by omega)]
  omega

/-- What has been read is at most one slot ahead of what has been given back. -/
theorem taken_le_read (consistent : watch.Consistent start)
    : watch.taken ≤ watch.read := by
  have hreader := consistent.reader
  unfold ReaderStands at hreader
  split at hreader <;> omega

/-- The value offered stands at the next index's slot, out of the way of every value that the
reader has not given back.
-/
theorem apart_of_room (consistent : watch.Consistent start)
    (room : watch.published.length < watch.sawTaken + watch.shared.ring.capacity) {index : Nat}
    (late : watch.taken ≤ index) (early : index < watch.published.length)
    : index % watch.shared.ring.capacity
        ≠ watch.published.length % watch.shared.ring.capacity := by
  have hsaw := consistent.sawTaken_le
  exact mod_ne_of_within_lap early (by omega)

end Consistent

-----------------------------------------------------------------------------------------
-- What one party leaves of the other
-----------------------------------------------------------------------------------------

/-- An access of the writer: the reader's end stays as it is, and at most more is published. -/
structure LeavesReader (watch next : Watch α) : Prop where
  reader : next.shared.reader = watch.shared.reader
  capacity : next.shared.ring.capacity = watch.shared.ring.capacity
  readAt : next.shared.ring.readAt = watch.shared.ring.readAt
  read : next.read = watch.read
  taken : next.taken = watch.taken
  sawPublished : next.sawPublished = watch.sawPublished
  published : watch.published <+: next.published
  returned : next.returned = watch.returned

/-- An access that changes other fields only leaves the reader's end by the same equalities. -/
theorem LeavesReader.refl (watch : Watch α) : watch.LeavesReader watch :=
  ⟨rfl, rfl, rfl, rfl, rfl, rfl, List.prefix_refl _, rfl⟩

/-- An access of the reader: the writer's end stays as it is, and at most slots that the reader has
not given back are touched.
-/
structure LeavesWriter (watch next : Watch α) : Prop where
  writer : next.shared.writer = watch.shared.writer
  capacity : next.shared.ring.capacity = watch.shared.ring.capacity
  writeAt : next.shared.ring.writeAt = watch.shared.ring.writeAt
  offered : next.offered = watch.offered
  published : next.published = watch.published
  sawTaken : next.sawTaken = watch.sawTaken
  slot
    : watch.published.length < watch.sawTaken + watch.shared.ring.capacity
      → next.shared.ring.slotAt (watch.published.length % watch.shared.ring.capacity)
        = watch.shared.ring.slotAt (watch.published.length % watch.shared.ring.capacity)

theorem LeavesWriter.refl (watch : Watch α) : watch.LeavesWriter watch :=
  ⟨rfl, rfl, rfl, rfl, rfl, rfl, fun _ => rfl⟩

/-- The reader's facts speak of values published before, so more values do not change them. -/
theorem Consistent.reader_kept {next : Watch α} (consistent : watch.Consistent start)
    (left : watch.LeavesReader next)
    : next.ReaderStands := by
  have htaken := consistent.taken_le
  have hpublished := consistent.sawPublished_le
  have hstands := consistent.reader
  obtain ⟨more, hmore⟩ := left.published
  have htake {count : Nat} (h : count ≤ watch.published.length)
      : next.published.take count = watch.published.take count := by
    rw [← hmore, List.take_append_of_le_length h]
  have hget {index : Nat} (h : index < watch.published.length)
      : next.published[index]? = watch.published[index]? := by
    rw [← hmore, List.getElem?_append_left h]
  simp only [ReaderStands, left.reader, left.capacity, left.readAt, left.read, left.taken,
    left.sawPublished, left.returned] at hstands ⊢
  cases hr : watch.shared.reader with
  | ready | looking | taking =>
      rw [hr] at hstands
      rw [htake (by omega)]
      exact hstands
  | publishing value =>
      rw [hr] at hstands
      rw [htake (by omega), hget (by omega)]
      exact hstands
  | advancing value =>
      rw [hr] at hstands
      obtain ⟨hread, before, hbefore, hrest⟩ := hstands
      rw [← htake (by omega), ← hget (by omega)] at hrest
      exact ⟨hread, before, hbefore, hrest⟩

theorem Consistent.writer_kept {next : Watch α} (consistent : watch.Consistent start)
    (left : watch.LeavesWriter next)
    : next.WriterStands := by
  have hstands := consistent.writer
  simp only [WriterStands, left.writer, left.capacity, left.writeAt, left.offered,
    left.published, left.sawTaken] at hstands ⊢
  cases hw : watch.shared.writer with
  | ready | looking value | storing value =>
      rw [hw] at hstands
      exact hstands
  | publishing =>
      rw [hw] at hstands
      obtain ⟨hcursor, hroom, hstored⟩ := hstands
      rw [left.slot hroom]
      exact ⟨hcursor, hroom, hstored⟩

@[simp] theorem returned_pushed (watch : Watch α) (offer : Offer α)
    : (watch.answers ++ [Answer.pushed offer]).filterMap Answer.value? = watch.returned := by
  simp [returned, Answer.value?]

theorem returned_popped (watch : Watch α) (value : Option α)
    : (watch.answers ++ [Answer.popped value]).filterMap Answer.value?
        = watch.returned ++ value.toList := by
  cases value <;> simp [returned, Answer.value?]

-----------------------------------------------------------------------------------------
-- The writer's accesses
-----------------------------------------------------------------------------------------

namespace Consistent

theorem writer_ready (consistent : watch.Consistent start) (value : α)
    (phase : watch.shared.writer = .ready)
    : (watch.step (.writer value)).Consistent start := by
  have hstands := consistent.writer
  simp only [WriterStands, phase] at hstands
  cases hf : watch.shared.ring.looksFull with
  | true =>
      have hstep
          : watch.step (.writer value)
              = { watch with
                  offered := some value
                  shared := { watch.shared with writer := .looking value } } := by
        simp [step, noteWriter, Exchange.step, Exchange.writerStep, phase, hf]
      rw [hstep]
      exact { consistent with
        writer := ⟨hstands, rfl⟩
        reader := consistent.reader_kept { LeavesReader.refl watch with } }
  | false =>
      have hstep
          : watch.step (.writer value)
              = { watch with
                  offered := some value
                  shared := { watch.shared with writer := .storing value } } := by
        simp [step, noteWriter, Exchange.step, Exchange.writerStep, phase, hf]
      have hroom : watch.published.length < watch.sawTaken + watch.shared.ring.capacity := by
        have hle := consistent.published_le
        have hne := mt consistent.looksFull_iff.mpr (by simp [hf])
        omega
      rw [hstep]
      exact { consistent with
        writer := ⟨hstands, rfl, hroom⟩
        reader := consistent.reader_kept { LeavesReader.refl watch with } }

/-- Looking at the reader's total only brings the writer's old copy up to date. -/
theorem lookTaken (consistent : watch.Consistent start)
    : watch.lookTaken.Consistent start where
  positive := consistent.positive
  fits := consistent.fits
  slots_size := consistent.slots_size
  pushed_eq := consistent.pushed_eq
  popped_eq := consistent.popped_eq
  seenPopped_eq := consistent.popped_eq
  seenPushed_eq := consistent.seenPushed_eq
  sawTaken_le := Nat.le_refl _
  published_le := by
    have hsaw := consistent.sawTaken_le
    exact Nat.le_trans consistent.published_le (Nat.add_le_add_right hsaw _)
  taken_le := consistent.taken_le
  sawPublished_le := consistent.sawPublished_le
  standing := consistent.standing
  writer := by
    have hsaw := consistent.sawTaken_le
    have hstands := consistent.writer
    simp only [WriterStands, Watch.lookTaken, Ring.refreshPopped] at hstands ⊢
    cases hw : watch.shared.writer with
    | ready | looking value =>
        rw [hw] at hstands
        exact hstands
    | storing value =>
        rw [hw] at hstands
        exact ⟨hstands.1, hstands.2.1, by omega⟩
    | publishing =>
        rw [hw] at hstands
        exact ⟨hstands.1, by omega, hstands.2.2⟩
  reader := consistent.reader_kept { LeavesReader.refl watch with }

theorem writer_looking (consistent : watch.Consistent start) (value : α) {held : α}
    (phase : watch.shared.writer = .looking held)
    : (watch.step (.writer value)).Consistent start := by
  have hlooked := consistent.lookTaken
  have hstands := hlooked.writer
  have hle := hlooked.published_le
  have hlook : watch.lookTaken.shared.writer = .looking held := phase
  simp only [WriterStands, hlook] at hstands
  cases hf : watch.shared.ring.refreshPopped.looksFull with
  | true =>
      have hstep
          : watch.step (.writer value)
              = { watch.lookTaken with
                  answers := watch.answers ++ [.pushed (.rejected held)]
                  shared := { watch.lookTaken.shared with writer := .ready } } := by
        simp [step, noteWriter, Watch.lookTaken, Exchange.step, Exchange.writerStep, phase, hf]
      rw [hstep]
      exact { hlooked with
        writer := hstands.1
        reader := hlooked.reader_kept
          { LeavesReader.refl watch.lookTaken with
            returned := returned_pushed watch (.rejected held) } }
  | false =>
      have hstep
          : watch.step (.writer value)
              = { watch.lookTaken with
                  shared := { watch.lookTaken.shared with writer := .storing held } } := by
        simp [step, noteWriter, Watch.lookTaken, Exchange.step, Exchange.writerStep, phase, hf]
      have hne := mt hlooked.looksFull_iff.mpr (by simp [Watch.lookTaken, hf])
      rw [hstep]
      exact { hlooked with
        writer := ⟨hstands.1, hstands.2, Nat.lt_of_le_of_ne hle hne⟩
        reader := hlooked.reader_kept { LeavesReader.refl watch.lookTaken with } }

/-- The store fills the slot of the next index, which none of the values still to be read has. -/
theorem writer_storing (consistent : watch.Consistent start) (value : α) {held : α}
    (phase : watch.shared.writer = .storing held)
    : (watch.step (.writer value)).Consistent start := by
  have hstands := consistent.writer
  simp only [WriterStands, phase] at hstands
  obtain ⟨hcursor, hoffered, hroom⟩ := hstands
  have hwrite : watch.shared.ring.writeAt < watch.shared.ring.slots.size := by
    rw [hcursor, consistent.slots_size]
    exact Nat.mod_lt _ consistent.positive
  have hstep
      : watch.step (.writer value)
          = { watch with
              shared :=
                { watch.shared with
                  ring := watch.shared.ring.store held
                  writer := .publishing } } := by
    simp [step, noteWriter, Exchange.step, Exchange.writerStep, phase]
  rw [hstep]
  exact { consistent with
    slots_size := Array.size_setIfInBounds.trans consistent.slots_size
    standing := by
      intro index found late hfound
      have htaken := consistent.taken_le_read
      have hearly : index < watch.published.length := (List.getElem?_eq_some_iff.mp hfound).1
      have hapart := consistent.apart_of_room hroom (Nat.le_trans htaken late) hearly
      rw [← hcursor] at hapart
      refine (Ring.slotAt_store held _ hwrite).trans ?_
      exact (if_neg hapart).trans (consistent.standing index found late hfound)
    writer := by
      refine ⟨?_, hroom, held, hoffered, ?_⟩
      · change watch.shared.ring.after watch.shared.ring.writeAt = _
        rw [hcursor]
        exact Ring.after_mod consistent.positive _
      · refine (Ring.slotAt_store held _ hwrite).trans ?_
        exact if_pos hcursor.symm
    reader := consistent.reader_kept { LeavesReader.refl watch with } }

/-- The publication makes the value stored the newest of the values still to be read. -/
theorem writer_publishing (consistent : watch.Consistent start) (value : α)
    (phase : watch.shared.writer = .publishing)
    : (watch.step (.writer value)).Consistent start := by
  have hstands := consistent.writer
  simp only [WriterStands, phase] at hstands
  obtain ⟨hcursor, hroom, held, hoffered, hstored⟩ := hstands
  have hstep
      : watch.step (.writer value)
          = { watch with
              published := watch.published ++ [held]
              answers := watch.answers ++ [.pushed .accepted]
              shared :=
                { watch.shared with
                  ring := watch.shared.ring.publishPush
                  writer := .ready } } := by
    simp [step, noteWriter, Exchange.step, Exchange.writerStep, phase, hoffered]
  have hlength : (watch.published ++ [held]).length = watch.published.length + 1 :=
    List.length_append
  rw [hstep]
  exact { consistent with
    pushed_eq := by
      rw [hlength, Counter.add_ofNat_succ, ← consistent.pushed_eq]
      rfl
    published_le := by
      rw [hlength]
      exact hroom
    sawPublished_le := by
      rw [hlength]
      exact Nat.le_succ_of_le consistent.sawPublished_le
    standing := by
      intro index found late hfound
      rcases Nat.lt_or_ge index watch.published.length with hearly | hlast
      · rw [List.getElem?_append_left hearly] at hfound
        exact consistent.standing index found late hfound
      · have hlt : index < (watch.published ++ [held]).length :=
          (List.getElem?_eq_some_iff.mp hfound).1
        obtain rfl : index = watch.published.length :=
          Nat.le_antisymm (by omega) hlast
        simp only [List.getElem?_concat_length, Option.some.injEq] at hfound
        rw [← hfound]
        exact hstored
    writer := by
      change watch.shared.ring.writeAt = (watch.published ++ [held]).length % _
      rw [hlength]
      exact hcursor
    reader :=
      consistent.reader_kept
        { LeavesReader.refl watch with
          published := List.prefix_append _ _
          returned := returned_pushed watch .accepted } }

theorem writerStep (consistent : watch.Consistent start) (value : α)
    : (watch.step (.writer value)).Consistent start := by
  cases phase : watch.shared.writer with
  | ready => exact consistent.writer_ready value phase
  | looking held => exact consistent.writer_looking value phase
  | storing held => exact consistent.writer_storing value phase
  | publishing => exact consistent.writer_publishing value phase

-----------------------------------------------------------------------------------------
-- The reader's accesses
-----------------------------------------------------------------------------------------

theorem reader_ready (consistent : watch.Consistent start)
    (phase : watch.shared.reader = .ready)
    : (watch.step .reader).Consistent start := by
  have hstands := consistent.reader
  simp only [ReaderStands, phase] at hstands
  cases he : watch.shared.ring.looksEmpty with
  | true =>
      have hstep
          : watch.step .reader
              = { watch with shared := { watch.shared with reader := .looking } } := by
        simp [step, noteReader, Exchange.step, Exchange.readerStep, phase, he]
      rw [hstep]
      exact { consistent with
        writer := consistent.writer_kept { LeavesWriter.refl watch with }
        reader := hstands }
  | false =>
      have hstep
          : watch.step .reader
              = { watch with shared := { watch.shared with reader := .taking } } := by
        simp [step, noteReader, Exchange.step, Exchange.readerStep, phase, he]
      have hne := mt consistent.looksEmpty_iff.mpr (by simp [he])
      have hmore : watch.taken < watch.sawPublished :=
        Nat.lt_of_le_of_ne consistent.taken_le (Ne.symm hne)
      rw [hstep]
      exact { consistent with
        writer := consistent.writer_kept { LeavesWriter.refl watch with }
        reader := ⟨hstands.1, hstands.2.1, hstands.2.2, hmore⟩ }

/-- Looking at the writer's total only brings the reader's old copy up to date. -/
theorem lookPublished (consistent : watch.Consistent start)
    (phase : watch.shared.reader = .looking)
    : watch.lookPublished.Consistent start where
  positive := consistent.positive
  fits := consistent.fits
  slots_size := consistent.slots_size
  pushed_eq := consistent.pushed_eq
  popped_eq := consistent.popped_eq
  seenPopped_eq := consistent.seenPopped_eq
  seenPushed_eq := consistent.pushed_eq
  sawTaken_le := consistent.sawTaken_le
  published_le := consistent.published_le
  taken_le := Nat.le_trans consistent.taken_le consistent.sawPublished_le
  sawPublished_le := Nat.le_refl _
  standing := consistent.standing
  writer := consistent.writer_kept { LeavesWriter.refl watch with }
  reader := by
    have hstands := consistent.reader
    have hlook : watch.lookPublished.shared.reader = .looking := phase
    simp only [ReaderStands, phase] at hstands
    simp only [ReaderStands, hlook]
    exact hstands

theorem reader_looking (consistent : watch.Consistent start)
    (phase : watch.shared.reader = .looking)
    : (watch.step .reader).Consistent start := by
  have hlooked := consistent.lookPublished phase
  have hstands := hlooked.reader
  have hlook : watch.lookPublished.shared.reader = .looking := phase
  simp only [ReaderStands, hlook] at hstands
  cases he : watch.shared.ring.refreshPushed.looksEmpty with
  | true =>
      have hstep
          : watch.step .reader
              = { watch.lookPublished with
                  answers := watch.answers ++ [.popped none]
                  shared := { watch.lookPublished.shared with reader := .ready } } := by
        simp [step, noteReader, Watch.lookPublished, Exchange.step, Exchange.readerStep, phase,
          he]
      have hreturned := returned_popped watch none
      rw [Option.toList_none, List.append_nil] at hreturned
      rw [hstep]
      exact { hlooked with
        writer := hlooked.writer_kept { LeavesWriter.refl watch.lookPublished with }
        reader := ⟨hstands.1, hstands.2.1, hreturned.trans hstands.2.2⟩ }
  | false =>
      have hstep
          : watch.step .reader
              = { watch.lookPublished with
                  shared := { watch.lookPublished.shared with reader := .taking } } := by
        simp [step, noteReader, Watch.lookPublished, Exchange.step, Exchange.readerStep, phase,
          he]
      have hne := mt hlooked.looksEmpty_iff.mpr (by simp [Watch.lookPublished, he])
      have hmore : watch.taken < watch.lookPublished.sawPublished :=
        Nat.lt_of_le_of_ne hlooked.taken_le (Ne.symm hne)
      rw [hstep]
      exact { hlooked with
        writer := hlooked.writer_kept { LeavesWriter.refl watch.lookPublished with }
        reader := ⟨hstands.1, hstands.2.1, hstands.2.2, hmore⟩ }

/-- The slot read is that of the oldest value still to be read, and no other value's. -/
theorem reader_taking (consistent : watch.Consistent start)
    (phase : watch.shared.reader = .taking)
    : (watch.step .reader).Consistent start := by
  have hstands := consistent.reader
  simp only [ReaderStands, phase] at hstands
  obtain ⟨hread, hcursor, hreturned, hmore⟩ := hstands
  have hwithin : watch.taken < watch.published.length :=
    Nat.lt_of_lt_of_le hmore consistent.sawPublished_le
  have hfront : watch.shared.ring.front? = watch.published[watch.taken]? := by
    rw [List.getElem?_eq_getElem hwithin, Ring.front?, hcursor]
    exact consistent.standing _ _ (Nat.le_of_eq hread) (List.getElem?_eq_getElem hwithin)
  -- A slot of a later value, or of the value being stored, is less than one lap further on.
  have hother {index : Nat} (later : watch.taken < index)
      (near : index < watch.sawTaken + watch.shared.ring.capacity)
      : watch.shared.ring.vacate.slotAt (index % watch.shared.ring.capacity)
          = watch.shared.ring.slotAt (index % watch.shared.ring.capacity) := by
    have hsaw := consistent.sawTaken_le
    have hlap : index < watch.taken + watch.shared.ring.capacity := by omega
    have hapart := mod_ne_of_within_lap later hlap
    rw [← hcursor] at hapart
    exact (Ring.slotAt_vacate _).trans (if_neg (Ne.symm hapart))
  have hstep
      : watch.step .reader
          = { watch with
              read := watch.read + 1
              shared :=
                { watch.shared with
                  ring := watch.shared.ring.vacate
                  reader := .publishing watch.shared.ring.front? } } := by
    simp [step, noteReader, Exchange.step, Exchange.readerStep, phase]
  rw [hstep]
  exact { consistent with
    slots_size := Array.size_setIfInBounds.trans consistent.slots_size
    standing := by
      intro index found late hfound
      have hlate : watch.read + 1 ≤ index := late
      have hlt := (List.getElem?_eq_some_iff.mp hfound).1
      have hle := consistent.published_le
      refine (hother (by omega) (Nat.lt_of_lt_of_le hlt hle)).trans ?_
      exact consistent.standing index found (Nat.le_of_succ_le hlate) hfound
    writer := consistent.writer_kept { LeavesWriter.refl watch with slot := hother hwithin }
    reader := ⟨congrArg (· + 1) hread, hcursor, hreturned, hmore, hfront⟩ }

theorem reader_publishing (consistent : watch.Consistent start) {value : Option α}
    (phase : watch.shared.reader = .publishing value)
    : (watch.step .reader).Consistent start := by
  have hstands := consistent.reader
  simp only [ReaderStands, phase] at hstands
  obtain ⟨hread, hcursor, hreturned, hmore, hvalue⟩ := hstands
  have hstep
      : watch.step .reader
          = { watch with
              taken := watch.taken + 1
              shared :=
                { watch.shared with
                  ring := watch.shared.ring.publishPop
                  reader := .advancing value } } := by
    simp [step, noteReader, Exchange.step, Exchange.readerStep, phase]
  rw [hstep]
  exact { consistent with
    popped_eq := by
      rw [Counter.add_ofNat_succ, ← consistent.popped_eq]
      rfl
    sawTaken_le := Nat.le_succ_of_le consistent.sawTaken_le
    taken_le := hmore
    writer := consistent.writer_kept { LeavesWriter.refl watch with }
    reader := ⟨hread, watch.taken, rfl, hcursor, hreturned, hvalue⟩ }

/-- The value on its way is the next one to be returned. -/
theorem reader_advancing (consistent : watch.Consistent start) {value : Option α}
    (phase : watch.shared.reader = .advancing value)
    : (watch.step .reader).Consistent start := by
  have hstands := consistent.reader
  simp only [ReaderStands, phase] at hstands
  obtain ⟨hread, before, hbefore, hcursor, hreturned, hvalue⟩ := hstands
  have hstep
      : watch.step .reader
          = { watch with
              answers := watch.answers ++ [.popped value]
              shared :=
                { watch.shared with
                  ring := watch.shared.ring.advanceReader
                  reader := .ready } } := by
    simp [step, noteReader, Exchange.step, Exchange.readerStep, phase]
  rw [hstep]
  exact { consistent with
    writer := consistent.writer_kept { LeavesWriter.refl watch with }
    reader := by
      refine ⟨hread, ?_, ?_⟩
      · change watch.shared.ring.after watch.shared.ring.readAt = watch.taken % _
        rw [hcursor, hbefore]
        exact Ring.after_mod consistent.positive before
      · change (watch.answers ++ [Answer.popped value]).filterMap Answer.value?
          = watch.published.take watch.taken
        rw [returned_popped, hreturned, hvalue, hbefore]
        exact List.take_add_one.symm }

theorem readerStep (consistent : watch.Consistent start)
    : (watch.step .reader).Consistent start := by
  cases phase : watch.shared.reader with
  | ready => exact consistent.reader_ready phase
  | looking => exact consistent.reader_looking phase
  | taking => exact consistent.reader_taking phase
  | publishing value => exact consistent.reader_publishing phase
  | advancing value => exact consistent.reader_advancing phase

-----------------------------------------------------------------------------------------
-- Runs
-----------------------------------------------------------------------------------------

theorem step (consistent : watch.Consistent start) (access : Access α)
    : (watch.step access).Consistent start := by
  cases access with
  | writer value => exact consistent.writerStep value
  | reader => exact consistent.readerStep

theorem run (accesses : List (Access α)) (consistent : watch.Consistent start)
    : (run accesses watch).Consistent start := by
  induction accesses generalizing watch with
  | nil => exact consistent
  | cons access rest ih => exact ih (consistent.step access)

end Consistent

-----------------------------------------------------------------------------------------
-- What the parties may rely on
-----------------------------------------------------------------------------------------

/-- The exchange is safe as it stands and in whatever access comes next. -/
structure Orderly (capacity : Nat) (watch : Watch α) : Prop where
  writeAt_lt : watch.shared.ring.writeAt < capacity
  readAt_lt : watch.shared.ring.readAt < capacity
  /-- No slot is overwritten from the publication of its value until that has been read. -/
  kept
    : ∀ index value,
        watch.read ≤ index
        → watch.published[index]? = some value
        → watch.shared.ring.slotAt (index % capacity) = some value
  /-- A slot about to be written belongs to no value that has not been given back. -/
  write_apart
    : ∀ value,
        watch.shared.writer = .storing value
        → watch.shared.ring.writeAt = watch.published.length % capacity
          ∧ ∀ index,
              watch.taken ≤ index
              → index < watch.published.length
              → index % capacity ≠ watch.shared.ring.writeAt
  /-- A slot about to be read has been written: it holds the oldest published value not read. -/
  read_written
    : watch.shared.reader = .taking
      → watch.shared.ring.readAt = watch.read % capacity
        ∧ ∃ value,
            watch.published[watch.read]? = some value
            ∧ watch.shared.ring.front? = some value
  /-- The two parties never work on one slot at the same time. -/
  apart
    : ∀ value,
        watch.shared.writer = .storing value
        → watch.shared.reader = .taking
        → watch.shared.ring.writeAt ≠ watch.shared.ring.readAt
  returned_prefix : watch.returned <+: watch.published
  /-- A push succeeds by publishing the value that it was begun with. -/
  accepted
    : ∀ access,
        (watch.shared.step access).1 = some (.pushed .accepted)
        → ∃ value,
            watch.offered = some value
            ∧ (watch.step access).published = watch.published ++ [value]
  /-- A push is refused where the writer looks at the reader's total and a whole lap of published
  values is not given back, and nowhere else.
  -/
  refused
    : ∀ access value,
        (watch.shared.step access).1 = some (.pushed (.rejected value))
        → watch.shared.writer = .looking value
          ∧ watch.offered = some value
          ∧ watch.published.length = watch.taken + capacity
  /-- A pop returns nothing where the reader looks at the writer's total and no published value is
  left, and nowhere else.
  -/
  nothing
    : ∀ access,
        (watch.shared.step access).1 = some (.popped none)
        → watch.shared.reader = .looking ∧ watch.published.length = watch.taken

namespace Consistent

theorem writeAt_lt (consistent : watch.Consistent start)
    : watch.shared.ring.writeAt < watch.shared.ring.capacity := by
  have hstands := consistent.writer
  have hlt (index : Nat) := Nat.mod_lt index consistent.positive
  simp only [WriterStands] at hstands
  split at hstands
  · rw [hstands]
    exact hlt _
  all_goals
    rw [hstands.1]
    exact hlt _

theorem readAt_lt (consistent : watch.Consistent start)
    : watch.shared.ring.readAt < watch.shared.ring.capacity := by
  have hstands := consistent.reader
  have hlt (index : Nat) := Nat.mod_lt index consistent.positive
  simp only [ReaderStands] at hstands
  split at hstands
  case h_5 =>
      obtain ⟨_, before, _, hcursor, _⟩ := hstands
      rw [hcursor]
      exact hlt _
  all_goals
    rw [hstands.2.1]
    exact hlt _

/-- What pops have returned are the first of the values published. -/
theorem returned_prefix (consistent : watch.Consistent start)
    : watch.returned <+: watch.published := by
  have hstands := consistent.reader
  simp only [ReaderStands] at hstands
  split at hstands
  case h_5 =>
      obtain ⟨_, before, _, _, hreturned, _⟩ := hstands
      rw [hreturned]
      exact List.take_prefix _ _
  case h_1 | h_2 =>
      rw [hstands.2.2]
      exact List.take_prefix _ _
  all_goals
    rw [hstands.2.2.1]
    exact List.take_prefix _ _

/-- Before a slot is read, the value published for it stands there. -/
theorem read_written (consistent : watch.Consistent start)
    (phase : watch.shared.reader = .taking)
    : watch.shared.ring.readAt = watch.read % watch.shared.ring.capacity
      ∧ ∃ value,
          watch.published[watch.read]? = some value
          ∧ watch.shared.ring.front? = some value := by
  have hstands := consistent.reader
  simp only [ReaderStands, phase] at hstands
  obtain ⟨hread, hcursor, _, hmore⟩ := hstands
  rw [← hread] at hcursor hmore
  have hfound := List.getElem?_eq_getElem (Nat.lt_of_lt_of_le hmore consistent.sawPublished_le)
  have hslot := consistent.standing _ _ (Nat.le_refl _) hfound
  rw [← hcursor] at hslot
  exact ⟨hcursor, _, hfound, hslot⟩

/-- Before a slot is written, it is that of the next index, a lap from all that is not given
back.
-/
theorem write_apart (consistent : watch.Consistent start) {value : α}
    (phase : watch.shared.writer = .storing value)
    : watch.shared.ring.writeAt = watch.published.length % watch.shared.ring.capacity
      ∧ ∀ index,
          watch.taken ≤ index
          → index < watch.published.length
          → index % watch.shared.ring.capacity ≠ watch.shared.ring.writeAt := by
  have hstands := consistent.writer
  simp only [WriterStands, phase] at hstands
  obtain ⟨hcursor, _, hroom⟩ := hstands
  refine ⟨hcursor, ?_⟩
  intro index late early
  rw [hcursor]
  exact consistent.apart_of_room hroom late early

theorem accepted (consistent : watch.Consistent start) {access : Access α}
    (answer : (watch.shared.step access).1 = some (.pushed .accepted))
    : ∃ value,
        watch.offered = some value
        ∧ (watch.step access).published = watch.published ++ [value] := by
  have hstands := consistent.writer
  cases Exchange.completes_of_answer answer with
  | accepted next phase =>
      simp only [WriterStands, phase] at hstands
      obtain ⟨_, _, value, hoffered, _⟩ := hstands
      refine ⟨value, hoffered, ?_⟩
      simp [Watch.step, noteWriter, phase, hoffered]

theorem refused (consistent : watch.Consistent start) {access : Access α} {value : α}
    (answer : (watch.shared.step access).1 = some (.pushed (.rejected value)))
    : watch.shared.writer = .looking value
      ∧ watch.offered = some value
      ∧ watch.published.length = watch.taken + watch.shared.ring.capacity := by
  have hstands := consistent.writer
  cases Exchange.completes_of_answer answer with
  | rejected next phase full =>
      simp only [WriterStands, phase] at hstands
      exact ⟨phase, hstands.2, consistent.lookTaken.looksFull_iff.mp full⟩

theorem nothing (consistent : watch.Consistent start) {access : Access α}
    (answer : (watch.shared.step access).1 = some (.popped none))
    : watch.shared.reader = .looking ∧ watch.published.length = watch.taken := by
  have hstands := consistent.reader
  cases Exchange.completes_of_answer answer with
  | nothing phase empty =>
      exact ⟨phase, (consistent.lookPublished phase).looksEmpty_iff.mp empty⟩
  | returned phase =>
      -- A value on its way to the caller has been published, so it is there.
      have htaken := consistent.taken_le
      have hpublished := consistent.sawPublished_le
      simp only [ReaderStands, phase] at hstands
      obtain ⟨_, before, hbefore, _, _, hvalue⟩ := hstands
      rw [List.getElem?_eq_getElem (by omega)] at hvalue
      cases hvalue

theorem orderly (consistent : watch.Consistent start)
    : watch.Orderly watch.shared.ring.capacity where
  writeAt_lt := consistent.writeAt_lt
  readAt_lt := consistent.readAt_lt
  kept := consistent.standing
  write_apart := fun _ phase => consistent.write_apart phase
  read_written := consistent.read_written
  apart := by
    intro value storing taking
    obtain ⟨hcursor, found, hfound, _⟩ := consistent.read_written taking
    have hlt := (List.getElem?_eq_some_iff.mp hfound).1
    rw [hcursor]
    exact Ne.symm ((consistent.write_apart storing).2 _ consistent.taken_le_read hlt)
  returned_prefix := consistent.returned_prefix
  accepted := fun _ => consistent.accepted
  refused := fun _ _ => consistent.refused
  nothing := fun _ => consistent.nothing

end Consistent

theorem capacity_step (watch : Watch α) (access : Access α)
    : (watch.step access).shared.ring.capacity = watch.shared.ring.capacity := by
  cases access with
  | writer value =>
      simp only [step, Exchange.step, Exchange.writerStep]
      split <;> try split
      all_goals rfl
  | reader =>
      simp only [step, Exchange.step, Exchange.readerStep]
      split <;> try split
      all_goals rfl

theorem capacity_run (accesses : List (Access α)) (watch : Watch α)
    : (run accesses watch).shared.ring.capacity = watch.shared.ring.capacity := by
  induction accesses generalizing watch with
  | nil => rfl
  | cons access rest ih => exact (ih _).trans (capacity_step watch access)

/-- A ring is correct under every interleaving of its two ends. Whatever its capacity, wherever
its totals begin and in whatever order the two parties make their accesses, over any number of
calls, the exchange is orderly at every point: what is published stands until it is read, what is
read has been written, pops return the published values in order, and both ends give up only where
their look at the other end leaves no other way.
-/
theorem orderly_of_interleaving (capacity : Nat) (start : Counter) (accesses : List (Access α))
    (positive : 0 < capacity) (fits : capacity < 0x10000000000000000)
    : let begun := Exchange.start (Ring.empty capacity start)
      let watch := run accesses (.start (.empty capacity start))
      watch.Orderly capacity
      ∧ watch.shared = (begun.run accesses).2
      ∧ watch.answers = (begun.run accesses).1 := by
  intro begun watch
  have hbegun := consistent_start (α := α) start positive fits
  have horderly := (hbegun.run accesses).orderly
  have hcapacity := capacity_run accesses (.start (.empty capacity start) : Watch α)
  rw [hcapacity] at horderly
  obtain ⟨hshared, hanswers⟩ := run_eq accesses (.start (.empty capacity start))
  exact ⟨horderly, hshared, hanswers⟩

/-- One slot, totals about to wrap: the second push looks while the first value has been read but
its slot not given back, and is refused. The third looks after that and goes in while the reader is
still on its way back with the first.
-/
theorem orderly_of_interleaving_suspended
    : let first : List (Access Nat) :=
        [.writer 1, .writer 1, .writer 1, .reader, .reader, .reader, .writer 2]
      let rest : List (Access Nat) :=
        [.writer 2, .reader, .writer 3, .writer 3, .writer 3, .writer 3, .reader]
      let ring := Ring.empty 1 0xFFFFFFFFFFFFFFFF
      let halfway := run first (.start ring)
      let final := run (first ++ rest) (.start ring)
      halfway.published.length = halfway.taken + 1
      ∧ final.answers
        = [.pushed .accepted, .pushed (.rejected 2), .pushed .accepted, .popped (some 1)]
      ∧ final.published = [1, 3]
      ∧ final.returned <+: final.published
      ∧ final.shared.ring.slotAt 0 = some 3 := by
  intro first rest ring halfway final
  have hhalfway : halfway.Orderly 1 :=
    (orderly_of_interleaving 1 0xFFFFFFFFFFFFFFFF first (by decide) (by decide)).1
  have hfinal : final.Orderly 1 :=
    (orderly_of_interleaving 1 0xFFFFFFFFFFFFFFFF (first ++ rest) (by decide) (by decide)).1
  refine ⟨?_, by decide, by decide, hfinal.returned_prefix, ?_⟩
  · have hrefused : (halfway.shared.step (.writer 2)).1 = some (.pushed (.rejected 2)) := by
      decide
    exact (hhalfway.refused (.writer 2) 2 hrefused).2.2
  · exact hfinal.kept 1 3 (by decide) (by decide)

end Watch

end Crossbar
