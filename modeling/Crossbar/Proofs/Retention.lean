import Crossbar.Proofs.Turns

/-! What a link keeps if reissues do not drain. The stale mark stays at zero, but the reader's total
is compared with it all the same, so the first 2^63 values to leave a link are returned, the next
2^63 are thrown away, and so on as the total wraps.
-/

namespace Crossbar

variable {α : Type}

namespace Motion

/-- Without draining, the next value is thrown away exactly if the total of those that left has its
highest bit set as a word.
-/
theorem discardsNext_false (motions : List (Motion α))
    : discardsNext false motions = true
        ↔ 0x8000000000000000 ≤ (departed motions).length % 0x10000000000000000 := by
  simp only [discardsNext, staleBound, Counter.isBehind, Counter.lead, decide_eq_true_eq,
    UInt64.toNat_sub, UInt64.toNat_ofNat', Bool.false_eq_true, if_false]
  omega

/-- Which way a value leaves that follows a given number of others, if reissues do not drain. -/
def wayOut (gone : Nat) (value : α) : Motion α :=
  if 0x8000000000000000 ≤ gone % 0x10000000000000000 then .discarded value else .delivered value

/-- The number of values gone before decides which way a value leaves. -/
theorem Ruled.eq_wayOut {motions : List (Motion α)} (ruled : Ruled false motions)
    {before after : List (Motion α)} {motion : Motion α} {value : α}
    (split : motions = before ++ motion :: after) (left : motion.departed? = some value)
    : motion = wayOut (departed before).length value := by
  have hdue := ruled before motion after split
  have hiff := discardsNext_false before
  rw [wayOut]
  cases motion with
  | accepted | reissued => cases left
  | delivered taken =>
      obtain rfl : taken = value := Option.some.inj left
      rw [hdue.2] at hiff
      rw [if_neg fun h => Bool.false_ne_true (hiff.mpr h)]
  | discarded thrown =>
      obtain rfl : thrown = value := Option.some.inj left
      rw [if_pos (hiff.mp hdue.2)]

/-- Every value that left has its place in the history. -/
theorem split_at_departed {motions : List (Motion α)} {number : Nat}
    (within : number < (departed motions).length)
    : ∃ before motion after value,
        motions = before ++ motion :: after
        ∧ motion.departed? = some value
        ∧ (departed before).length = number := by
  induction motions generalizing number with
  | nil => cases within
  | cons motion rest ih =>
      cases motion with
      | accepted | reissued =>
          have hrest : number < (departed rest).length := within
          obtain ⟨before, left, after, value, rfl, hleft, hnumber⟩ := ih hrest
          exact ⟨_ :: before, left, after, value, rfl, hleft, hnumber⟩
      | delivered first | discarded first =>
          cases number with
          | zero => exact ⟨[], _, rest, first, rfl, rfl, rfl⟩
          | succ number =>
              have hrest : number < (departed rest).length := Nat.lt_of_succ_lt_succ within
              obtain ⟨before, left, after, value, rfl, hleft, hnumber⟩ := ih hrest
              exact ⟨_ :: before, left, after, value, rfl, hleft, congrArg (· + 1) hnumber⟩

/-- The values returned are among those that left, in the same order. -/
theorem returned_sublist (motions : List (Motion α))
    : (returned motions).Sublist (departed motions) := by
  induction motions with
  | nil => exact List.Sublist.refl []
  | cons motion rest ih =>
      cases motion with
      | accepted value | reissued => exact ih
      | delivered value => exact ih.cons_cons value
      | discarded value => exact ih.cons value

/-- All values that left were returned exactly if none was thrown away. -/
theorem returned_eq_departed_iff (motions : List (Motion α))
    : returned motions = departed motions ↔ ∀ value, .discarded value ∉ motions := by
  induction motions with
  | nil => exact iff_of_true rfl fun _ => List.not_mem_nil
  | cons motion rest ih =>
      cases motion with
      | accepted value | reissued =>
          refine ih.trans ?_
          simp
      | delivered value =>
          have hcons : returned (.delivered value :: rest) = departed (.delivered value :: rest)
              ↔ returned rest = departed rest :=
            ⟨fun h => (List.cons.inj h).2, congrArg (value :: ·)⟩
          refine hcons.trans (ih.trans ?_)
          simp
      | discarded value =>
          refine iff_of_false ?_ fun h => h value List.mem_cons_self
          intro same
          have hlength := (returned_sublist rest).length_le
          have hsame : (returned rest).length = (departed rest).length + 1 :=
            congrArg List.length same
          omega

/-- Nothing has been thrown away exactly as long as no more than 2^63 values have left. -/
theorem Ruled.nothing_discarded_iff {motions : List (Motion α)} (ruled : Ruled false motions)
    : (∀ value, .discarded value ∉ motions) ↔ (departed motions).length ≤ 0x8000000000000000 := by
  constructor
  · intro kept
    apply Nat.le_of_not_lt
    intro many
    -- The value that left after 2^63 others was thrown away.
    obtain ⟨before, motion, after, value, split, left, hnumber⟩ := split_at_departed many
    have hway := ruled.eq_wayOut split left
    rw [hnumber, wayOut, if_pos (by decide)] at hway
    apply kept value
    rw [split, hway]
    exact List.mem_append_right _ List.mem_cons_self
  · intro few value member
    obtain ⟨before, after, split⟩ := List.append_of_mem member
    have hway := ruled.eq_wayOut split rfl
    have hlt : (departed before).length < (departed motions).length := by
      rw [split, departed_append, List.length_append]
      exact Nat.lt_add_of_pos_right (Nat.succ_pos _)
    rw [wayOut, if_neg (by omega)] at hway
    cases hway

end Motion

open Motion
open Passage (onLink)

namespace Session

/-- Without draining, over every run, the number of values that left a link before decides which way
a value leaves it: the first 2^63 are returned, the next 2^63 thrown away, and so on. The values
returned are therefore those accepted first, with the rest still held, exactly as long as no more
than 2^63 values have left the link.
-/
theorem kept_iff_few_departed (shape : Shape) (configs : List Config) (now : Nat)
    (operations : List (Operation α)) {number : Nat} {config : Config}
    (configured : configs[number]? = some config) (keeps : config.drainOnReclaim = false)
    (producer consumer : Nat)
    : let motions :=
        onLink producer consumer (history now number operations (start shape configs))
      let final := (start shape configs).after now operations
      (∀ before motion after value,
          motions = before ++ motion :: after
          → motion.departed? = some value
          → motion = wayOut (departed before).length value)
      ∧ (entered motions = returned motions ++ final.held number producer consumer
        ↔ (departed motions).length ≤ 0x8000000000000000) := by
  intro motions final
  have hfollows : final.Follows configs _ := follows_after_start shape configs now operations
  have hruled : Ruled false motions := by
    cases hfabric : final.fabric? number with
    | none =>
        have hempty : motions = [] := hfollows.onLink_of_absent hfabric producer consumer
        rw [hempty]
        exact ruled_of_untouched (fun _ member => absurd member List.not_mem_nil) false
    | some fabric =>
        obtain ⟨config', hconfig, hf⟩ := hfollows.fabric hfabric
        obtain rfl : config = config' := Option.some.inj (configured.symm.trans hconfig)
        have h := hf.ruled producer consumer
        rwa [keeps] at h
  refine ⟨fun _ _ _ _ split left => hruled.eq_wayOut split left, ?_⟩
  have hentered : entered motions = departed motions ++ final.held number producer consumer :=
    hfollows.entered_eq number producer consumer
  rw [← hruled.nothing_discarded_iff, ← returned_eq_departed_iff, hentered]
  constructor
  · intro same
    exact (List.append_cancel_right same).symm
  · intro same
    rw [same]

/-- One producer and one consumer register for a link that has room for one value, and take turns
on it.
-/
def longRun (count : Nat) : List (Operation Nat) :=
  .registerConsumer 0 :: .registerProducer 0 :: turns (List.replicate count 7)

/-- As many values leave the link as there are turns, because none is held in the end. -/
theorem departed_longRun (count : Nat)
    : departed (onLink 0 0 (history 0 0 (longRun count) (start ⟨1, 1⟩ [⟨1, false⟩])))
        = List.replicate count 7 := by
  have hpaired : ∃ fabric sender receiver link,
      ((start ⟨1, 1⟩ [⟨1, false⟩]).after 0 [.registerConsumer 0, .registerProducer 0]).Paired
          fabric sender receiver link
        ∧ link.toList = ([] : List Nat) :=
    ⟨_, _, _, _,
      ⟨rfl, ⟨rfl, rfl, rfl⟩, Ring.sound_empty 0 Nat.one_pos (by decide), rfl, rfl, rfl, rfl, rfl,
        rfl, rfl⟩,
      rfl⟩
  obtain ⟨_, _, _, _, paired, empty⟩ := hpaired
  obtain ⟨hentered, hheld⟩ := paired.turns empty 0 (List.replicate count 7)
  -- The registrations themselves pass nothing.
  have hturns
      : entered (onLink 0 0 (history 0 0 (longRun count) (start ⟨1, 1⟩ [⟨1, false⟩])))
        = List.replicate count 7 := hentered
  have hnone : ((start ⟨1, 1⟩ [⟨1, false⟩]).after 0 (longRun count)).held 0 0 0 = [] := hheld
  have horder :=
    (follows_after_start ⟨1, 1⟩ [⟨1, false⟩] 0 (longRun count)).entered_eq 0 0 0
  rw [hturns, hnone, List.append_nil] at horder
  exact horder.symm

/-- After 2^63 turns the value of one more turn is thrown away, although its slot was issued only
once.
-/
theorem kept_iff_few_departed_longRun
    : let motions :=
        onLink 0 0 (history 0 0 (longRun 0x8000000000000001) (start ⟨1, 1⟩ [⟨1, false⟩]))
      let final := (start ⟨1, 1⟩ [⟨1, false⟩]).after 0 (longRun 0x8000000000000001)
      (∃ before after value,
          motions = before ++ .discarded value :: after
          ∧ (departed before).length = 0x8000000000000000)
      ∧ entered motions ≠ returned motions ++ final.held 0 0 0 := by
  intro motions final
  have hconfig : ([⟨1, false⟩] : List Config)[0]? = some ⟨1, false⟩ := rfl
  obtain ⟨hway, hkept⟩ :=
    kept_iff_few_departed ⟨1, 1⟩ [⟨1, false⟩] 0 (longRun 0x8000000000000001) hconfig rfl 0 0
  have hmany : (departed motions).length = 0x8000000000000001 := by
    rw [departed_longRun, List.length_replicate]
  constructor
  · have hlast : 0x8000000000000000 < (departed motions).length := by
      rw [hmany]
      decide
    obtain ⟨before, motion, after, value, split, left, hnumber⟩ := split_at_departed hlast
    have hthrown := hway before motion after value split left
    rw [hnumber, wayOut, if_pos (by decide)] at hthrown
    exact ⟨before, after, value, hthrown ▸ split, hnumber⟩
  · intro same
    have hfew := hkept.mp same
    rw [hmany] at hfew
    exact absurd hfew (by decide)

end Session

end Crossbar
