import Crossbar.Proofs.Attribution
import Crossbar.Proofs.Retention

/-! When a link has a value that its reader is going to take. It has one if a value was accepted
that has not left and that no draining reissue cut off, unless 2^63 values have been popped since
the reader's total last stood at the stale mark or behind it.
-/

namespace Crossbar

variable {α : Type}

namespace Motion

/-- How many values were popped since the slot was last retired, or since the link was new if
reissues do not drain.
-/
def poppedSince (drain : Bool) (motions : List (Motion α)) : Nat :=
  if drain then drawnSince motions else (departed motions).length

/-- A value was accepted that has not left, and no draining reissue came after it. -/
def HoldsLive (drain : Bool) (motions : List (Motion α)) : Prop :=
  ∃ before value after,
    motions = before ++ .accepted value :: after
    ∧ (departed motions).length ≤ (entered before).length
    ∧ (drain = true → .reissued ∉ after)

theorem any_isReissue_eq_false {motions : List (Motion α)} (quiet : .reissued ∉ motions)
    : motions.any isReissue = false := by
  rw [List.any_eq_false]
  intro motion member reissue
  cases motion with
  | reissued => exact quiet member
  | accepted | delivered | discarded => cases reissue

/-- Motions without a reissue add the values that leave in them. -/
theorem drawnSince_append_of_quiet (motions : List (Motion α)) {more : List (Motion α)}
    (quiet : more.any isReissue = false)
    : drawnSince (motions ++ more) = drawnSince motions + (departed more).length := by
  rcases quiet_or_last_reissue motions with hquiet | ⟨before, after, rfl, hquiet⟩
  · have hall : (motions ++ more).any isReissue = false := by
      simp only [List.any_append, hquiet, quiet, Bool.or_false]
    simp only [drawnSince_of_quiet hquiet, drawnSince_of_quiet hall, departed_append,
      List.length_append]
  · have hall : (after ++ more).any isReissue = false := by
      simp only [List.any_append, hquiet, quiet, Bool.or_false]
    simp only [List.append_assoc, List.cons_append, drawnSince_append_reissued _ hquiet,
      drawnSince_append_reissued _ hall, departed_append, List.length_append]

/-- The count of values popped only grows until a draining reissue. -/
theorem poppedSince_le_append {drain : Bool} (motions : List (Motion α)) {more : List (Motion α)}
    (quiet : drain = true → .reissued ∉ more)
    : poppedSince drain motions ≤ poppedSince drain (motions ++ more) := by
  cases drain with
  | true =>
      have hquiet := any_isReissue_eq_false (quiet rfl)
      simp only [poppedSince, if_true, drawnSince_append_of_quiet _ hquiet]
      omega
  | false =>
      simp only [poppedSince, Bool.false_eq_true, if_false, departed_append, List.length_append]
      omega

/-- A live value stays live until it leaves or a draining reissue cuts it off. -/
theorem HoldsLive.append {drain : Bool} {motions more : List (Motion α)}
    (live : HoldsLive drain motions) (stays : departed more = [])
    (quiet : drain = true → .reissued ∉ more)
    : HoldsLive drain (motions ++ more) := by
  obtain ⟨before, value, after, rfl, hleft, hquiet⟩ := live
  refine ⟨before, value, after ++ more, ?_, ?_, ?_⟩
  · simp only [List.append_assoc, List.cons_append]
  · rw [departed_append, stays, List.append_nil]
    exact hleft
  · intro drains member
    rcases List.mem_append.mp member with hafter | hmore
    · exact hquiet drains hafter
    · exact quiet drains hmore

/-- The last value accepted lies past those that have left and past the stale mark. -/
theorem HoldsLive.bounds {drain : Bool} {motions : List (Motion α)}
    (live : HoldsLive drain motions)
    : (departed motions).length < (entered motions).length
      ∧ staleBound drain motions < (entered motions).length := by
  obtain ⟨before, value, after, rfl, hleft, hquiet⟩ := live
  have hentered : (entered (before ++ .accepted value :: after)).length
      = (entered before).length + ((entered after).length + 1) := by
    rw [entered_append, List.length_append]
    rfl
  refine ⟨by omega, ?_⟩
  cases drain with
  | false =>
      simp only [staleBound, Bool.false_eq_true, if_false]
      omega
  | true =>
      have hlater : (Motion.accepted value :: after).any isReissue = false :=
        any_isReissue_eq_false fun member => hquiet rfl (by simpa using member)
      have hle := overtaken_le before
      simp only [staleBound, if_true, overtaken_append_of_quiet _ hlater]
      omega

/-- As long as few values have been popped, the next one is thrown away exactly if it lies before
the stale mark.
-/
theorem discardsNext_iff_lt {drain : Bool} {motions : List (Motion α)}
    (ruled : Ruled drain motions) (few : poppedSince drain motions < 0x8000000000000000)
    : discardsNext drain motions = true
        ↔ (departed motions).length < staleBound drain motions := by
  cases drain with
  | true => exact discardsNext_iff ruled few
  | false =>
      simp only [poppedSince, Bool.false_eq_true, if_false] at few
      rw [discardsNext_false]
      simp only [staleBound, Bool.false_eq_true, if_false]
      omega

/-- The values in a link, oldest first: those that were accepted and have not left. -/
def remaining (motions : List (Motion α)) : List α :=
  (entered motions).drop (departed motions).length

/-- How many of the values in a link its reader is to discard before it takes one: the distance, as
words, from the number of values that have left to the stale mark, as long as the number is behind
the mark.
-/
def staleLead (drain : Bool) (motions : List (Motion α)) : Nat :=
  if discardsNext drain motions then
    Counter.lead (UInt64.ofNat (staleBound drain motions))
      (UInt64.ofNat (departed motions).length)
  else
    0

theorem staleBound_le (drain : Bool) (motions : List (Motion α))
    : staleBound drain motions ≤ (entered motions).length := by
  rw [staleBound]
  split
  · exact overtaken_le motions
  · exact Nat.zero_le _

/-- As long as few values have been popped, the reader is to discard what lies before the mark. The
distance of the two words is then that of the counts, because what a link holds is less than a word
counts.
-/
theorem staleLead_of_few {drain : Bool} {motions : List (Motion α)} (ruled : Ruled drain motions)
    (few : poppedSince drain motions < 0x8000000000000000)
    : staleLead drain motions = staleBound drain motions - (departed motions).length := by
  have hbehind := discardsNext_iff_lt ruled few
  rw [staleLead]
  split
  · next behind =>
      have hlt := hbehind.mp behind
      have hmark := staleBound_le drain motions
      have hcounts := ruled.counts.2
      simp only [Ring.allocationLimit] at hcounts
      simp only [Counter.lead, UInt64.toNat_sub, UInt64.toNat_ofNat']
      omega
  · next ahead =>
      have hnot := mt hbehind.mpr ahead
      omega

/-- Once 2^63 values have left behind the mark, the mark counts as lying ahead of them, by what
their total has left to go until it wraps.
-/
theorem staleLead_of_overrun {drain : Bool} {motions : List (Motion α)}
    (overrun : staleBound drain motions + 0x8000000000000000 ≤ (departed motions).length)
    (near : (departed motions).length < staleBound drain motions + 0x10000000000000000)
    : staleLead drain motions
        = staleBound drain motions + 0x10000000000000000 - (departed motions).length := by
  simp only [staleLead, discardsNext, Counter.isBehind, Counter.lead, decide_eq_true_eq,
    UInt64.toNat_sub, UInt64.toNat_ofNat']
  split <;> omega

end Motion

open Motion

/-- What a link holds is what has entered it since the values that have left. -/
theorem Link.Follows.toList_eq {drain : Bool} {link : Link α} {motions : List (Motion α)}
    (follows : link.Follows drain motions)
    : link.toList = remaining motions := by
  rw [remaining, follows.entered_eq, List.drop_left]

/-- The history of a link tells how many values its reader is to discard. -/
theorem Link.Follows.staleCount_eq {drain : Bool} {link : Link α} {motions : List (Motion α)}
    (follows : link.Follows drain motions)
    : link.staleCount = staleLead drain motions := by
  rw [staleCount, follows.popped_eq, follows.staleUntil_eq]
  rfl

/-- A reader finds a live value in a link whose history has one. -/
theorem Link.Follows.live_ne_nil {drain : Bool} {link : Link α} {motions : List (Motion α)}
    (follows : link.Follows drain motions) (live : HoldsLive drain motions)
    (few : poppedSince drain motions < 0x8000000000000000)
    : link.live ≠ [] := by
  obtain ⟨hleft, hmark⟩ := live.bounds
  have hlength : (entered motions).length = (departed motions).length + link.toList.length := by
    rw [follows.entered_eq, List.length_append]
  -- Only what lies before the mark is discarded, and the live value lies behind it.
  have hstale : link.staleCount < link.toList.length := by
    rw [follows.staleCount_eq, staleLead_of_few follows.ruled few]
    omega
  intro none
  exact Nat.not_le.mpr hstale (List.drop_eq_nil_iff.mp none)

end Crossbar
