/-! Totals that wrap at 2^64 and the two comparisons made between them. A difference of two
totals is exact as long as they are less than 2^64 apart, whether or not one has wrapped.
-/

namespace Crossbar

/-- A running total kept modulo 2^64, written `0x10000000000000000` below. -/
abbrev Counter := UInt64

namespace Counter

/-- How far `ahead` has moved past `behind`, because subtraction wraps with the totals. -/
def lead (ahead behind : Counter) : Nat := (ahead - behind).toNat

/-- A position is behind a mark when their difference, read as a signed word, is negative. -/
def isBehind (position mark : Counter) : Bool := decide (0x8000000000000000 ≤ lead position mark)

theorem lead_lt (ahead behind : Counter) : lead ahead behind < 0x10000000000000000 :=
  UInt64.toNat_lt _

@[simp] theorem lead_self (total : Counter) : lead total total = 0 := by
  simp [lead]

theorem lead_eq_zero_iff {ahead behind : Counter}
    : lead ahead behind = 0 ↔ ahead = behind := by
  constructor
  · intro h
    have ha := UInt64.toNat_lt ahead
    have hb := UInt64.toNat_lt behind
    rw [lead, UInt64.toNat_sub] at h
    apply UInt64.toNat_inj.mp
    omega
  · rintro rfl
    exact lead_self ahead

/-- Moving the leading total adds one to the distance unless the distance itself wraps. -/
theorem lead_succ_left {ahead behind : Counter} (h : lead ahead behind + 1 < 0x10000000000000000)
    : lead (ahead + 1) behind = lead ahead behind + 1 := by
  have ha := UInt64.toNat_lt ahead
  have hb := UInt64.toNat_lt behind
  simp only [lead, UInt64.toNat_sub, UInt64.toNat_add, UInt64.toNat_one] at h ⊢
  omega

/-- Moving the trailing total takes one off a distance that is not zero. -/
theorem lead_succ_right {ahead behind : Counter} (h : behind ≠ ahead)
    : lead ahead (behind + 1) + 1 = lead ahead behind := by
  have hne : lead ahead behind ≠ 0 := fun hz => h (lead_eq_zero_iff.mp hz).symm
  have ha := UInt64.toNat_lt ahead
  have hb := UInt64.toNat_lt behind
  simp only [lead, UInt64.toNat_sub, UInt64.toNat_add, UInt64.toNat_one] at hne ⊢
  omega

end Counter

end Crossbar
