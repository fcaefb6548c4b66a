/-! Tickets tell the registrations of a reused slot apart. A ticket packs an active bit below a
count of registrations, so ending a registration and beginning the next both change the word.
-/

namespace Crossbar

/-- The registration state of a slot, or the copy of it that a handle was issued with. -/
structure Ticket where
  word : UInt64
deriving Repr, DecidableEq

namespace Ticket

/-- The ticket of a slot's first registration. -/
def first : Ticket := ⟨1⟩

/-- Whether a registration is under way. -/
def isActive (ticket : Ticket) : Bool :=
  ticket.word &&& 1 == 1

/-- The state after the registration has ended: the active bit is cleared. -/
def ended (ticket : Ticket) : Ticket :=
  ⟨(ticket.word >>> 1) <<< 1⟩

/-- The ticket of the registration that follows. -/
def next (ticket : Ticket) : Ticket :=
  ⟨(((ticket.word >>> 1) + 1) <<< 1) ||| 1⟩

/-- How many registrations came before this one. -/
def generation (ticket : Ticket) : Nat :=
  ticket.word.toNat / 2

theorem isActive_iff {ticket : Ticket} : ticket.isActive = true ↔ ticket.word.toNat % 2 = 1 := by
  rw [isActive, beq_iff_eq, ← UInt64.toNat_inj, UInt64.toNat_and, UInt64.toNat_one,
    Nat.and_one_is_mod]

/-- The first registration is active and comes after no other. -/
theorem isActive_first : first.isActive = true := rfl

theorem generation_first : first.generation = 0 := rfl

/-- The next registration is active, whatever came before. -/
theorem isActive_next (ticket : Ticket) : ticket.next.isActive = true := by
  rw [isActive_iff]
  simp [next, UInt64.toNat_or, UInt64.toNat_shiftLeft, Nat.or_mod_two_eq_one]

/-- Ending a registration clears its active bit alone. -/
theorem toNat_ended (ticket : Ticket)
    : ticket.ended.word.toNat = 2 * ticket.generation := by
  have hword := UInt64.toNat_lt ticket.word
  have hone : (1 : UInt64).toNat % 64 = 1 := rfl
  rw [ended, UInt64.toNat_shiftLeft, UInt64.toNat_shiftRight, hone,
    Nat.shiftRight_eq_div_pow, Nat.shiftLeft_eq, generation]
  omega

/-- The next registration counts one more before it, until the count wraps. -/
theorem toNat_next {ticket : Ticket} (h : ticket.generation + 1 < 0x8000000000000000)
    : ticket.next.word.toNat = 2 * (ticket.generation + 1) + 1 := by
  have hone : (1 : UInt64).toNat % 64 = 1 := rfl
  have hcount : ((ticket.word >>> 1) + 1).toNat = ticket.generation + 1 := by
    rw [UInt64.toNat_add, UInt64.toNat_shiftRight, hone, UInt64.toNat_one,
      Nat.shiftRight_eq_div_pow]
    simp only [generation] at h ⊢
    omega
  have hsmall : (ticket.generation + 1) <<< 1 % 0x10000000000000000
      = (ticket.generation + 1) <<< 1 := by
    rw [Nat.shiftLeft_eq]
    omega
  rw [next, UInt64.toNat_or, UInt64.toNat_shiftLeft, hone, hcount, hsmall, UInt64.toNat_one,
    ← Nat.shiftLeft_add_eq_or_of_lt (by decide), Nat.shiftLeft_eq]
  omega

/-- A registration that has ended is not active. -/
theorem isActive_ended (ticket : Ticket) : ticket.ended.isActive = false := by
  rw [Bool.eq_false_iff, ne_eq, isActive_iff, toNat_ended]
  omega

theorem generation_ended (ticket : Ticket) : ticket.ended.generation = ticket.generation := by
  rw [generation, toNat_ended]
  omega

theorem generation_next {ticket : Ticket} (h : ticket.generation + 1 < 0x8000000000000000)
    : ticket.next.generation = ticket.generation + 1 := by
  rw [generation, toNat_next h]
  omega

/-- Tickets are told apart by generation and active bit. -/
theorem eq_of_generation {first second : Ticket} (hg : first.generation = second.generation)
    (ha : first.isActive = second.isActive)
    : first = second := by
  have hparity : first.word.toNat % 2 = 1 ↔ second.word.toNat % 2 = 1 := by
    rw [← isActive_iff, ← isActive_iff, ha]
  simp only [generation] at hg
  have hword : first.word.toNat = second.word.toNat := by omega
  cases first
  cases second
  exact congrArg Ticket.mk (UInt64.toNat_inj.mp hword)

end Ticket

end Crossbar
