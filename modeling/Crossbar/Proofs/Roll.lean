import Crossbar.Ticket

/-! The roll of a fabric's registrations: which slots are free, what the ticket of each slot is, and
which slot and ticket every sender claims that was ever issued. A roll is sound if a slot is free
exactly when its registration has ended, and if one sender and no other has the ticket of a slot
that is not. What can happen to a roll keeps it sound as long as no count of reissues wraps.
-/

namespace Crossbar

/-- What a sender is for: a slot, and the registration that it was issued with. -/
@[ext] structure Claim where
  slot : Nat
  ticket : Ticket
deriving Repr, DecidableEq

/-- The registrations of a fabric. Senders are numbered by the place where they were issued. -/
structure Roll where
  freed : List Nat
  ticket? : Nat → Option Ticket
  claim? : Nat → Option Claim
  reissues : Nat → Nat

namespace Roll

/-- How often a slot can be issued again before its tickets repeat. -/
def reissueLimit : Nat := 0x8000000000000000

/-- A sender is issued at a place, and its ticket becomes that of its slot. -/
def issue (roll : Roll) (claim : Claim) (place : Nat) (freed : List Nat) (reissues : Nat → Nat)
    : Roll where
  freed := freed
  ticket? := fun slot => if slot = claim.slot then some claim.ticket else roll.ticket? slot
  claim? := fun place' => if place' = place then some claim else roll.claim? place'
  reissues := reissues

/-- The registration of a slot ends, and the slot is free. -/
def finish (roll : Roll) (claim : Claim) : Roll where
  freed := claim.slot :: roll.freed
  ticket? := fun slot => if slot = claim.slot then some claim.ticket.ended else roll.ticket? slot
  claim? := roll.claim?
  reissues := roll.reissues

theorem ticket?_issue (roll : Roll) (claim : Claim) (place : Nat) (freed : List Nat)
    (reissues : Nat → Nat) (slot : Nat)
    : (roll.issue claim place freed reissues).ticket? slot
        = if slot = claim.slot then some claim.ticket else roll.ticket? slot := rfl

theorem claim?_issue (roll : Roll) (claim : Claim) (place : Nat) (freed : List Nat)
    (reissues : Nat → Nat) (place' : Nat)
    : (roll.issue claim place freed reissues).claim? place'
        = if place' = place then some claim else roll.claim? place' := rfl

/-- Senders issued before keep their places. -/
theorem claim?_issue_of_claimed {roll : Roll} {place place' : Nat} {claim' : Claim}
    (claimed : roll.claim? place' = some claim') (vacant : roll.claim? place = none)
    (claim : Claim) (freed : List Nat) (reissues : Nat → Nat)
    : (roll.issue claim place freed reissues).claim? place' = some claim' := by
  rw [claim?_issue, if_neg]
  · exact claimed
  · rintro rfl
    cases vacant.symm.trans claimed

theorem ticket?_finish (roll : Roll) (claim : Claim) (slot : Nat)
    : (roll.finish claim).ticket? slot
        = if slot = claim.slot then some claim.ticket.ended else roll.ticket? slot := rfl

/-- What can happen to a roll, given which senders are still held. -/
inductive Step (held : Nat → Prop) (roll : Roll) : Roll → Prop
  | kept : Step held roll roll
  /-- What is in front of the free slots goes if it is no slot. -/
  | spent (missing : ∀ slot ∈ roll.freed.head?, roll.ticket? slot = none)
    : Step held roll { roll with freed := roll.freed.tail }
  | fresh {slot place : Nat} (missing : ∀ slot ∈ roll.freed.head?, roll.ticket? slot = none)
    (unused : roll.ticket? slot = none) (vacant : roll.claim? place = none)
    : Step held roll (roll.issue ⟨slot, .first⟩ place roll.freed.tail roll.reissues)
  | reissued {slot place : Nat} {rest : List Nat} {ticket : Ticket}
    (freed : roll.freed = slot :: rest) (found : roll.ticket? slot = some ticket)
    (vacant : roll.claim? place = none)
    : Step held roll
        (roll.issue ⟨slot, ticket.next⟩ place rest
          fun other => if other = slot then roll.reissues other + 1 else roll.reissues other)
  | finished {place : Nat} {claim : Claim} (holds : held place)
    (claimed : roll.claim? place = some claim)
    (current : roll.ticket? claim.slot = some claim.ticket)
    : Step held roll (roll.finish claim)

/-- What can happen to a roll does not depend on who else could have ended a registration. -/
theorem Step.mono {held held' : Nat → Prop} {roll after : Roll} (step : Step held roll after)
    (more : ∀ place, held place → held' place)
    : Step held' roll after := by
  cases step with
  | kept => exact .kept
  | spent missing => exact .spent missing
  | fresh missing unused vacant => exact .fresh missing unused vacant
  | reissued freed found vacant => exact .reissued freed found vacant
  | finished holds claimed current => exact .finished (more _ holds) claimed current

/-- A sender that is on the roll afterwards was there before, or it is new and has the ticket of its
slot.
-/
theorem Step.claimed {held : Nat → Prop} {roll after : Roll} (step : Step held roll after)
    {place : Nat} {claim : Claim} (claimed : after.claim? place = some claim)
    : roll.claim? place = some claim
      ∨ roll.claim? place = none ∧ after.ticket? claim.slot = some claim.ticket := by
  cases step with
  | kept | spent | finished => exact .inl claimed
  | fresh _ _ vacant | reissued _ _ vacant =>
      rw [claim?_issue] at claimed
      split at claimed
      · next here =>
          subst here
          obtain rfl := Option.some.inj claimed
          exact .inr ⟨vacant, if_pos rfl⟩
      · exact .inl claimed

/-- Each free slot is listed once, the free slots are those whose registration has ended, and
senders are issued with active tickets. This much holds of a roll however often slots have been
issued.
-/
structure Tidy (roll : Roll) : Prop where
  freed_nodup : roll.freed.Nodup
  mem_freed_iff
    : ∀ slot,
        slot ∈ roll.freed
          ↔ ∃ ticket, roll.ticket? slot = some ticket ∧ ticket.isActive = false
  claim_active
    : ∀ {place claim}, roll.claim? place = some claim → claim.ticket.isActive = true

section Tidy

variable {held : Nat → Prop} {roll after : Roll}

/-- What is in front of the free slots is a slot, so there are none if it is missing. -/
theorem Tidy.freed_of_missing (tidy : roll.Tidy)
    (missing : ∀ slot ∈ roll.freed.head?, roll.ticket? slot = none)
    : roll.freed = [] := by
  cases hfreed : roll.freed with
  | nil => rfl
  | cons slot rest =>
      have hslot : slot ∈ roll.freed := hfreed ▸ List.mem_cons_self
      obtain ⟨ticket, found, _⟩ := (tidy.mem_freed_iff slot).mp hslot
      have hmissing := missing slot (by rw [hfreed]; rfl)
      cases hmissing.symm.trans found

/-- A free slot has the ticket of a registration that has ended. -/
theorem Tidy.inactive_of_freed (tidy : roll.Tidy) {slot : Nat} (freed : slot ∈ roll.freed)
    {ticket : Ticket} (found : roll.ticket? slot = some ticket)
    : ticket.isActive = false := by
  obtain ⟨ticket', found', inactive⟩ := (tidy.mem_freed_iff slot).mp freed
  obtain rfl := Option.some.inj (found.symm.trans found')
  exact inactive

/-- No sender has the ticket of a free slot. -/
theorem Tidy.vacant (tidy : roll.Tidy) {place : Nat} {claim : Claim}
    (claimed : roll.claim? place = some claim) (freed : claim.slot ∈ roll.freed)
    : roll.ticket? claim.slot ≠ some claim.ticket := by
  intro current
  have hinactive := tidy.inactive_of_freed freed current
  rw [tidy.claim_active claimed] at hinactive
  cases hinactive

/-- Taking the slot in front leaves the other free slots. -/
theorem Tidy.mem_rest_iff (tidy : roll.Tidy) {slot : Nat} {rest : List Nat}
    (freed : roll.freed = slot :: rest) (other : Nat)
    : other ∈ rest ↔ other ∈ roll.freed ∧ other ≠ slot := by
  have hnodup := tidy.freed_nodup
  rw [freed, List.nodup_cons] at hnodup
  rw [freed, List.mem_cons]
  constructor
  · intro member
    refine ⟨.inr member, ?_⟩
    rintro rfl
    exact hnodup.1 member
  · rintro ⟨rfl | member, apart⟩
    · exact absurd rfl apart
    · exact member

/-- A slot that is issued with an active ticket is taken off the free ones. -/
theorem Tidy.issue (tidy : roll.Tidy) {claim : Claim} (active : claim.ticket.isActive = true)
    (place : Nat) {freed : List Nat} (nodup : freed.Nodup)
    (mem : ∀ slot, slot ∈ freed ↔ slot ∈ roll.freed ∧ slot ≠ claim.slot) (reissues : Nat → Nat)
    : (roll.issue claim place freed reissues).Tidy where
  freed_nodup := nodup
  mem_freed_iff := by
    intro slot
    refine (mem slot).trans ?_
    rw [ticket?_issue]
    split
    · next same => simp [same, active]
    · next other => simpa [other] using tidy.mem_freed_iff slot
  claim_active := by
    intro place' claim' claimed
    rw [claim?_issue] at claimed
    split at claimed
    · obtain rfl := Option.some.inj claimed
      exact active
    · exact tidy.claim_active claimed

/-- A slot whose registration ends is put in front of the free ones. -/
theorem Tidy.finish (tidy : roll.Tidy) {place : Nat} {claim : Claim}
    (claimed : roll.claim? place = some claim)
    (current : roll.ticket? claim.slot = some claim.ticket)
    : (roll.finish claim).Tidy where
  freed_nodup :=
    List.nodup_cons.mpr ⟨fun freed => tidy.vacant claimed freed current, tidy.freed_nodup⟩
  mem_freed_iff := by
    intro slot
    refine List.mem_cons.trans ?_
    rw [ticket?_finish]
    split
    · next same => simp [same, Ticket.isActive_ended]
    · next other => simpa [other] using tidy.mem_freed_iff slot
  claim_active := tidy.claim_active

/-- What can happen to a roll keeps it tidy. -/
theorem Tidy.step (tidy : roll.Tidy) (step : Step held roll after) : after.Tidy := by
  cases step with
  | kept => exact tidy
  | spent missing =>
      have hnone := tidy.freed_of_missing missing
      have hsame : { roll with freed := roll.freed.tail } = roll := by
        rw [hnone, List.tail_nil, ← hnone]
      rw [hsame]
      exact tidy
  | @fresh slot place missing =>
      have hnone := tidy.freed_of_missing missing
      exact tidy.issue Ticket.isActive_first place (by simp [hnone]) (by simp [hnone]) _
  | @reissued slot place rest ticket freed =>
      have hnodup := tidy.freed_nodup
      rw [freed, List.nodup_cons] at hnodup
      exact tidy.issue (Ticket.isActive_next ticket) place hnodup.2 (tidy.mem_rest_iff freed) _
  | finished _ claimed current => exact tidy.finish claimed current

end Tidy

/-- Each free slot is listed once, and every other slot has one sender with its ticket. -/
structure Sound (roll : Roll) : Prop where
  freed_nodup : roll.freed.Nodup
  mem_freed_iff
    : ∀ slot,
        slot ∈ roll.freed
          ↔ ∃ ticket, roll.ticket? slot = some ticket ∧ ticket.isActive = false
  generation_eq
    : ∀ {slot ticket}, roll.ticket? slot = some ticket → ticket.generation = roll.reissues slot
  unissued : ∀ {slot}, roll.ticket? slot = none → roll.reissues slot = 0
  claim_active
    : ∀ {place claim}, roll.claim? place = some claim → claim.ticket.isActive = true
  claim_le
    : ∀ {place claim},
        roll.claim? place = some claim
        → ∃ ticket,
            roll.ticket? claim.slot = some ticket
            ∧ claim.ticket.generation ≤ ticket.generation
  claim_inj
    : ∀ {place place' claim},
        roll.claim? place = some claim → roll.claim? place' = some claim → place = place'
  claimed
    : ∀ {slot ticket},
        roll.ticket? slot = some ticket
        → ∃ place claim,
            roll.claim? place = some claim
            ∧ claim.slot = slot
            ∧ claim.ticket.generation = ticket.generation

section Sound

variable {held : Nat → Prop} {roll after : Roll}

theorem Sound.tidy (sound : roll.Sound) : roll.Tidy :=
  ⟨sound.freed_nodup, sound.mem_freed_iff, sound.claim_active⟩

/-- Issuing a sender keeps a roll sound if its ticket is active and of a later generation than any
that its slot has had, and if the slot is free no more.
-/
theorem Sound.issue (sound : roll.Sound) {claim : Claim} {place : Nat} {freed : List Nat}
    {reissues : Nat → Nat} (active : claim.ticket.isActive = true)
    (later
      : ∀ ticket,
          roll.ticket? claim.slot = some ticket → ticket.generation < claim.ticket.generation)
    (vacant : roll.claim? place = none) (nodup : freed.Nodup)
    (mem : ∀ slot, slot ∈ freed ↔ slot ∈ roll.freed ∧ slot ≠ claim.slot)
    (counted : reissues claim.slot = claim.ticket.generation)
    (others : ∀ slot, slot ≠ claim.slot → reissues slot = roll.reissues slot)
    : (roll.issue claim place freed reissues).Sound where
  freed_nodup := nodup
  mem_freed_iff := (sound.tidy.issue active place nodup mem reissues).mem_freed_iff
  generation_eq := by
    intro slot ticket found
    rw [ticket?_issue] at found
    split at found
    · next same =>
        obtain rfl := Option.some.inj found
        rw [same]
        exact counted.symm
    · next other => exact (sound.generation_eq found).trans (others slot other).symm
  unissued := by
    intro slot missing
    rw [ticket?_issue] at missing
    split at missing
    · cases missing
    · next other => exact (others slot other).trans (sound.unissued missing)
  claim_active := (sound.tidy.issue active place nodup mem reissues).claim_active
  claim_le := by
    intro place' claim' claimed
    rw [claim?_issue] at claimed
    rw [ticket?_issue]
    split at claimed
    · obtain rfl := Option.some.inj claimed
      exact ⟨claim.ticket, if_pos rfl, Nat.le_refl _⟩
    · obtain ⟨ticket, found, hle⟩ := sound.claim_le claimed
      split
      · next same =>
          rw [same] at found
          exact ⟨claim.ticket, rfl, Nat.le_of_lt (Nat.lt_of_le_of_lt hle (later ticket found))⟩
      · exact ⟨ticket, found, hle⟩
  claim_inj := by
    -- An earlier claim to the slot is of an earlier generation than the new one.
    have hnew {place' : Nat} (claimed : roll.claim? place' = some claim) : False := by
      obtain ⟨ticket, found, hle⟩ := sound.claim_le claimed
      exact Nat.not_lt.mpr hle (later ticket found)
    intro place' place'' claim' first second
    rw [claim?_issue] at first second
    split at first <;> split at second
    · next here there => exact here.trans there.symm
    · obtain rfl := Option.some.inj first
      exact (hnew second).elim
    · obtain rfl := Option.some.inj second
      exact (hnew first).elim
    · exact sound.claim_inj first second
  claimed := by
    intro slot ticket found
    rw [ticket?_issue] at found
    split at found
    · next same =>
        obtain rfl := Option.some.inj found
        exact ⟨place, claim, if_pos rfl, same.symm, rfl⟩
    · obtain ⟨place', claim', claimed, hslot, hgeneration⟩ := sound.claimed found
      exact ⟨place', claim', claim?_issue_of_claimed claimed vacant _ _ _, hslot, hgeneration⟩

/-- Ending the current registration of a slot keeps a roll sound. -/
theorem Sound.finish (sound : roll.Sound) {place : Nat} {claim : Claim}
    (claimed : roll.claim? place = some claim)
    (current : roll.ticket? claim.slot = some claim.ticket)
    : (roll.finish claim).Sound where
  freed_nodup := (sound.tidy.finish claimed current).freed_nodup
  mem_freed_iff := (sound.tidy.finish claimed current).mem_freed_iff
  generation_eq := by
    intro slot ticket found
    rw [ticket?_finish] at found
    split at found
    · next same =>
        subst same
        obtain rfl := Option.some.inj found
        exact (Ticket.generation_ended _).trans (sound.generation_eq current)
    · exact sound.generation_eq found
  unissued := by
    intro slot missing
    rw [ticket?_finish] at missing
    split at missing
    · cases missing
    · exact sound.unissued missing
  claim_active := sound.claim_active
  claim_le := by
    intro place' claim' claimed'
    obtain ⟨ticket, found, hle⟩ := sound.claim_le claimed'
    rw [ticket?_finish]
    split
    · next same =>
        rw [same] at found
        obtain rfl := Option.some.inj (found.symm.trans current)
        exact ⟨_, rfl, (Ticket.generation_ended _).symm ▸ hle⟩
    · exact ⟨ticket, found, hle⟩
  claim_inj := sound.claim_inj
  claimed := by
    intro slot ticket found
    rw [ticket?_finish] at found
    split at found
    · next same =>
        obtain rfl := Option.some.inj found
        exact ⟨place, claim, claimed, same.symm, (Ticket.generation_ended _).symm⟩
    · exact sound.claimed found

/-- Issuing a slot again raises the generation of its ticket by one. -/
theorem Sound.generation_next (sound : roll.Sound) {slot : Nat} {ticket : Ticket}
    (found : roll.ticket? slot = some ticket) (few : roll.reissues slot + 1 < reissueLimit)
    : ticket.next.generation = ticket.generation + 1 := by
  apply Ticket.generation_next
  rw [sound.generation_eq found]
  exact few

/-- What happens to a sound roll leaves it sound, as long as no slot has been issued again so often
that its tickets repeat.
-/
theorem Sound.step (sound : roll.Sound) (step : Step held roll after)
    (few : ∀ slot, after.reissues slot < reissueLimit)
    : after.Sound := by
  cases step with
  | kept => exact sound
  | spent missing =>
      have hnone := sound.tidy.freed_of_missing missing
      have hsame : { roll with freed := roll.freed.tail } = roll := by
        rw [hnone, List.tail_nil, ← hnone]
      rw [hsame]
      exact sound
  | @fresh slot place missing unused vacant =>
      have hnone := sound.tidy.freed_of_missing missing
      refine sound.issue Ticket.isActive_first ?_ vacant ?_ ?_ ?_ fun _ _ => rfl
      · intro ticket found
        cases unused.symm.trans found
      · simp [hnone]
      · simp [hnone]
      · exact (sound.unissued unused).trans Ticket.generation_first.symm
  | @reissued slot place rest ticket freed found vacant =>
      have hfew := few slot
      have hcount := sound.generation_eq found
      have hnodup := sound.freed_nodup
      simp only [Roll.issue, if_true] at hfew
      rw [freed, List.nodup_cons] at hnodup
      have hnext := sound.generation_next found hfew
      refine sound.issue (Ticket.isActive_next ticket) ?_ vacant hnodup.2 ?_ ?_ ?_
      · intro ticket' found'
        obtain rfl := Option.some.inj (found.symm.trans found')
        exact Nat.lt_of_lt_of_eq (Nat.lt_succ_self _) hnext.symm
      · exact sound.tidy.mem_rest_iff freed
      · rw [if_pos rfl, hnext, hcount]
      · intro slot' other
        exact if_neg other
  | finished _ claimed current => exact sound.finish claimed current

/-- A sender whose registration is not current never becomes current again: the tickets of its slot
change to later generations and to inactive ones only.
-/
theorem Sound.outdated_step (sound : roll.Sound) (step : Step held roll after)
    (few : ∀ slot, after.reissues slot < reissueLimit) {place : Nat} {claim : Claim}
    (claimed : roll.claim? place = some claim)
    (outdated : roll.ticket? claim.slot ≠ some claim.ticket)
    : after.claim? place = some claim ∧ after.ticket? claim.slot ≠ some claim.ticket := by
  cases step with
  | kept | spent => exact ⟨claimed, outdated⟩
  | @fresh slot _ missing unused vacant =>
      refine ⟨claim?_issue_of_claimed claimed vacant _ _ _, ?_⟩
      rw [ticket?_issue]
      split
      · next same =>
          obtain ⟨ticket, found, _⟩ := sound.claim_le claimed
          rw [same] at found
          cases unused.symm.trans found
      · exact outdated
  | @reissued slot _ rest ticket freed found vacant =>
      refine ⟨claim?_issue_of_claimed claimed vacant _ _ _, ?_⟩
      rw [ticket?_issue]
      split
      · next same =>
          obtain ⟨ticket', found', hle⟩ := sound.claim_le claimed
          rw [same] at found'
          obtain rfl := Option.some.inj (found.symm.trans found')
          have hfew := few slot
          simp only [Roll.issue, if_true] at hfew
          have hnext := sound.generation_next found hfew
          intro current
          have hsame := congrArg Ticket.generation (Option.some.inj current)
          simp only at hsame
          omega
      · exact outdated
  | @finished _ claim' _ _ current =>
      refine ⟨claimed, ?_⟩
      rw [ticket?_finish]
      split
      · intro ended
        have hactive := sound.claim_active claimed
        rw [← Option.some.inj ended, Ticket.isActive_ended] at hactive
        cases hactive
      · exact outdated

/-- A registration goes on and its slot is not issued again unless its own sender ends it, which
takes a sender that is held.
-/
theorem Sound.unheld_step (sound : roll.Sound) (step : Step held roll after) {place : Nat}
    {claim : Claim} (claimed : roll.claim? place = some claim)
    (current : roll.ticket? claim.slot = some claim.ticket) (unheld : ¬held place)
    : after.claim? place = some claim
      ∧ after.ticket? claim.slot = some claim.ticket
      ∧ after.reissues claim.slot = roll.reissues claim.slot := by
  cases step with
  | kept | spent => exact ⟨claimed, current, rfl⟩
  | @fresh slot _ missing unused vacant =>
      refine ⟨claim?_issue_of_claimed claimed vacant _ _ _, ?_, rfl⟩
      rw [ticket?_issue, if_neg]
      · exact current
      · intro same
        rw [same] at current
        cases unused.symm.trans current
  | @reissued slot _ rest ticket freed found vacant =>
      have hother : claim.slot ≠ slot := by
        intro same
        have hfreed : claim.slot ∈ roll.freed := by simp [freed, same]
        exact sound.tidy.vacant claimed hfreed current
      exact ⟨claim?_issue_of_claimed claimed vacant _ _ _, (if_neg hother).trans current,
        if_neg hother⟩
  | @finished place' claim' holds claimed' current' =>
      refine ⟨claimed, ?_, rfl⟩
      rw [ticket?_finish, if_neg]
      · exact current
      · intro same
        -- The sender that ends the registration would be the same one.
        rw [same] at current
        obtain rfl : claim = claim' :=
          Claim.ext same (Option.some.inj (current.symm.trans current'))
        exact unheld (sound.claim_inj claimed' claimed ▸ holds)

/-- What a later roll keeps of an earlier one: a registration that is not current does not come
back, and one whose sender has been let go stays current, so that its slot is not issued again.
-/
structure Since (held later : Nat → Prop) (before after : Roll) : Prop where
  outdated
    : ∀ {place claim},
        before.claim? place = some claim
        → before.ticket? claim.slot ≠ some claim.ticket
        → after.claim? place = some claim ∧ after.ticket? claim.slot ≠ some claim.ticket
  unheld
    : ∀ {place claim},
        before.claim? place = some claim
        → before.ticket? claim.slot = some claim.ticket
        → ¬held place
        → after.claim? place = some claim
          ∧ after.ticket? claim.slot = some claim.ticket
          ∧ ¬later place
          ∧ after.reissues claim.slot = before.reissues claim.slot

theorem Since.refl (held : Nat → Prop) (roll : Roll) : Since held held roll roll where
  outdated := fun claimed outdated => ⟨claimed, outdated⟩
  unheld := fun claimed current unheld => ⟨claimed, current, unheld, rfl⟩

theorem Since.trans {held later last : Nat → Prop} {first second third : Roll}
    (hf : Since held later first second) (hs : Since later last second third)
    : Since held last first third where
  outdated := by
    intro place claim claimed outdated
    obtain ⟨hclaimed, houtdated⟩ := hf.outdated claimed outdated
    exact hs.outdated hclaimed houtdated
  unheld := by
    intro place claim claimed current unheld
    obtain ⟨hclaimed, hcurrent, hunheld, hsame⟩ := hf.unheld claimed current unheld
    obtain ⟨hclaimed', hcurrent', hunheld', hsame'⟩ := hs.unheld hclaimed hcurrent hunheld
    exact ⟨hclaimed', hcurrent', hunheld', hsame'.trans hsame⟩

theorem Sound.since_step (sound : roll.Sound) (step : Step held roll after)
    (few : ∀ slot, after.reissues slot < reissueLimit) {later : Nat → Prop}
    (gone : ∀ place claim, roll.claim? place = some claim → ¬held place → ¬later place)
    : Since held later roll after where
  outdated := sound.outdated_step step few
  unheld := by
    intro place claim claimed current unheld
    obtain ⟨hclaimed, hcurrent, hsame⟩ := sound.unheld_step step claimed current unheld
    exact ⟨hclaimed, hcurrent, gone place claim claimed unheld, hsame⟩

/-- One sender has the ticket of a slot that is not free, the one that was issued with it. -/
theorem Sound.holder (sound : roll.Sound) {slot : Nat} {ticket : Ticket}
    (found : roll.ticket? slot = some ticket) (taken : slot ∉ roll.freed)
    : ∃ place, roll.claim? place = some ⟨slot, ticket⟩ := by
  have hactive : ticket.isActive = true := by
    cases inactive : ticket.isActive with
    | true => rfl
    | false => exact absurd ((sound.mem_freed_iff slot).mpr ⟨ticket, found, inactive⟩) taken
  obtain ⟨place, claim, claimed, rfl, hgeneration⟩ := sound.claimed found
  obtain rfl : claim.ticket = ticket :=
    Ticket.eq_of_generation hgeneration ((sound.claim_active claimed).trans hactive.symm)
  exact ⟨place, claimed⟩

end Sound

end Roll

end Crossbar
