import Crossbar.Proofs.ChannelHistory
import Crossbar.Proofs.OperationHistory

/-! How long waits last. A wait is given a length in seconds and nanoseconds, and its deadline is a
reading of a clock that keeps lengths modulo its range. Lengths below the range are kept, and a
deadline past the range is never reached. A length of the range or more has lost whole ranges by
then, and a wait of that length gives up early unless what is left still reaches past the range.
-/

namespace Crossbar

variable {α : Type}

-----------------------------------------------------------------------------------------
-- Clocks and lengths
-----------------------------------------------------------------------------------------

/-- How far past its deadline a clock has to be for a wait to give up. -/
def Patience.slack : Patience → Nat
  | .untilReached => 0
  | .untilPassed => 1

theorem Patience.expired_iff (patience : Patience) (deadline now : Nat)
    : patience.expired (some deadline) now = true ↔ deadline + patience.slack ≤ now := by
  cases patience with
  | untilReached => exact decide_eq_true_iff
  | untilPassed => exact decide_eq_true_iff.trans Nat.lt_iff_add_one_le

/-- The readings of a clock in a wait that begins at `start`: it never goes back, and no reading is
out of range.
-/
structure Ticks {σ : Type} (start : Nat) (turns : List (Turn σ)) : Prop where
  ordered : (start :: turns.map Turn.now).Pairwise (· ≤ ·)
  within : ∀ turn ∈ turns, turn.now < clockRange

/-- A wait of this length does not give up early: if it gives up its whole length has passed, and if
the clock cannot reach the end of it the wait does not give up at all.
-/
def Lasts {γ β : Type} (span : Span) (start : Nat) (outcome : Waited γ β) : Prop :=
  ∀ carried now,
    outcome = .gaveUp carried now
    → start + span.total ≤ now ∧ start + span.total < clockRange

/-- The clock can keep the length of a wait that begins at `start`, or what it keeps of it goes past
the range all the same.
-/
def Span.Kept (span : Span) (patience : Patience) (start : Nat) : Prop :=
  span.total < clockRange ∨ clockRange ≤ start + span.total % clockRange + patience.slack

section Await

variable {γ β σ : Type} {patience : Patience} {deadline : Option Nat}
  {attempt : γ → σ → Except γ β × σ} {span : Span} {start : Nat}

/-- A wait gives up at a reading of its clock by which the deadline has expired. The induction is on
the turns.
-/
theorem await_gaveUp {turns : List (Turn σ)} {carried kept : γ} {state : σ} {now : Nat}
    (gaveUp : (await patience deadline attempt turns carried state).1 = .gaveUp kept now)
    : ∃ turn ∈ turns, turn.now = now ∧ patience.expired deadline now = true := by
  induction turns generalizing carried state with
  | nil =>
      rcases hresult : attempt carried state with ⟨_ | _, next⟩
      · rw [await_nil_of_error hresult] at gaveUp
        cases gaveUp
      · rw [await_of_ok hresult] at gaveUp
        cases gaveUp
  | cons turn rest ih =>
      rcases hresult : attempt carried state with ⟨_ | _, next⟩
      · rw [await_cons_of_error hresult] at gaveUp
        split at gaveUp
        · next expired =>
            obtain ⟨_, rfl⟩ := Waited.gaveUp.inj gaveUp
            exact ⟨turn, List.mem_cons_self, rfl, expired⟩
        · obtain ⟨later, member, hlater⟩ := ih gaveUp
          exact ⟨later, List.mem_cons_of_mem _ member, hlater⟩
      · rw [await_of_ok hresult] at gaveUp
        cases gaveUp

/-- Waits of a length that is kept last, whatever is waited for. -/
theorem await_lasts (kept : span.Kept patience start) {turns : List (Turn σ)}
    (ticks : Ticks start turns) (carried : γ) (state : σ)
    : Lasts span start
        (await patience ((Timeout.within span).deadline start) attempt turns carried state).1 := by
  intro kept' now gaveUp
  obtain ⟨turn, member, rfl, expired⟩ := await_gaveUp gaveUp
  have hwithin := ticks.within turn member
  simp only [Timeout.deadline] at expired
  split at expired
  · next reached =>
      rw [Patience.expired_iff] at expired
      rcases kept with short | past
      · rw [Nat.mod_eq_of_lt short] at expired
        omega
      · omega
  · cases patience <;> cases expired

/-- Any wait of another length may give up early: when its first attempt fails and the clock is at
its deadline by then.
-/
theorem not_lasts_of_stuck (unkept : ¬span.Kept patience start) {carried kept : γ} {state next : σ}
    (stuck : attempt carried state = (.error kept, next))
    : ∃ turns,
        Ticks start turns
        ∧ ¬Lasts span start
            (await patience ((Timeout.within span).deadline start) attempt turns carried
              state).1 := by
  rw [Span.Kept, not_or, Nat.not_lt, Nat.not_le] at unkept
  obtain ⟨long, early⟩ := unkept
  have hdeadline : (Timeout.within span).deadline start
      = some (start + span.total % clockRange) := by
    rw [Timeout.deadline]
    exact if_pos (by omega)
  refine ⟨[⟨start + span.total % clockRange + patience.slack, id⟩], ⟨?_, ?_⟩, fun lasts => ?_⟩
  · simp
    omega
  · simpa using early
  · have hgaveUp := lasts kept (start + span.total % clockRange + patience.slack) (by
      rw [await_cons_of_error stuck, hdeadline,
        if_pos ((Patience.expired_iff ..).mpr (Nat.le_refl _))])
    omega

end Await

-----------------------------------------------------------------------------------------
-- The waits of the program
-----------------------------------------------------------------------------------------

/-- Every wait of a consumer for a value that begins at `start` lasts. -/
def ConsumersLast (α : Type) (span : Span) (start : Nat) : Prop :=
  ∀ (shape : Shape) (configs : List Config) (now : Nat)
    (operations : List (Session.Operation α)) (place : Nat) (reading : Reading α)
    (turns : List (Turn (Reading α))),
    ((Session.start shape configs).after now operations).reading? place = some reading
    → Ticks start turns
    → Lasts span start (reading.popWait (.within span) start turns).1

/-- Every wait at the reader's end of a channel that begins at `start` lasts. -/
def ReadersLast (α : Type) (span : Span) (start : Nat) : Prop :=
  ∀ (capacity : Nat) (first : Channel α) (moves : List (Channel.Move α))
    (turns : List (Turn (Channel α))),
    Channel.allocate? capacity = some first
    → (first.moved moves).readerOpen = true
    → Ticks start turns
    → Lasts span start ((first.moved moves).popWait (.within span) start turns).1

/-- Every wait at the writer's end of a channel with this value that begins at `start` lasts. -/
def WritersLast (value : α) (span : Span) (start : Nat) : Prop :=
  ∀ (capacity : Nat) (first : Channel α) (moves : List (Channel.Move α))
    (turns : List (Turn (Channel α))),
    Channel.allocate? capacity = some first
    → (first.moved moves).writerOpen = true
    → Ticks start turns
    → Lasts span start ((first.moved moves).pushWait (.within span) start turns value).1

section Waits

variable {span : Span} {start : Nat}

/-- The only consumer of a fabric without producers may have to wait for ever. -/
theorem consumersLast_iff : ConsumersLast α span start ↔ span.Kept .untilReached start := by
  constructor
  · intro last
    refine Classical.byContradiction fun unkept => ?_
    obtain ⟨reading, found, next, stuck⟩ : ∃ reading : Reading α,
        ((Session.start ⟨1, 1⟩ [⟨1, true⟩]).after 0 [.registerConsumer 0]).reading? 0
          = some reading
        ∧ ∃ next, reading.attempt () = (.error (), next) :=
      ⟨_, rfl, _, rfl⟩
    obtain ⟨turns, ticks, early⟩ := not_lasts_of_stuck unkept stuck
    exact early (last _ _ _ _ _ _ turns found ticks)
  · intro kept _ _ _ _ _ reading turns _ ticks
    exact await_lasts kept ticks () reading

/-- The reader of a new channel may have to wait for ever. -/
theorem readersLast_iff : ReadersLast α span start ↔ span.Kept .untilPassed start := by
  constructor
  · intro last
    refine Classical.byContradiction fun unkept => ?_
    have hfirst : Channel.allocate? 1 = some (⟨.empty 1 0, true, true⟩ : Channel α) := rfl
    have stuck : Channel.popAttempt () (⟨.empty 1 0, true, true⟩ : Channel α)
        = (.error (), _) := rfl
    obtain ⟨turns, ticks, early⟩ := not_lasts_of_stuck unkept stuck
    exact early (last 1 _ [] turns hfirst rfl ticks)
  · intro kept _ first moves turns _ _ ticks
    exact await_lasts kept ticks () (first.moved moves)

/-- A channel for one value is full once it holds one. -/
theorem Channel.pushAttempt_of_filled (value : α)
    : ∃ next,
        pushAttempt value
            ((⟨.empty 1 0, true, true⟩ : Channel α).moved [.once (.writer (.push value))])
          = (.error value, next) := by
  have hsound : (Ring.empty 1 0 : Ring α).Sound :=
    Ring.sound_empty 0 (by decide) (by decide)
  have hroom : (Ring.empty 1 0 : Ring α).size < 1 := by
    rw [← Ring.length_toList hsound, Ring.toList_empty]
    exact Nat.one_pos
  obtain ⟨_, hsound', hheld⟩ := Ring.push_of_room value hsound hroom
  have hfull : ((Ring.empty 1 0).push value).2.size
      = ((Ring.empty 1 0).push value).2.capacity := by
    rw [← Ring.length_toList hsound', hheld, Ring.toList_empty, Ring.capacity_push]
    rfl
  have hpush := Ring.push_of_full value hsound' hfull
  have hmoved : (⟨.empty 1 0, true, true⟩ : Channel α).moved [.once (.writer (.push value))]
      = ⟨((Ring.empty 1 0).push value).2, true, true⟩ := rfl
  rw [hmoved, pushAttempt, push, hpush]
  exact ⟨_, rfl⟩

/-- The writer of a full channel may have to wait for ever. -/
theorem writersLast_iff (value : α)
    : WritersLast value span start ↔ span.Kept .untilPassed start := by
  constructor
  · intro last
    refine Classical.byContradiction fun unkept => ?_
    have hfirst : Channel.allocate? 1 = some (⟨.empty 1 0, true, true⟩ : Channel α) := rfl
    obtain ⟨_, stuck⟩ := Channel.pushAttempt_of_filled value
    obtain ⟨turns, ticks, early⟩ := not_lasts_of_stuck unkept stuck
    exact early (last 1 _ [.once (.writer (.push value))] turns hfirst rfl ticks)
  · intro kept _ first moves turns _ _ ticks
    exact await_lasts kept ticks value (first.moved moves)

end Waits

/-- A wait never gives up before its length has passed, nor at all if its end is out of the range of
the clock, exactly if the clock can keep that length or what it keeps of it goes past the range all
the same.
-/
theorem waits_last_iff (value : α) (span : Span) (start : Nat)
    : (ConsumersLast α span start ↔ span.Kept .untilReached start)
      ∧ (ReadersLast α span start ↔ span.Kept .untilPassed start)
      ∧ (WritersLast value span start ↔ span.Kept .untilPassed start) :=
  ⟨consumersLast_iff, readersLast_iff, writersLast_iff value⟩

/-- A length of 2^64 nanoseconds, which is more than 584 years, is kept as no time at all, while the
longest one there is leaves the most that can be kept, and a wait of that length lasts.
-/
theorem waits_last_iff_wrapped
    : ¬ConsumersLast Nat ⟨18446744073, 709551616⟩ 0
      ∧ ¬ReadersLast Nat ⟨18446744073, 709551616⟩ 0
      ∧ ¬WritersLast 5 ⟨18446744073, 709551616⟩ 0
      ∧ ConsumersLast Nat ⟨18446744073709551615, 999999999⟩ 1 := by
  obtain ⟨hconsumers, hreaders, hwriters⟩ := waits_last_iff 5 ⟨18446744073, 709551616⟩ 0
  have hunkept (patience : Patience)
      : ¬(⟨18446744073, 709551616⟩ : Span).Kept patience 0 := by
    cases patience <;> simp [Span.Kept, Span.total, clockRange, Patience.slack]
  refine ⟨mt hconsumers.mp (hunkept _), mt hreaders.mp (hunkept _), mt hwriters.mp (hunkept _), ?_⟩
  refine (waits_last_iff 5 _ 1).1.mpr (.inr ?_)
  decide

end Crossbar
