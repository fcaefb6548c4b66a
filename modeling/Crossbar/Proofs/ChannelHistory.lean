import Mathlib.Data.List.Infix
import Crossbar.Channel.Session
import Crossbar.Proofs.RingRefinement

/-! Runs on the two ends of a channel. Whatever is asked of the ends and in whatever order they
close, the values accepted are those taken so far followed by those held, until the second end
closes and releases what is held. A wait at one end comes to a run of attempts there and of whatever
the other end does between them.
-/

namespace Crossbar

section Await

variable {γ β σ : Type} {patience : Patience} {deadline : Option Nat}
  {attempt : γ → σ → Except γ β × σ} {carried kept : γ} {state next : σ}

theorem await_of_ok {answer : β} (ok : attempt carried state = (.ok answer, next))
    (turns : List (Turn σ))
    : await patience deadline attempt turns carried state = (.done answer, next) := by
  cases turns <;> rw [await, ok]

theorem await_nil_of_error (error : attempt carried state = (.error kept, next))
    : await patience deadline attempt [] carried state = (.waiting kept, next) := by
  rw [await, error]

theorem await_cons_of_error (error : attempt carried state = (.error kept, next))
    (turn : Turn σ) (turns : List (Turn σ))
    : await patience deadline attempt (turn :: turns) carried state
        = if patience.expired deadline turn.now then
            (.gaveUp kept turn.now, next)
          else
            await patience deadline attempt turns kept (turn.meanwhile next) := by
  rw [await, error]

end Await

namespace Channel

variable {α : Type}

-----------------------------------------------------------------------------------------
-- Operations on the two ends
-----------------------------------------------------------------------------------------

/-- What the owner of the writer's end can do with it, other than wait. -/
inductive WriterCall (α : Type) where
  | push (value : α)
  | close
deriving Repr, DecidableEq

/-- What the owner of the reader's end can do with it, other than wait. -/
inductive ReaderCall where
  | pop
  | size
  | isEmpty
  | close
deriving Repr, DecidableEq

/-- A single operation on one of the ends. -/
inductive Operation (α : Type) where
  | writer (call : WriterCall α)
  | reader (call : ReaderCall)
deriving Repr, DecidableEq

namespace Operation

/-- The command that asks for an operation. -/
def command : Operation α → Command α
  | .writer (.push value) => .push value
  | .writer .close => .closeWriter
  | .reader .pop => .pop
  | .reader .size => .size
  | .reader .isEmpty => .isEmpty
  | .reader .close => .closeReader

/-- The value that an operation with this answer put in. -/
def accepts : Operation α → Reply α → List α
  | .writer (.push value), .offer .accepted => [value]
  | _, _ => []

end Operation

/-- The value that an answer hands out. -/
def Reply.takes : Reply α → List α
  | .value (some found) => [found]
  | _ => []

/-- What an operation does to a channel. It does not depend on the time. -/
def operate (channel : Channel α) (operation : Operation α) : Outcome α :=
  channel.step 0 operation.command

/-- The channel after a run of operations. -/
def after (operations : List (Operation α)) (channel : Channel α) : Channel α :=
  operations.foldl (fun channel operation => (channel.operate operation).channel) channel

/-- The operations of a run, each with its outcome. -/
def course : List (Operation α) → Channel α → List (Operation α × Outcome α)
  | [], _ => []
  | operation :: rest, channel =>
      let outcome := channel.operate operation
      (operation, outcome) :: course rest outcome.channel

/-- The values that were put in over a run, in order. -/
def accepted (past : List (Operation α × Outcome α)) : List α :=
  past.flatMap fun entry => entry.1.accepts entry.2.reply

/-- The values that were popped over a run, in order. -/
def taken (past : List (Operation α × Outcome α)) : List α :=
  past.flatMap fun entry => entry.2.reply.takes

/-- The values that were released over a run, in order. -/
def released (past : List (Operation α × Outcome α)) : List α :=
  past.flatMap fun entry => entry.2.released

/-- The values held, oldest first. -/
def held (channel : Channel α) : List α :=
  channel.ring.toList

/-- At least one end is open. -/
def Lives (channel : Channel α) : Prop :=
  channel.writerOpen = true ∨ channel.readerOpen = true

theorem Reply.takes_value (value : Option α) : (Reply.value value).takes = value.toList := by
  cases value <;> rfl

section Course

variable (operations more : List (Operation α)) (channel : Channel α)

theorem after_append
    : channel.after (operations ++ more) = (channel.after operations).after more :=
  List.foldl_append

theorem course_append
    : course (operations ++ more) channel
        = course operations channel ++ course more (channel.after operations) := by
  induction operations generalizing channel with
  | nil => rfl
  | cons operation rest ih => exact congrArg (_ :: ·) (ih _)

variable (past later : List (Operation α × Outcome α))

theorem released_append : released (past ++ later) = released past ++ released later :=
  List.flatMap_append

end Course

/-- What closing an end does: nothing if it is closed, and otherwise it ends the channel unless the
other end is open.
-/
inductive Closing (channel : Channel α) : List α × Channel α → Prop
  | again : Closing channel ([], channel)
  | first {next : Channel α} (ring : next.ring = channel.ring) (lives : channel.Lives)
    (onward : next.Lives)
    : Closing channel ([], next)
  | last {next : Channel α} (ring : next.ring = channel.ring) (lives : channel.Lives)
    (dead : ¬next.Lives)
    : Closing channel next.dispose

theorem closing_closeWriter (channel : Channel α) : channel.Closing channel.closeWriter := by
  obtain ⟨ring, writes, reads⟩ := channel
  cases writes with
  | false => exact .again
  | true =>
      cases reads with
      | true => exact .first rfl (.inl rfl) (.inr rfl)
      | false => exact .last rfl (.inl rfl) (by simp [Lives])

theorem closing_closeReader (channel : Channel α) : channel.Closing channel.closeReader := by
  obtain ⟨ring, writes, reads⟩ := channel
  cases reads with
  | false => exact .again
  | true =>
      cases writes with
      | true => exact .first rfl (.inl rfl) (.inl rfl)
      | false => exact .last rfl (.inr rfl) (by simp [Lives])

-----------------------------------------------------------------------------------------
-- What every operation keeps
-----------------------------------------------------------------------------------------

/-- The accounts of a channel balance: what went in has been popped, has been released or is held,
in this order. While an end is open nothing has been released and the totals of the ring are the
counts of what went in and out, modulo their range.
-/
structure Accounts (capacity : Nat) (past : List (Operation α × Outcome α))
    (channel : Channel α) : Prop where
  sound : channel.ring.Sound
  capacity_eq : channel.ring.capacity = capacity
  accepted_eq : accepted past = taken past ++ released past ++ channel.held
  unreleased : channel.Lives → released past = []
  emptied : ¬channel.Lives → channel.held = []
  pushed_eq : channel.Lives → channel.ring.pushed = UInt64.ofNat (accepted past).length
  popped_eq : channel.Lives → channel.ring.popped = UInt64.ofNat (taken past).length

section Accounts

variable {capacity : Nat} {past : List (Operation α × Outcome α)} {channel next : Channel α}

theorem accounts_start (positive : 0 < capacity) (fits : capacity < Ring.allocationLimit)
    : Accounts capacity [] (⟨.empty capacity 0, true, true⟩ : Channel α) where
  sound := Ring.sound_empty 0 positive (Nat.lt_trans fits (by decide))
  capacity_eq := rfl
  accepted_eq := (Ring.toList_empty ..).symm
  unreleased := fun _ => rfl
  emptied := fun _ => Ring.toList_empty ..
  pushed_eq := fun _ => rfl
  popped_eq := fun _ => rfl

/-- What passes nothing and leaves the ring and an open end keeps the accounts. -/
theorem Accounts.idle (accounts : Accounts capacity past channel) {operation : Operation α}
    {outcome : Outcome α} (ring : outcome.channel.ring = channel.ring)
    (lives : outcome.channel.Lives ↔ channel.Lives)
    (accepts : operation.accepts outcome.reply = []) (takes : outcome.reply.takes = [])
    (quiet : outcome.released = [])
    : Accounts capacity (past ++ [(operation, outcome)]) outcome.channel := by
  have haccepted : accepted (past ++ [(operation, outcome)]) = accepted past := by
    simp [accepted, accepts]
  have htaken : taken (past ++ [(operation, outcome)]) = taken past := by
    simp [taken, takes]
  have hreleased : released (past ++ [(operation, outcome)]) = released past := by
    simp [released, quiet]
  obtain ⟨sound, capacity_eq, accepted_eq, unreleased, emptied, pushed_eq, popped_eq⟩ := accounts
  constructor <;> simp only [haccepted, htaken, hreleased, held, ring, lives] <;> assumption

/-- While an end is open an operation may put values in behind those held and take some from the
front, and then the totals move by their numbers.
-/
theorem Accounts.exchange (accounts : Accounts capacity past channel) (lives : channel.Lives)
    {operation : Operation α} {outcome : Outcome α} (quiet : outcome.released = [])
    (lives' : outcome.channel.Lives) (sound : outcome.channel.ring.Sound)
    (capacity_eq : outcome.channel.ring.capacity = channel.ring.capacity)
    (held_eq
      : channel.held ++ operation.accepts outcome.reply
        = outcome.reply.takes ++ outcome.channel.held)
    (pushed_eq
      : outcome.channel.ring.pushed
        = channel.ring.pushed + UInt64.ofNat (operation.accepts outcome.reply).length)
    (popped_eq
      : outcome.channel.ring.popped
        = channel.ring.popped + UInt64.ofNat outcome.reply.takes.length)
    : Accounts capacity (past ++ [(operation, outcome)]) outcome.channel := by
  have haccepted : accepted (past ++ [(operation, outcome)])
      = accepted past ++ operation.accepts outcome.reply := by
    simp [accepted]
  have htaken : taken (past ++ [(operation, outcome)]) = taken past ++ outcome.reply.takes := by
    simp [taken]
  have hreleased : released (past ++ [(operation, outcome)]) = [] := by
    simpa [released, quiet] using accounts.unreleased lives
  exact {
    sound
    capacity_eq := capacity_eq.trans accounts.capacity_eq
    accepted_eq := by
      rw [haccepted, htaken, hreleased, accounts.accepted_eq, accounts.unreleased lives,
        List.append_nil, List.append_nil, List.append_assoc, held_eq, List.append_assoc]
    unreleased := fun _ => hreleased
    emptied := fun dead => absurd lives' dead
    pushed_eq := fun _ => by
      rw [pushed_eq, accounts.pushed_eq lives, haccepted, List.length_append, UInt64.ofNat_add]
    popped_eq := fun _ => by
      rw [popped_eq, accounts.popped_eq lives, htaken, List.length_append, UInt64.ofNat_add]
  }

/-- A push adds its value to what is held, if there is room for it. -/
theorem Accounts.push (accounts : Accounts capacity past channel)
    (writes : channel.writerOpen = true) (value : α)
    : Accounts capacity
        (past ++ [(.writer (.push value), .quiet (.offer (channel.push value).1)
          (channel.push value).2)])
        (channel.push value).2 := by
  rcases Nat.lt_or_eq_of_le accounts.sound.size_le with room | full
  · obtain ⟨haccepted, hsound, hheld⟩ := Ring.push_of_room value accounts.sound room
    have hpushed := (Ring.push_stores value haccepted).2
    have hpopped := channel.ring.popped_push value
    have hoffer : (channel.push value).1 = .accepted := haccepted
    refine accounts.exchange (.inl writes) rfl (.inl writes) hsound
      (channel.ring.capacity_push value) ?_ ?_ ?_
    · rw [Outcome.quiet, hoffer]
      exact hheld.symm
    · rw [Outcome.quiet, hoffer]
      exact hpushed
    · rw [Outcome.quiet, hoffer]
      exact hpopped.trans (UInt64.add_zero _).symm
  · have hpush : channel.push value
        = (.rejected value, { channel with ring := channel.ring.refreshPopped }) := by
      rw [Channel.push, Ring.push_of_full value accounts.sound full]
    rw [hpush]
    refine accounts.exchange (.inl writes) rfl (.inl writes)
      (Ring.sound_refreshPopped accounts.sound) rfl ?_ ?_ ?_
    · exact List.append_nil _
    · exact (UInt64.add_zero _).symm
    · exact (UInt64.add_zero _).symm

/-- A pop takes the oldest value held, if there is one. -/
theorem Accounts.pop (accounts : Accounts capacity past channel)
    (reads : channel.readerOpen = true)
    : Accounts capacity
        (past ++ [(.reader .pop, .quiet (.value channel.pop.1) channel.pop.2)])
        channel.pop.2 := by
  have hfront := Ring.pop_fst accounts.sound
  have hrest := Ring.toList_pop accounts.sound
  have hpopped := Ring.popped_pop accounts.sound
  have htakes : (Reply.value channel.pop.1).takes = channel.ring.pop.1.toList := Reply.takes_value _
  refine accounts.exchange (.inr reads) rfl (.inr reads) (Ring.sound_pop accounts.sound)
    channel.ring.capacity_pop ?_ ?_ ?_
  · rw [Outcome.quiet, htakes, hfront]
    refine (List.append_nil _).trans (Eq.trans ?_ (congrArg (_ ++ ·) hrest.symm))
    rw [held]
    cases channel.ring.toList <;> rfl
  · exact channel.ring.pushed_pop.trans (UInt64.add_zero _).symm
  · rw [Outcome.quiet, htakes]
    exact hpopped

/-- Closing an end releases what is held if it ends the channel, and passes nothing else. -/
theorem Accounts.close (accounts : Accounts capacity past channel)
    {result : List α × Channel α} (closing : channel.Closing result) {operation : Operation α}
    {reply : Reply α} (accepts : operation.accepts reply = []) (takes : reply.takes = [])
    : Accounts capacity (past ++ [(operation, ⟨reply, result.1, result.2⟩)]) result.2 := by
  cases closing with
  | again => exact accounts.idle rfl .rfl accepts takes rfl
  | first ring lives onward =>
      exact accounts.idle ring (iff_of_true onward lives) accepts takes rfl
  | @last next ring lives dead =>
      have hrelease : next.dispose.1 = channel.held := by
        rw [dispose, ring]
        exact Ring.release_eq_toList accounts.sound
      have hempty : next.dispose.2.held = [] := Ring.toList_empty ..
      have haccepted : accepted (past ++ [(operation, ⟨reply, next.dispose.1, next.dispose.2⟩)])
          = accepted past := by
        simp [accepted, accepts]
      have htaken : taken (past ++ [(operation, ⟨reply, next.dispose.1, next.dispose.2⟩)])
          = taken past := by
        simp [taken, takes]
      have hreleased : released (past ++ [(operation, ⟨reply, next.dispose.1, next.dispose.2⟩)])
          = channel.held := by
        rw [released_append, accounts.unreleased lives]
        simpa [released] using hrelease
      have hsound := accounts.sound
      rw [← ring] at hsound
      exact {
        sound := Ring.sound_empty 0 hsound.capacity_pos hsound.capacity_lt
        capacity_eq := (congrArg Ring.capacity ring).trans accounts.capacity_eq
        accepted_eq := by
          rw [haccepted, htaken, hreleased, hempty, List.append_nil, accounts.accepted_eq,
            accounts.unreleased lives, List.append_nil]
        unreleased := fun lives => absurd lives dead
        emptied := fun _ => hempty
        pushed_eq := fun lives => absurd lives dead
        popped_eq := fun lives => absurd lives dead
      }

/-- Every operation keeps the accounts balanced. -/
theorem Accounts.operate (accounts : Accounts capacity past channel) (operation : Operation α)
    : Accounts capacity (past ++ [(operation, channel.operate operation)])
        (channel.operate operation).channel := by
  cases permitted : channel.permits operation.command with
  | false =>
      have houtcome : channel.operate operation = .quiet .endClosed channel := by
        rw [Channel.operate, step, if_neg (by simp [permitted])]
      rw [houtcome]
      refine accounts.idle rfl .rfl ?_ rfl rfl
      rcases operation with (_ | _) | _ <;> rfl
  | true =>
      have houtcome : channel.operate operation = channel.perform 0 operation.command := by
        rw [Channel.operate, step, if_pos permitted]
      rw [houtcome]
      rcases operation with (value | _) | (_ | _ | _ | _)
      · exact accounts.push permitted value
      · exact accounts.close channel.closing_closeWriter rfl rfl
      · exact accounts.pop permitted
      · exact accounts.idle rfl .rfl rfl rfl rfl
      · exact accounts.idle rfl .rfl rfl rfl rfl
      · exact accounts.close channel.closing_closeReader rfl rfl

/-- Every run keeps the accounts balanced, by induction over its operations. -/
theorem Accounts.after (accounts : Accounts capacity past channel)
    (operations : List (Operation α))
    : Accounts capacity (past ++ course operations channel) (channel.after operations) := by
  induction operations generalizing past channel with
  | nil =>
      rw [course, List.append_nil]
      exact accounts
  | cons operation rest ih =>
      have hrest := ih (accounts.operate operation)
      rw [List.append_assoc] at hrest
      exact hrest

end Accounts

-----------------------------------------------------------------------------------------
-- Waits
-----------------------------------------------------------------------------------------

/-- A push was accepted, or a pop found a value. -/
def Reply.isSuccess : Reply α → Bool
  | .offer .accepted | .value (some _) => true
  | _ => false

/-- What happens between two attempts of a wait at one end: the clock is read, and then the owner of
the other end works with it.
-/
structure Pause (κ : Type) where
  now : Nat
  calls : List κ
deriving Repr, DecidableEq

/-- A pause as a wait sees it, with the calls made at their end. -/
def Pause.turn {κ : Type} (side : κ → Operation α) (pause : Pause κ) : Turn (Channel α) where
  now := pause.now
  meanwhile := fun channel => channel.after (pause.calls.map side)

/-- The operations that a wait comes to: its own is tried until it succeeds or the deadline has
passed, and in each pause come those at the other end.
-/
def attempts {κ : Type} (deadline : Option Nat) (own : Operation α) (side : κ → Operation α)
    : List (Pause κ) → Channel α → List (Operation α)
  | [], _ => [own]
  | pause :: pauses, channel =>
      let outcome := channel.operate own
      if outcome.reply.isSuccess || Patience.untilPassed.expired deadline pause.now then
        [own]
      else
        let others := pause.calls.map side
        own :: (others ++ attempts deadline own side pauses (outcome.channel.after others))

/-- What an attempt of a wait does, told by the operation that it makes. What that operation passes
is seen through `look`, and what the answer is worth is its `gain`.
-/
inductive Tries {γ β : Type} (look : Operation α × Outcome α → List α) (gain : β → List α)
    (own : Operation α) (carried : γ) (channel : Channel α) : Except γ β × Channel α → Prop
  | met {answer : β} {next : Channel α} (moves : (channel.operate own).channel = next)
    (success : (channel.operate own).reply.isSuccess = true)
    (passes : look (own, channel.operate own) = gain answer)
    : Tries look gain own carried channel (.ok answer, next)
  | unmet {next : Channel α} (moves : (channel.operate own).channel = next)
    (failure : (channel.operate own).reply.isSuccess = false)
    (passes : look (own, channel.operate own) = [])
    : Tries look gain own carried channel (.error carried, next)

/-- What a wait comes to, told by a run of operations: it has its answer and they have passed what
that is worth, or it keeps what it carried and they have passed nothing.
-/
inductive ComesTo {γ β : Type} (look : Operation α × Outcome α → List α) (gain : β → List α)
    (carried : γ) (channel : Channel α) (operations : List (Operation α))
    : Waited γ β × Channel α → Prop
  | done {answer : β} (passes : (course operations channel).flatMap look = gain answer)
    : ComesTo look gain carried channel operations (.done answer, channel.after operations)
  | gaveUp {now : Nat} (passes : (course operations channel).flatMap look = [])
    : ComesTo look gain carried channel operations
        (.gaveUp carried now, channel.after operations)
  | waiting (passes : (course operations channel).flatMap look = [])
    : ComesTo look gain carried channel operations (.waiting carried, channel.after operations)

section Waits

variable {γ β κ : Type} {look : Operation α × Outcome α → List α} {gain : β → List α}
  {attempt : γ → Channel α → Except γ β × Channel α} {own : Operation α} {carried : γ}
  {channel : Channel α}

/-- What passes nothing may come before. -/
theorem ComesTo.delayed {before operations : List (Operation α)} {waited : Waited γ β × Channel α}
    (quiet : (course before channel).flatMap look = [])
    (comes : ComesTo look gain carried (channel.after before) operations waited)
    : ComesTo look gain carried channel (before ++ operations) waited := by
  have hpasses : (course (before ++ operations) channel).flatMap look
      = (course operations (channel.after before)).flatMap look := by
    rw [course_append, List.flatMap_append, quiet, List.nil_append]
  cases comes with
  | done passes => exact after_append before operations channel ▸ .done (hpasses.trans passes)
  | gaveUp passes =>
      exact after_append before operations channel ▸ .gaveUp (hpasses.trans passes)
  | waiting passes =>
      exact after_append before operations channel ▸ .waiting (hpasses.trans passes)

/-- A wait and the run that it comes to end in the same channel. -/
theorem ComesTo.channel_eq {operations : List (Operation α)} {waited : Waited γ β × Channel α}
    (comes : ComesTo look gain carried channel operations waited)
    : waited.2 = channel.after operations := by
  cases comes <;> rfl

theorem ComesTo.answered {operations : List (Operation α)} {waited : Waited γ β × Channel α}
    (comes : ComesTo look gain carried channel operations waited)
    : (∃ answer,
        waited.1 = .done answer ∧ (course operations channel).flatMap look = gain answer)
      ∨ ((∃ now, waited.1 = .gaveUp carried now) ∨ waited.1 = .waiting carried)
        ∧ (course operations channel).flatMap look = [] := by
  cases comes with
  | done passes => exact .inl ⟨_, rfl, passes⟩
  | gaveUp passes => exact .inr ⟨.inl ⟨_, rfl⟩, passes⟩
  | waiting passes => exact .inr ⟨.inr rfl, passes⟩

theorem flatMap_course_singleton (operation : Operation α) (channel : Channel α)
    : (course [operation] channel).flatMap look
        = look (operation, channel.operate operation) :=
  List.append_nil _

/-- A wait whose attempts do what one operation does comes to its attempts and what others do in
between, if that passes nothing. The induction is on the pauses.
-/
theorem await_comesTo {side : κ → Operation α} (ready : Channel α → Prop)
    (tries
      : ∀ channel, ready channel → Tries look gain own carried channel (attempt carried channel))
    (stays : ∀ channel, ready channel → ready (channel.operate own).channel)
    (others
      : ∀ (calls : List κ) channel,
          ready channel
          → ready (channel.after (calls.map side))
            ∧ (course (calls.map side) channel).flatMap look = [])
    (deadline : Option Nat) (pauses : List (Pause κ)) (start : ready channel)
    : ComesTo look gain carried channel (attempts deadline own side pauses channel)
        (await .untilPassed deadline attempt (pauses.map (Pause.turn side)) carried
          channel) := by
  have hown (channel : Channel α)
      : (course [own] channel).flatMap look = look (own, channel.operate own) :=
    flatMap_course_singleton own channel
  induction pauses generalizing channel with
  | nil =>
      have htry := tries channel start
      rw [List.map_nil, attempts]
      generalize hresult : attempt carried channel = result at htry
      cases htry with
      | met moves _ passes =>
          subst moves
          rw [await_of_ok hresult]
          exact .done ((hown channel).trans passes)
      | unmet moves _ passes =>
          subst moves
          rw [await_nil_of_error hresult]
          exact .waiting ((hown channel).trans passes)
  | cons pause pauses ih =>
      have htry := tries channel start
      rw [List.map_cons, attempts]
      generalize hresult : attempt carried channel = result at htry
      cases htry with
      | met moves success passes =>
          subst moves
          rw [await_of_ok hresult, success, Bool.true_or, if_pos rfl]
          exact .done ((hown channel).trans passes)
      | unmet moves failure passes =>
          subst moves
          rw [await_cons_of_error hresult, failure, Bool.false_or, Pause.turn]
          cases expired : Patience.untilPassed.expired deadline pause.now with
          | true => exact .gaveUp ((hown channel).trans passes)
          | false =>
              obtain ⟨hready, hquiet⟩ := others pause.calls _ (stays channel start)
              exact ((ih hready).delayed hquiet).delayed ((hown channel).trans passes)

end Waits

/-- A rejected value is handed back. -/
theorem push_fst (channel : Channel α) (value : α)
    : (channel.push value).1 = .accepted ∨ (channel.push value).1 = .rejected value := by
  simp only [push, Ring.push]
  split
  · split
    · exact .inr rfl
    · exact .inl rfl
  · exact .inl rfl

section Ends

variable {channel : Channel α}

theorem operate_push (writes : channel.writerOpen = true) (value : α)
    : channel.operate (.writer (.push value))
        = .quiet (.offer (channel.push value).1) (channel.push value).2 :=
  if_pos writes

theorem operate_pop (reads : channel.readerOpen = true)
    : channel.operate (.reader .pop) = .quiet (.value channel.pop.1) channel.pop.2 :=
  if_pos reads

/-- An attempt to push is a push. -/
theorem tries_pushAttempt (writes : channel.writerOpen = true) (value : α)
    : Tries (fun entry => entry.1.accepts entry.2.reply) (fun _ => [value])
        (.writer (.push value)) value channel (pushAttempt value channel) := by
  have hoperate := operate_push writes value
  have hanswer := push_fst channel value
  rw [pushAttempt]
  rcases hpush : channel.push value with ⟨_ | returned, next⟩
  · rw [hpush] at hoperate
    exact .met (by rw [hoperate]; rfl) (by rw [hoperate]; rfl) (by rw [hoperate]; rfl)
  · rw [hpush] at hoperate hanswer
    obtain rfl : returned = value := by simpa using hanswer
    exact .unmet (by rw [hoperate]; rfl) (by rw [hoperate]; rfl) (by rw [hoperate]; rfl)

/-- An attempt to pop is a pop. -/
theorem tries_popAttempt (reads : channel.readerOpen = true)
    : Tries (fun entry => entry.2.reply.takes) (fun value => [value]) (.reader .pop) () channel
        (popAttempt () channel) := by
  have hoperate := operate_pop reads
  rw [popAttempt]
  rcases hpop : channel.pop with ⟨_ | value, next⟩
  · rw [hpop] at hoperate
    exact .unmet (by rw [hoperate]; rfl) (by rw [hoperate]; rfl) (by rw [hoperate]; rfl)
  · rw [hpop] at hoperate
    exact .met (by rw [hoperate]; rfl) (by rw [hoperate]; rfl) (by rw [hoperate]; rfl)

/-- What happens at the reader's end leaves the writer's end as it is. -/
theorem writerOpen_reader (call : ReaderCall) (channel : Channel α)
    : (channel.operate (.reader call)).channel.writerOpen = channel.writerOpen := by
  obtain ⟨ring, writes, reads⟩ := channel
  cases call <;> cases writes <;> cases reads <;> rfl

/-- What happens at the writer's end leaves the reader's end as it is. -/
theorem readerOpen_writer (call : WriterCall α) (channel : Channel α)
    : (channel.operate (.writer call)).channel.readerOpen = channel.readerOpen := by
  obtain ⟨ring, writes, reads⟩ := channel
  cases call <;> cases writes <;> cases reads <;> rfl

/-- A call at the writer's end hands nothing out. -/
theorem takes_writer (call : WriterCall α) (channel : Channel α)
    : (channel.operate (.writer call)).reply.takes = [] := by
  obtain ⟨ring, writes, reads⟩ := channel
  cases call <;> cases writes <;> rfl

theorem after_reader (calls : List ReaderCall) (channel : Channel α)
    (writes : channel.writerOpen = true)
    : (channel.after (calls.map .reader)).writerOpen = true
      ∧ accepted (course (calls.map .reader) channel) = [] := by
  induction calls generalizing channel with
  | nil => exact ⟨writes, rfl⟩
  | cons call rest ih => exact ih _ ((writerOpen_reader call channel).trans writes)

theorem after_writer (calls : List (WriterCall α)) (channel : Channel α)
    (reads : channel.readerOpen = true)
    : (channel.after (calls.map .writer)).readerOpen = true
      ∧ taken (course (calls.map .writer) channel) = [] := by
  induction calls generalizing channel with
  | nil => exact ⟨reads, rfl⟩
  | cons call rest ih =>
      obtain ⟨hopen, htaken⟩ := ih _ ((readerOpen_writer call channel).trans reads)
      refine ⟨hopen, ?_⟩
      rw [List.map_cons, course, taken, List.flatMap_cons, takes_writer]
      exact htaken

theorem pushWait_comesTo (writes : channel.writerOpen = true) (timeout : Timeout) (start : Nat)
    (pauses : List (Pause ReaderCall)) (value : α)
    : ComesTo (fun entry => entry.1.accepts entry.2.reply) (fun _ => [value]) value channel
        (attempts (timeout.deadline start) (.writer (.push value)) .reader pauses channel)
        (channel.pushWait timeout start (pauses.map (Pause.turn .reader)) value) :=
  await_comesTo (fun channel => channel.writerOpen = true)
    (fun _ writes => tries_pushAttempt writes value)
    (fun _ writes => by rw [operate_push writes]; exact writes)
    (fun calls channel writes => after_reader calls channel writes) _ pauses writes

theorem popWait_comesTo (reads : channel.readerOpen = true) (timeout : Timeout) (start : Nat)
    (pauses : List (Pause (WriterCall α)))
    : ComesTo (fun entry => entry.2.reply.takes) (fun value => [value]) () channel
        (attempts (timeout.deadline start) (.reader .pop) .writer pauses channel)
        (channel.popWait timeout start (pauses.map (Pause.turn .writer))) :=
  await_comesTo (fun channel => channel.readerOpen = true)
    (fun _ reads => tries_popAttempt reads)
    (fun _ reads => by rw [operate_pop reads]; exact reads)
    (fun calls channel reads => after_writer calls channel reads) _ pauses reads

end Ends

-----------------------------------------------------------------------------------------
-- Sessions
-----------------------------------------------------------------------------------------

/-- What the owners of the two ends do: a single operation, or a wait at one end together with what
is done at the other meanwhile.
-/
inductive Move (α : Type) where
  | once (operation : Operation α)
  | pushWait (value : α) (timeout : Timeout) (start : Nat) (pauses : List (Pause ReaderCall))
  | popWait (timeout : Timeout) (start : Nat) (pauses : List (Pause (WriterCall α)))
deriving Repr, DecidableEq

/-- The channel after a move. Nobody waits at an end that is closed. -/
def Move.result (channel : Channel α) : Move α → Channel α
  | .once operation => (channel.operate operation).channel
  | .pushWait value timeout start pauses =>
      if channel.writerOpen then
        (channel.pushWait timeout start (pauses.map (Pause.turn .reader)) value).2
      else
        channel
  | .popWait timeout start pauses =>
      if channel.readerOpen then
        (channel.popWait timeout start (pauses.map (Pause.turn .writer))).2
      else
        channel

/-- The single operations that a move comes to. -/
def Move.operations (channel : Channel α) : Move α → List (Operation α)
  | .once operation => [operation]
  | .pushWait value timeout start pauses =>
      if channel.writerOpen then
        attempts (timeout.deadline start) (.writer (.push value)) .reader pauses channel
      else
        []
  | .popWait timeout start pauses =>
      if channel.readerOpen then
        attempts (timeout.deadline start) (.reader .pop) .writer pauses channel
      else
        []

/-- The channel after a session. -/
def moved (moves : List (Move α)) (channel : Channel α) : Channel α :=
  moves.foldl Move.result channel

/-- The single operations that a session comes to. -/
def operations : List (Move α) → Channel α → List (Operation α)
  | [], _ => []
  | move :: rest, channel => move.operations channel ++ operations rest (move.result channel)

theorem Move.result_eq (move : Move α) (channel : Channel α)
    : move.result channel = channel.after (move.operations channel) := by
  cases move with
  | once operation => rfl
  | pushWait value timeout start pauses =>
      rw [result, Move.operations]
      split
      · next writes => exact (pushWait_comesTo writes timeout start pauses value).channel_eq
      · rfl
  | popWait timeout start pauses =>
      rw [result, Move.operations]
      split
      · next reads => exact (popWait_comesTo reads timeout start pauses).channel_eq
      · rfl

/-- A session comes to a run of single operations, by induction over its moves. -/
theorem moved_eq (moves : List (Move α)) (channel : Channel α)
    : channel.moved moves = channel.after (operations moves channel) := by
  induction moves generalizing channel with
  | nil => rfl
  | cons move rest ih =>
      rw [operations, after_append, ← move.result_eq channel]
      exact ih _

/-- What a channel promises to the owners of its ends, given what they did before. -/
structure Orderly (capacity : Nat) (past : List (Operation α × Outcome α)) (channel : Channel α)
    : Prop where
  /-- Values come out in the order in which they went in, and none is lost or made up. -/
  accepted_eq : accepted past = taken past ++ released past ++ channel.held
  unreleased : channel.Lives → released past = []
  size_eq : channel.size = channel.held.length
  size_le : channel.size ≤ capacity
  isEmpty_iff : channel.isEmpty = true ↔ channel.pop.1 = none
  pop_eq : channel.pop.1 = channel.held.head?
  push_eq
    : ∀ value,
        (channel.push value).1 = if channel.size = capacity then .rejected value else .accepted
  /-- The totals behind the size count what went in and out, modulo 2^64. -/
  totals
    : channel.Lives
      → channel.ring.pushed = UInt64.ofNat (accepted past).length
        ∧ channel.ring.popped = UInt64.ofNat (taken past).length
  /-- The end that closes first leaves everything to the other. -/
  closeWriter_first
    : channel.writerOpen = true
      → channel.readerOpen = true
      → channel.closeWriter = ([], { channel with writerOpen := false })
  closeReader_first
    : channel.readerOpen = true
      → channel.writerOpen = true
      → channel.closeReader = ([], { channel with readerOpen := false })
  /-- The end that closes last releases what is held, oldest first. -/
  closeWriter_last
    : channel.writerOpen = true
      → channel.readerOpen = false
      → channel.closeWriter.1 = channel.held ∧ channel.closeWriter.2.held = []
  closeReader_last
    : channel.readerOpen = true
      → channel.writerOpen = false
      → channel.closeReader.1 = channel.held ∧ channel.closeReader.2.held = []

theorem Accounts.orderly {capacity : Nat} {past : List (Operation α × Outcome α)}
    {channel : Channel α} (accounts : Accounts capacity past channel)
    : Orderly capacity past channel := by
  have hsound := accounts.sound
  have hcapacity := accounts.capacity_eq
  have hlength : channel.held.length = channel.size := Ring.length_toList hsound
  have hpop : channel.pop.1 = channel.held.head? := Ring.pop_fst hsound
  have hrelease : channel.ring.release = channel.held := Ring.release_eq_toList hsound
  exact {
    accepted_eq := accounts.accepted_eq
    unreleased := accounts.unreleased
    size_eq := hlength.symm
    size_le := hcapacity ▸ hsound.size_le
    isEmpty_iff := by
      rw [hpop, List.head?_eq_none_iff, ← List.length_eq_zero_iff, hlength, isEmpty,
        beq_iff_eq]
    pop_eq := hpop
    push_eq := by
      intro value
      split
      · next full =>
          exact congrArg Prod.fst (Ring.push_of_full value hsound (full.trans hcapacity.symm))
      · next room =>
          have hroom : channel.ring.size < channel.ring.capacity :=
            Nat.lt_of_le_of_ne hsound.size_le fun full => room (full.trans hcapacity)
          exact (Ring.push_of_room value hsound hroom).1
    totals := fun lives => ⟨accounts.pushed_eq lives, accounts.popped_eq lives⟩
    closeWriter_first := by
      intro writes reads
      rw [closeWriter, writes, reads]
      rfl
    closeReader_first := by
      intro reads writes
      rw [closeReader, reads, writes]
      rfl
    closeWriter_last := by
      intro writes reads
      rw [closeWriter, writes, reads]
      exact ⟨hrelease, Ring.toList_empty ..⟩
    closeReader_last := by
      intro reads writes
      rw [closeReader, reads, writes]
      exact ⟨hrelease, Ring.toList_empty ..⟩
  }

/-- Only small capacities can be allocated, and then the channel begins with balanced accounts. -/
theorem accounts_of_allocated {capacity : Nat} {first : Channel α} (positive : 0 < capacity)
    (allocated : allocate? capacity = some first)
    : Accounts capacity [] first := by
  rw [allocate?, Ring.allocate?] at allocated
  split at allocated
  · next fits =>
      obtain rfl := Option.some.inj allocated
      exact accounts_start positive fits
  · cases allocated

/-- Every session on a channel is orderly, whatever is done at its ends, however often they wait,
and in whatever order they close. It comes to a run of single operations, and at every moment of
that run what has been accepted is what has been popped followed by what is held; the size is the
number of values held, and it alone decides whether a push or a pop succeeds; an end that closes
first changes nothing for the other, and the one that closes last releases what is held. A wait that
succeeds passes its value once, and one that does not passes nothing.
-/
theorem session_orderly {capacity : Nat} {first : Channel α} (positive : 0 < capacity)
    (allocated : allocate? capacity = some first) (moves : List (Move α))
    : let reached := first.moved moves
      reached = first.after (operations moves first)
      ∧ (∀ past,
          past <+: operations moves first
          → Orderly capacity (course past first) (first.after past))
      ∧ (∀ (value : α) timeout start pauses,
          reached.writerOpen = true
          → let waited := reached.pushWait timeout start (pauses.map (Pause.turn .reader)) value
            let tried :=
              attempts (timeout.deadline start) (.writer (.push value)) .reader pauses reached
            waited.2 = reached.after tried
            ∧ (waited.1 = .done () ∧ accepted (course tried reached) = [value]
              ∨ ((∃ now, waited.1 = .gaveUp value now) ∨ waited.1 = .waiting value)
                ∧ accepted (course tried reached) = []))
      ∧ ∀ timeout start pauses,
          reached.readerOpen = true
          → let waited := reached.popWait timeout start (pauses.map (Pause.turn .writer))
            let tried := attempts (timeout.deadline start) (.reader .pop) .writer pauses reached
            waited.2 = reached.after tried
            ∧ ((∃ value, waited.1 = .done value ∧ taken (course tried reached) = [value])
              ∨ ((∃ now, waited.1 = .gaveUp () now) ∨ waited.1 = .waiting ())
                ∧ taken (course tried reached) = []) := by
  refine ⟨moved_eq moves first, fun past _ => ?_, ?_, ?_⟩
  · exact ((accounts_of_allocated positive allocated).after past).orderly
  · intro value timeout start pauses writes
    have hcomes := pushWait_comesTo writes timeout start pauses value
    exact ⟨hcomes.channel_eq, hcomes.answered.imp_left fun ⟨_, done, passes⟩ => ⟨done, passes⟩⟩
  · intro timeout start pauses reads
    have hcomes := popWait_comesTo reads timeout start pauses
    exact ⟨hcomes.channel_eq, hcomes.answered⟩

/-- Two values fill the channel, and the writer waits with a third while the reader takes one and
leaves.
-/
def departure : List (Move Nat) :=
  [.once (.writer (.push 1)), .once (.writer (.push 2)),
    .pushWait 3 .infinite 0 [⟨5, [.isEmpty]⟩, ⟨6, [.pop, .close]⟩]]

/-- The wait succeeds although nobody will read its value, and when the writer leaves as well the
two values left are released.
-/
theorem session_orderly_departure
    : ∃ first : Channel Nat,
        allocate? 2 = some first
        ∧ accepted (course (operations departure first) first) = [1, 2, 3]
        ∧ taken (course (operations departure first) first) = [1]
        ∧ (first.moved departure).held = [2, 3]
        ∧ (first.moved departure).closeWriter.1 = [2, 3] := by
  have hallocated : allocate? 2 = some (⟨.empty 2 0, true, true⟩ : Channel Nat) := rfl
  obtain ⟨hmoved, hmoments, _, _⟩ :=
    session_orderly (by decide : 0 < 2) hallocated departure
  have horderly := hmoments _ List.prefix_rfl
  rw [← hmoved] at horderly
  have hlast := horderly.closeWriter_last (by decide) (by decide)
  have hheld : held ((⟨.empty 2 0, true, true⟩ : Channel Nat).moved departure) = [2, 3] := by
    decide
  refine ⟨_, hallocated, by decide, by decide, hheld, hlast.1.trans hheld⟩

end Channel

end Crossbar
