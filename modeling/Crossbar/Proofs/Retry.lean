import Crossbar.Proofs.Independence
import Crossbar.Proofs.Settling

/-! Waits are attempts made again. Whatever the clock shows and whatever the other parties do
between two attempts, a wait makes at least one, goes on only after one that failed, and ends
directly after its last. So it has the effect of that one alone, and nobody can tell from the
outcome how often it has tried when it is left to itself.
-/

namespace Crossbar

variable {α : Type}

open Motion
open Passage (onLink)

-----------------------------------------------------------------------------------------
-- How a wait comes to its end
-----------------------------------------------------------------------------------------

section Await

variable {γ β σ : Type} {patience : Patience} {deadline : Option Nat}
  {attempt : γ → σ → Except γ β × σ} {carried : γ}

/-- How a wait ends, given what its last attempt did and the readings of the clock from then on. The
state is the one that this attempt has left.
-/
inductive Concludes (patience : Patience) (deadline : Option Nat) (clock : List Nat) (carried : γ)
    : Except γ β × σ → Waited γ β × σ → Prop
  | met {answer : β} {next : σ}
    : Concludes patience deadline clock carried (.ok answer, next) (.done answer, next)
  | gaveUp {next : σ} {now : Nat} (reads : clock.head? = some now)
    (expired : patience.expired deadline now = true)
    : Concludes patience deadline clock carried (.error carried, next) (.gaveUp carried now, next)
  /-- The clock has not been read any more, so the wait is still under way. -/
  | waiting {next : σ} (unread : clock = [])
    : Concludes patience deadline clock carried (.error carried, next) (.waiting carried, next)

/-- A wait has come to nothing so far: it has given up or is still under way, with what it carried.
-/
def Waited.Unmet (carried : γ) (outcome : Waited γ β) : Prop :=
  outcome = .waiting carried ∨ ∃ now, outcome = .gaveUp carried now

/-- A wait ends in the state of its last attempt, with the answer of that, if there is one. -/
theorem Concludes.result {clock : List Nat} {last : Except γ β × σ} {waited : Waited γ β × σ}
    (ends : Concludes patience deadline clock carried last waited)
    : waited.2 = last.2
      ∧ ((∃ answer, last.1 = .ok answer ∧ waited.1 = .done answer)
        ∨ last.1 = .error carried ∧ waited.1.Unmet carried) := by
  cases ends with
  | met => exact ⟨rfl, .inl ⟨_, rfl, rfl⟩⟩
  | gaveUp => exact ⟨rfl, .inr ⟨rfl, .inr ⟨_, rfl⟩⟩⟩
  | waiting => exact ⟨rfl, .inr ⟨rfl, .inl rfl⟩⟩

/-- What decides whether the last attempt has an answer decides how the wait ends. -/
theorem Concludes.decided {clock : List Nat} {last : Except γ β × σ} {waited : Waited γ β × σ}
    {answers : β → Prop} {missed : Prop}
    (ends : Concludes patience deadline clock carried last waited)
    (decides
      : (∃ answer, answers answer ∧ last.1 = .ok answer) ∨ missed ∧ last.1 = .error carried)
    : (∃ answer, answers answer ∧ waited.1 = .done answer)
      ∨ missed ∧ waited.1.Unmet carried := by
  rcases ends.result.2 with ⟨answer, hok, hdone⟩ | ⟨herror, hunmet⟩
  · rcases decides with ⟨answer', hanswers, hok'⟩ | ⟨_, herror⟩
    · obtain rfl := Except.ok.inj (hok'.symm.trans hok)
      exact .inl ⟨_, hanswers, hdone⟩
    · cases herror.symm.trans hok
  · rcases decides with ⟨_, _, hok⟩ | ⟨hmissed, _⟩
    · cases hok.symm.trans herror
    · exact .inr ⟨hmissed, hunmet⟩

/-- A wait comes after `failures` attempts in vain, with time left after each of them, to its last
attempt and ends with it. Attempts are told by their numbers from 0 on.
-/
structure Retried (patience : Patience) (deadline : Option Nat) (clock : List Nat) (carried : γ)
    (attempted : Nat → Except γ β × σ) (failures : Nat) (waited : Waited γ β × σ) : Prop where
  failures_le : failures ≤ clock.length
  failed : ∀ index < failures, (attempted index).1 = .error carried
  unexpired
    : ∀ index now,
        index < failures
        → clock[index]? = some now
        → patience.expired deadline now = false
  ends : Concludes patience deadline (clock.drop failures) carried (attempted failures) waited

section Retried

variable {clock : List Nat} {attempted : Nat → Except γ β × σ} {failures : Nat}
  {waited : Waited γ β × σ}

theorem Retried.once (ends : Concludes patience deadline clock carried (attempted 0) waited)
    : Retried patience deadline clock carried attempted 0 waited where
  failures_le := Nat.zero_le _
  failed := fun _ lt => absurd lt (Nat.not_lt_zero _)
  unexpired := fun _ _ lt => absurd lt (Nat.not_lt_zero _)
  ends := ends

/-- One more attempt in vain may come first. -/
theorem Retried.again {now : Nat} (failed : (attempted 0).1 = .error carried)
    (unexpired : patience.expired deadline now = false)
    (later
      : Retried patience deadline clock carried (fun index => attempted (index + 1)) failures
          waited)
    : Retried patience deadline (now :: clock) carried attempted (failures + 1) waited where
  failures_le := Nat.succ_le_succ later.failures_le
  failed := by
    intro index lt
    cases index with
    | zero => exact failed
    | succ index => exact later.failed index (Nat.lt_of_succ_lt_succ lt)
  unexpired := by
    intro index reading lt read
    cases index with
    | zero =>
        obtain rfl := Option.some.inj read
        exact unexpired
    | succ index => exact later.unexpired index reading (Nat.lt_of_succ_lt_succ lt) read
  ends := later.ends

end Retried

/-- A wait is retried attempts, each on what the others have made of the state since the one before.
The induction is on the turns.
-/
theorem await_retried (patience : Patience) (deadline : Option Nat)
    (keeps : ∀ {state kept next}, attempt carried state = (.error kept, next) → kept = carried)
    (turns : List (Turn σ)) {states : Nat → σ}
    (goes
      : ∀ {index turn next},
          turns[index]? = some turn
          → attempt carried (states index) = (.error carried, next)
          → states (index + 1) = turn.meanwhile next)
    : ∃ failures,
        Retried patience deadline (turns.map Turn.now) carried
          (fun index => attempt carried (states index)) failures
          (await patience deadline attempt turns carried (states 0)) := by
  induction turns generalizing states with
  | nil =>
      refine ⟨0, .once ?_⟩
      rcases hfirst : attempt carried (states 0) with ⟨kept | answer, next⟩
      · obtain rfl := keeps hfirst
        rw [await_nil_of_error hfirst]
        exact .waiting rfl
      · rw [await_of_ok hfirst]
        exact .met
  | cons turn rest ih =>
      rcases hfirst : attempt carried (states 0) with ⟨kept | answer, next⟩
      · obtain rfl := keeps hfirst
        rw [await_cons_of_error hfirst]
        cases expired : patience.expired deadline turn.now with
        | true =>
            refine ⟨0, .once ?_⟩
            rw [hfirst]
            exact .gaveUp rfl expired
        | false =>
            have hlater : ∀ {index turn next},
                rest[index]? = some turn
                → attempt kept (states (index + 1)) = (.error kept, next)
                → states (index + 1 + 1) = turn.meanwhile next :=
              fun {index _ _} here => @goes (index + 1) _ _ here
            obtain ⟨failures, retried⟩ := ih hlater
            rw [if_neg (by simp), ← goes rfl hfirst]
            exact ⟨failures + 1, .again (congrArg Prod.fst hfirst) expired retried⟩
      · rw [await_of_ok hfirst]
        refine ⟨0, .once ?_⟩
        rw [hfirst]
        exact .met

/-- Turns in which nobody else acts. -/
def idleTurns (clock : List Nat) : List (Turn σ) :=
  clock.map fun now => ⟨now, id⟩

/-- A wait that is left to itself ends as if it had made a single attempt, if an attempt that has
failed changes nothing when it is made again. The induction is on the readings of the clock.
-/
theorem await_idle (patience : Patience) (deadline : Option Nat) {state : σ}
    (keeps : ∀ {state kept next}, attempt carried state = (.error kept, next) → kept = carried)
    (again
      : ∀ {next},
          attempt carried state = (.error carried, next)
          → attempt carried next = (.error carried, next))
    (clock : List Nat)
    : ∃ failures,
        Concludes patience deadline (clock.drop failures) carried (attempt carried state)
          (await patience deadline attempt (idleTurns clock) carried state) := by
  rcases hfirst : attempt carried state with ⟨kept | answer, next⟩
  · obtain rfl := keeps hfirst
    have hagain := again hfirst
    clear again
    induction clock generalizing state with
    | nil => exact ⟨0, await_nil_of_error hfirst ▸ .waiting rfl⟩
    | cons now rest ih =>
        rw [idleTurns, List.map_cons, await_cons_of_error hfirst]
        cases expired : patience.expired deadline now with
        | true => exact ⟨0, .gaveUp rfl expired⟩
        | false =>
            obtain ⟨failures, ends⟩ := ih hagain
            exact ⟨failures + 1, ends⟩
  · exact ⟨0, await_of_ok hfirst _ ▸ .met⟩

end Await

/-- What happens before attempt number `index`: so many attempts, and after each of them what the
others do.
-/
def untilAttempt {ω : Type} (own : ω) (others : List (List ω)) (index : Nat) : List ω :=
  (others.take index).flatMap (own :: ·)

section UntilAttempt

variable {ω : Type} {own : ω} {others : List (List ω)} {index : Nat}

theorem untilAttempt_succ {acts : List ω} (here : others[index]? = some acts)
    : untilAttempt own others (index + 1) = untilAttempt own others index ++ own :: acts := by
  rw [untilAttempt, List.take_add_one, here, List.flatMap_append]
  simp [untilAttempt]

/-- Once the others have done all, there is nothing more to come before an attempt. -/
theorem untilAttempt_of_none (here : others[index]? = none)
    : untilAttempt own others (index + 1) = untilAttempt own others index := by
  rw [untilAttempt, List.take_add_one, here, Option.toList_none, List.append_nil, untilAttempt]

/-- Each thing that happens before an attempt is an attempt or done by the others. -/
theorem mem_untilAttempt {act : ω} (member : act ∈ untilAttempt own others index)
    : act = own ∨ ∃ acts ∈ others, act ∈ acts := by
  obtain ⟨acts, taken, member⟩ := List.mem_flatMap.mp member
  exact (List.mem_cons.mp member).imp_right fun here => ⟨acts, List.mem_of_mem_take taken, here⟩

end UntilAttempt

-----------------------------------------------------------------------------------------
-- Waits at the ends of a channel
-----------------------------------------------------------------------------------------

namespace Channel

variable {κ : Type}

/-- What is done at the other end of a channel in each pause. -/
def doneBeside (side : κ → Operation α) (pauses : List (Pause κ)) : List (List (Operation α)) :=
  pauses.map fun pause => pause.calls.map side

/-- The channel that attempt number `index` of a wait finds if all before it have failed. -/
def foundBy (own : Operation α) (side : κ → Operation α) (pauses : List (Pause κ))
    (channel : Channel α) (index : Nat) : Channel α :=
  channel.after (untilAttempt own (doneBeside side pauses) index)

section FoundBy

variable {own : Operation α} {side : κ → Operation α} {pauses : List (Pause κ)}
  {channel : Channel α} {index : Nat}

theorem doneBeside_get {pause : Pause κ} (here : pauses[index]? = some pause)
    : (doneBeside side pauses)[index]? = some (pause.calls.map side) := by
  rw [doneBeside, List.getElem?_map, here, Option.map_some]

theorem foundBy_succ {pause : Pause κ} (here : pauses[index]? = some pause)
    : channel.foundBy own side pauses (index + 1)
        = (pause.turn side).meanwhile
            ((channel.foundBy own side pauses index).operate own).channel := by
  rw [foundBy, untilAttempt_succ (doneBeside_get here), after_append]
  rfl

/-- What every operation keeps is kept by a run. -/
theorem after_keeps (keeps : Channel α → Prop) {operations : List (Operation α)}
    (each
      : ∀ operation ∈ operations,
          ∀ {channel}, keeps channel → keeps (channel.operate operation).channel)
    (start : keeps channel)
    : keeps (channel.after operations) := by
  induction operations generalizing channel with
  | nil => exact start
  | cons operation rest ih =>
      obtain ⟨hfirst, hrest⟩ := List.forall_mem_cons.mp each
      exact ih hrest (hfirst start)

/-- A wait whose attempts in vain pass nothing has passed nothing before its last one, if what is
done at the other end does not either. The induction is on the number of attempts.
-/
theorem flatMap_course_untilAttempt {look : Operation α × Outcome α → List α}
    (vain
      : ∀ earlier < index,
          look (own, (channel.foundBy own side pauses earlier).operate own) = [])
    (beside : ∀ (calls : List κ) channel, (course (calls.map side) channel).flatMap look = [])
    : (course (untilAttempt own (doneBeside side pauses) index) channel).flatMap look = [] := by
  induction index with
  | zero => rfl
  | succ index ih =>
      have hearlier := ih fun earlier lt => vain earlier (Nat.lt_succ_of_lt lt)
      cases here : pauses[index]? with
      | none =>
          rw [untilAttempt_of_none (by rw [doneBeside, List.getElem?_map, here, Option.map_none])]
          exact hearlier
      | some pause =>
          rw [untilAttempt_succ (doneBeside_get here), course_append, List.flatMap_append, hearlier,
            List.nil_append, course, List.flatMap_cons, beside, List.append_nil]
          exact vain index (Nat.lt_succ_self index)

end FoundBy

/-- A push that waits. Each attempt adds the value at the end if there is room, and otherwise hands
it back and changes nothing that is held.
-/
structure PushWaits (capacity : Nat) (channel : Channel α) (value : α) (timeout : Timeout)
    (start : Nat) : Prop where
  attempt
    : ∀ pauses index,
        let found := channel.foundBy (.writer (.push value)) .reader pauses index
        let tried := pushAttempt value found
        found.size < capacity ∧ tried.1 = .ok () ∧ tried.2.held = found.held ++ [value]
        ∨ found.size = capacity ∧ tried.1 = .error value ∧ tried.2.held = found.held
  /-- The wait ends with the first attempt that finds room, or with one in vain. All its attempts
  together have put the value in once in the first case and not at all in the second.
  -/
  retried
    : ∀ pauses,
        let waited := channel.pushWait timeout start (pauses.map (Pause.turn .reader)) value
        ∃ failures,
          Retried .untilPassed (timeout.deadline start) (pauses.map Pause.now) value
            (fun index =>
              pushAttempt value (channel.foundBy (.writer (.push value)) .reader pauses index))
            failures waited
          ∧ (let tried :=
              untilAttempt (.writer (.push value)) (doneBeside .reader pauses) failures
                ++ [.writer (.push value)]
            waited.2 = channel.after tried
            ∧ (waited.1 = .done () ∧ accepted (course tried channel) = [value]
              ∨ waited.1.Unmet value ∧ accepted (course tried channel) = []))
  /-- Left to itself it has the result and the effect of one push. -/
  idle
    : ∀ clock,
        let waited := channel.pushWait timeout start (idleTurns clock) value
        waited.2 = (channel.push value).2
        ∧ ((channel.push value).1 = .accepted ∧ waited.1 = .done ()
          ∨ (channel.push value).1 = .rejected value ∧ waited.1.Unmet value)

/-- A pop that waits. Each attempt takes the oldest value held, or nothing if there is none. -/
structure PopWaits (channel : Channel α) (timeout : Timeout) (start : Nat) : Prop where
  attempt
    : ∀ pauses index,
        let found := channel.foundBy (.reader .pop) .writer pauses index
        let tried := popAttempt () found
        (∃ value rest, found.held = value :: rest ∧ tried.1 = .ok value ∧ tried.2.held = rest)
        ∨ found.held = [] ∧ tried.1 = .error () ∧ tried.2.held = []
  /-- The wait ends with the first attempt that finds a value, or with one in vain. All its attempts
  together have taken that one value in the first case and none in the second.
  -/
  retried
    : ∀ pauses,
        let waited := channel.popWait timeout start (pauses.map (Pause.turn .writer))
        ∃ failures,
          Retried .untilPassed (timeout.deadline start) (pauses.map Pause.now) ()
            (fun index =>
              popAttempt () (channel.foundBy (.reader .pop) .writer pauses index))
            failures waited
          ∧ (let tried :=
              untilAttempt (.reader .pop) (doneBeside .writer pauses) failures ++ [.reader .pop]
            waited.2 = channel.after tried
            ∧ ((∃ value, waited.1 = .done value ∧ taken (course tried channel) = [value])
              ∨ waited.1.Unmet () ∧ taken (course tried channel) = []))
  /-- Left to itself it has the result and the effect of one pop. -/
  idle
    : ∀ clock,
        let waited := channel.popWait timeout start (idleTurns clock)
        waited.2 = channel.pop.2
        ∧ ((∃ value, channel.pop.1 = some value ∧ waited.1 = .done value)
          ∨ channel.pop.1 = none ∧ waited.1.Unmet ())

section Waits

variable {capacity : Nat} {past : List (Operation α × Outcome α)} {channel : Channel α}

/-- Nothing but what the other end does can close it, so the end of a wait stays open. -/
theorem writerOpen_foundBy (writes : channel.writerOpen = true) (value : α)
    (pauses : List (Pause ReaderCall)) (index : Nat)
    : (channel.foundBy (.writer (.push value)) .reader pauses index).writerOpen = true := by
  refine after_keeps (fun channel => channel.writerOpen = true) ?_ writes
  intro operation member channel writes
  rcases mem_untilAttempt member with rfl | ⟨acts, beside, member⟩
  · rw [operate_push writes]
    exact writes
  · obtain ⟨pause, _, rfl⟩ := List.mem_map.mp beside
    obtain ⟨call, _, rfl⟩ := List.mem_map.mp member
    exact (writerOpen_reader call channel).trans writes

theorem readerOpen_foundBy (reads : channel.readerOpen = true)
    (pauses : List (Pause (WriterCall α))) (index : Nat)
    : (channel.foundBy (.reader .pop) .writer pauses index).readerOpen = true := by
  refine after_keeps (fun channel => channel.readerOpen = true) ?_ reads
  intro operation member channel reads
  rcases mem_untilAttempt member with rfl | ⟨acts, beside, member⟩
  · rw [operate_pop reads]
    exact reads
  · obtain ⟨pause, _, rfl⟩ := List.mem_map.mp beside
    obtain ⟨call, _, rfl⟩ := List.mem_map.mp member
    exact (readerOpen_writer call channel).trans reads

theorem accepted_reader (calls : List ReaderCall) (channel : Channel α)
    : accepted (course (calls.map .reader) channel) = [] := by
  induction calls generalizing channel with
  | nil => rfl
  | cons call rest ih => exact ih _

theorem taken_writer (calls : List (WriterCall α)) (channel : Channel α)
    : taken (course (calls.map .writer) channel) = [] := by
  induction calls generalizing channel with
  | nil => rfl
  | cons call rest ih =>
      rw [List.map_cons, course, taken, List.flatMap_cons, takes_writer]
      exact ih _

theorem push_eq_attempt (value : α) (channel : Channel α)
    : (channel.push value).2 = (pushAttempt value channel).2
      ∧ ((channel.push value).1 = .accepted ∧ (pushAttempt value channel).1 = .ok ()
        ∨ (channel.push value).1 = .rejected value
          ∧ (pushAttempt value channel).1 = .error value) := by
  have hanswer := push_fst channel value
  rw [pushAttempt]
  rcases hpush : channel.push value with ⟨_ | returned, next⟩
  · exact ⟨rfl, .inl ⟨rfl, rfl⟩⟩
  · rw [hpush] at hanswer
    obtain rfl : returned = value := by simpa using hanswer
    exact ⟨rfl, .inr ⟨rfl, rfl⟩⟩

theorem pop_eq_attempt (channel : Channel α)
    : channel.pop.2 = (popAttempt () channel).2
      ∧ ((∃ value, channel.pop.1 = some value ∧ (popAttempt () channel).1 = .ok value)
        ∨ channel.pop.1 = none ∧ (popAttempt () channel).1 = .error ()) := by
  rw [popAttempt]
  rcases channel.pop with ⟨_ | value, next⟩
  · exact ⟨rfl, .inr ⟨rfl, rfl⟩⟩
  · exact ⟨rfl, .inl ⟨value, rfl, rfl⟩⟩

/-- An attempt to push succeeds exactly if there is room. -/
theorem Accounts.pushAttempt_eq (accounts : Accounts capacity past channel) (value : α)
    : channel.size < capacity
        ∧ (pushAttempt value channel).1 = .ok ()
        ∧ (pushAttempt value channel).2.held = channel.held ++ [value]
      ∨ channel.size = capacity
        ∧ (pushAttempt value channel).1 = .error value
        ∧ (pushAttempt value channel).2.held = channel.held := by
  obtain ⟨hnext, hanswer⟩ := push_eq_attempt value channel
  have hcapacity := accounts.capacity_eq
  rw [← hnext]
  rcases Nat.lt_or_eq_of_le accounts.sound.size_le with room | full
  · obtain ⟨haccepted, _, hheld⟩ := Ring.push_of_room value accounts.sound room
    refine .inl ⟨hcapacity ▸ room, ?_, hheld⟩
    rcases hanswer with ⟨_, hok⟩ | ⟨hrejected, _⟩
    · exact hok
    · cases hrejected.symm.trans haccepted
  · have hpush := Ring.push_of_full value accounts.sound full
    have hrejected : (channel.push value).1 = .rejected value := congrArg Prod.fst hpush
    refine .inr ⟨full.trans hcapacity, ?_, congrArg (fun result => result.2.toList) hpush⟩
    rcases hanswer with ⟨haccepted, _⟩ | ⟨_, herror⟩
    · cases haccepted.symm.trans hrejected
    · exact herror

/-- An attempt to pop takes the oldest value held. -/
theorem Accounts.popAttempt_eq (accounts : Accounts capacity past channel)
    : (∃ value rest,
        channel.held = value :: rest
        ∧ (popAttempt () channel).1 = .ok value
        ∧ (popAttempt () channel).2.held = rest)
      ∨ channel.held = []
        ∧ (popAttempt () channel).1 = .error ()
        ∧ (popAttempt () channel).2.held = [] := by
  obtain ⟨hnext, hanswer⟩ := pop_eq_attempt channel
  have hfront : channel.pop.1 = channel.held.head? := Ring.pop_fst accounts.sound
  have hrest : channel.pop.2.held = channel.held.tail := Ring.toList_pop accounts.sound
  rw [← hnext, hrest]
  cases hheld : channel.held with
  | nil =>
      rw [hheld, List.head?_nil] at hfront
      rcases hanswer with ⟨_, hsome, _⟩ | ⟨_, herror⟩
      · cases hsome.symm.trans hfront
      · exact .inr ⟨rfl, herror, rfl⟩
  | cons value rest =>
      rw [hheld, List.head?_cons] at hfront
      rcases hanswer with ⟨_, hsome, hok⟩ | ⟨hnone, _⟩
      · obtain rfl := Option.some.inj (hsome.symm.trans hfront)
        exact .inl ⟨_, rest, rfl, hok, rfl⟩
      · cases hnone.symm.trans hfront

theorem pushAttempt_keeps {value kept : α} {next : Channel α}
    (vain : pushAttempt value channel = (.error kept, next))
    : kept = value := by
  rcases (push_eq_attempt value channel).2 with ⟨_, hok⟩ | ⟨_, herror⟩
  · cases hok.symm.trans (congrArg Prod.fst vain)
  · exact Except.error.inj ((congrArg Prod.fst vain).symm.trans herror)

section Tries

variable {γ β : Type} {look : Operation α × Outcome α → List α} {gain : β → List α}
  {own : Operation α} {carried : γ} {result : Except γ β × Channel α}

theorem Tries.channel_eq (tries : Tries look gain own carried channel result)
    : (channel.operate own).channel = result.2 := by
  cases tries <;> assumption

theorem Tries.passes_of_ok (tries : Tries look gain own carried channel result) {answer : β}
    (ok : result.1 = .ok answer)
    : look (own, channel.operate own) = gain answer := by
  cases tries with
  | met _ _ passes =>
      obtain rfl := Except.ok.inj ok
      exact passes
  | unmet => cases ok

theorem Tries.passes_of_error (tries : Tries look gain own carried channel result)
    (error : result.1 = .error carried)
    : look (own, channel.operate own) = [] := by
  cases tries with
  | met => cases error
  | unmet _ _ passes => exact passes

end Tries

/-- A wait whose attempts do what one operation does is retried, and its run of attempts and of what
is done at the other end passes what its answer is worth.
-/
theorem foundBy_retried {γ β κ : Type} {look : Operation α × Outcome α → List α}
    {gain : β → List α} {attempt : γ → Channel α → Except γ β × Channel α} {own : Operation α}
    {carried : γ} {side : κ → Operation α} {pauses : List (Pause κ)} (deadline : Option Nat)
    (tries
      : ∀ index,
          Tries look gain own carried (channel.foundBy own side pauses index)
            (attempt carried (channel.foundBy own side pauses index)))
    (keeps : ∀ {state kept next}, attempt carried state = (.error kept, next) → kept = carried)
    (beside : ∀ (calls : List κ) channel, (course (calls.map side) channel).flatMap look = [])
    : let waited :=
        await .untilPassed deadline attempt (pauses.map (Pause.turn side)) carried channel
      ∃ failures,
        Retried .untilPassed deadline (pauses.map Pause.now) carried
          (fun index => attempt carried (channel.foundBy own side pauses index)) failures waited
        ∧ (let tried := untilAttempt own (doneBeside side pauses) failures ++ [own]
          waited.2 = channel.after tried
          ∧ ((∃ answer,
                waited.1 = .done answer ∧ (course tried channel).flatMap look = gain answer)
            ∨ waited.1.Unmet carried ∧ (course tried channel).flatMap look = [])) := by
  intro waited
  let found := channel.foundBy own side pauses
  have htries (index : Nat)
      : Tries look gain own carried (found index) (attempt carried (found index)) :=
    tries index
  obtain ⟨failures, retried⟩ : ∃ failures,
      Retried .untilPassed deadline ((pauses.map (Pause.turn side)).map Turn.now) carried
        (fun index => attempt carried (found index)) failures waited := by
    refine await_retried _ _ keeps _ fun {index turn next} here failed => ?_
    obtain ⟨pause, at_, rfl⟩ := Option.map_eq_some_iff.mp (List.getElem?_map.symm.trans here)
    rw [show found (index + 1) = _ from foundBy_succ at_, (htries index).channel_eq, failed]
  rw [List.map_map] at retried
  have hearlier := flatMap_course_untilAttempt
    (fun earlier lt => (htries earlier).passes_of_error (retried.failed earlier lt)) beside
  obtain ⟨hstate, hresult⟩ := retried.ends.result
  refine ⟨failures, retried, ?_, ?_⟩
  · rw [after_append]
    exact hstate.trans (htries failures).channel_eq.symm
  · rw [course_append, List.flatMap_append, hearlier, List.nil_append, flatMap_course_singleton]
    rcases hresult with ⟨answer, hok, hdone⟩ | ⟨herror, hunmet⟩
    · exact .inl ⟨answer, hdone, (htries failures).passes_of_ok hok⟩
    · exact .inr ⟨hunmet, (htries failures).passes_of_error herror⟩

/-- A push that waits is retried pushes, whatever the reader does. -/
theorem Accounts.pushWaits (accounts : Accounts capacity past channel)
    (writes : channel.writerOpen = true) (value : α) (timeout : Timeout) (start : Nat)
    : PushWaits capacity channel value timeout start where
  attempt := fun pauses index => (accounts.after _).pushAttempt_eq value
  retried := by
    intro pauses waited
    obtain ⟨failures, retried, hstate, hresult⟩ :=
      foundBy_retried (timeout.deadline start)
        (fun index => tries_pushAttempt (writerOpen_foundBy writes value pauses index) value)
        pushAttempt_keeps accepted_reader
    exact ⟨failures, retried, hstate, hresult.imp_left fun ⟨_, done, passes⟩ => ⟨done, passes⟩⟩
  idle := by
    intro clock waited
    obtain ⟨failures, ends⟩ : ∃ failures,
        Concludes .untilPassed (timeout.deadline start) (clock.drop failures) value
          (pushAttempt value channel) waited :=
      await_idle _ _ pushAttempt_keeps (pushAttempt_again accounts.sound) clock
    obtain ⟨hnext, hanswer⟩ := push_eq_attempt value channel
    refine ⟨ends.result.1.trans hnext.symm, ?_⟩
    exact (ends.decided (hanswer.imp_left fun accepted => ⟨(), accepted⟩)).imp_left
      fun ⟨_, accepted⟩ => accepted

/-- A pop that waits is retried pops, whatever the writer does. -/
theorem Accounts.popWaits (accounts : Accounts capacity past channel)
    (reads : channel.readerOpen = true) (timeout : Timeout) (start : Nat)
    : PopWaits channel timeout start where
  attempt := fun pauses index => (accounts.after _).popAttempt_eq
  retried := by
    intro pauses waited
    exact foundBy_retried (timeout.deadline start)
      (fun index => tries_popAttempt (readerOpen_foundBy reads pauses index))
      (fun _ => rfl) taken_writer
  idle := by
    intro clock waited
    obtain ⟨failures, ends⟩ : ∃ failures,
        Concludes .untilPassed (timeout.deadline start) (clock.drop failures) ()
          (popAttempt () channel) waited :=
      await_idle _ _ (fun _ => rfl) (popAttempt_again accounts.sound) clock
    obtain ⟨hnext, hanswer⟩ := pop_eq_attempt channel
    exact ⟨ends.result.1.trans hnext.symm, ends.decided hanswer⟩

end Waits

end Channel

-----------------------------------------------------------------------------------------
-- Waits of a receiver
-----------------------------------------------------------------------------------------

/-- The history of a link tells its stale values from its live ones. As long as few values have been
popped, they lie before the stale mark and behind it. Once the mark is overrun nothing is live,
until the total of the values that have left comes round to it.
-/
structure Fabric.ToldBy (fabric : Fabric α) (producer consumer : Nat) (past : List (Motion α))
    : Prop where
  stale_eq
    : fabric.stale producer consumer
        = (remaining past).take (staleLead fabric.config.drainOnReclaim past)
  live_eq
    : fabric.live producer consumer
        = (remaining past).drop (staleLead fabric.config.drainOnReclaim past)
  few
    : poppedSince fabric.config.drainOnReclaim past < 0x8000000000000000
      → fabric.stale producer consumer = staleHeld fabric.config.drainOnReclaim past
        ∧ fabric.live producer consumer = liveHeld fabric.config.drainOnReclaim past
  overrun
    : staleBound fabric.config.drainOnReclaim past + 0x8000000000000000 ≤ (departed past).length
      → (entered past).length
        ≤ staleBound fabric.config.drainOnReclaim past + 0x10000000000000000
      → fabric.stale producer consumer = remaining past
        ∧ fabric.live producer consumer = []

/-- An attempt takes the oldest live value of some producer, and fails exactly if there is no live
value for its consumer. Whatever else it removes is stale. What is live and what is stale is said by
the mark of each link, and by its history as in `Fabric.ToldBy`.
-/
structure Reading.TakesLive (reading : Reading α) : Prop where
  met
    : ∀ {item},
        (attempt () reading).1 = .ok item
        → ∃ rest,
            reading.fabric.live item.producer reading.receiver.slot = item.value :: rest
            ∧ (attempt () reading).2.fabric.held item.producer reading.receiver.slot = rest
  vain_iff
    : (attempt () reading).1 = .error ()
        ↔ ∀ producer, reading.fabric.live producer reading.receiver.slot = []
  discarded
    : ∀ item ∈ reading.pop.1.discarded,
        item.value ∈ reading.fabric.stale item.producer reading.receiver.slot

/-- An attempt is a pop. -/
theorem Reading.pop_eq_attempt (reading : Reading α)
    : reading.pop.2 = (attempt () reading).2
      ∧ ((∃ item,
            reading.pop.1.taken = some item ∧ (attempt () reading).1 = .ok item)
        ∨ reading.pop.1.taken = none ∧ (attempt () reading).1 = .error ()) := by
  rw [attempt]
  rcases reading.pop with ⟨⟨_ | item, discarded⟩, next⟩
  · exact ⟨rfl, .inr ⟨rfl, rfl⟩⟩
  · exact ⟨rfl, .inl ⟨item, rfl, rfl⟩⟩

namespace Fabric

variable {config : Config} {fabric : Fabric α} {history : List (Passage α)}
  {receiver : Receiver} {examined : List Nat} {taken : Option (Sourced α)} {cursor streak : Nat}

/-- There are no live values from slots that do not exist. -/
theorem Wired.live_of_le (wired : fabric.Wired) {producer : Nat} (consumer : Nat)
    (out : fabric.producerCount ≤ producer)
    : fabric.live producer consumer = [] := by
  have hnone : fabric.link? producer consumer = none := by
    have hiff := wired.link?_isSome producer consumer
    rw [← Option.not_isSome_iff_eq_none, hiff]
    omega
  rw [live, hnone, Option.map_none, Option.getD_none]

theorem Turn.discarded_stale {result : Intake α × Receiver × Fabric α}
    (turn : fabric.Turn receiver examined taken cursor streak result)
    : ∀ item ∈ result.1.discarded, item.value ∈ fabric.stale item.producer receiver.slot := by
  rw [turn.intake]
  intro item member
  obtain ⟨producer, _, member⟩ := List.mem_flatMap.mp member
  obtain ⟨value, stale, rfl⟩ := List.mem_map.mp member
  exact stale

theorem Follows.toldBy (follows : fabric.Follows config history) (producer consumer : Nat)
    : fabric.ToldBy producer consumer (onLink producer consumer history) := by
  obtain ⟨hstale, hlive⟩ := follows.contents_eq producer consumer
  rw [← follows.config_eq] at hstale hlive
  refine ⟨hstale, hlive, ?_, ?_⟩
  · rw [follows.config_eq]
    exact follows.contents_of_few producer consumer
  · intro overrun near
    have hnone := drop_staleLead_of_overrun overrun near
    have hall := List.take_append_drop
      (staleLead fabric.config.drainOnReclaim (onLink producer consumer history))
      (remaining (onLink producer consumer history))
    rw [hnone, List.append_nil] at hall
    exact ⟨hstale.trans hall, hlive.trans hnone⟩

theorem Follows.takesLive (follows : fabric.Follows config history)
    (poised : receiver.Poised fabric.producerCount)
    (within : receiver.slot < fabric.consumerCount) (discarded : Array (Sourced α))
    : (Reading.mk fabric receiver discarded).TakesLive := by
  obtain ⟨hnext, hanswer⟩ := (Reading.mk fabric receiver discarded).pop_eq_attempt
  rcases Session.first_live_or_dry (fabric.live · receiver.slot)
    (receiver.turns fabric.producerCount)
    with hdry | ⟨front, producer, back, value, rest, split, hdry, first⟩
  · have hall : ∀ producer, fabric.live producer receiver.slot = [] := by
      intro producer
      rcases Nat.lt_or_ge producer fabric.producerCount with lt | out
      · exact hdry producer (List.mem_append_right _ (poised.mem_round.mpr lt))
      · exact follows.wired.live_of_le _ out
    have hturn := follows.pop_dry poised within fun producer _ => hall producer
    have hnone : (fabric.pop receiver).1.taken = none := congrArg Intake.taken hturn.intake
    rcases hanswer with ⟨_, hsome, _⟩ | ⟨_, herror⟩
    · cases hnone.symm.trans hsome
    · exact {
        met := fun ok => by cases herror.symm.trans ok
        vain_iff := iff_of_true herror hall
        discarded := hturn.discarded_stale
      }
  · have hturn := follows.pop_served poised within split hdry first
    have hsome : (fabric.pop receiver).1.taken = some ⟨producer, value⟩ :=
      congrArg Intake.taken hturn.intake
    have hleft := hturn.examines.left producer (List.mem_append_right _ List.mem_cons_self)
    rw [first, List.tail_cons] at hleft
    rcases hanswer with ⟨item, hsome', hok⟩ | ⟨hnone, _⟩
    · obtain rfl := Option.some.inj (hsome.symm.trans hsome')
      exact {
        met := by
          intro item ok
          obtain rfl := Except.ok.inj (hok.symm.trans ok)
          rw [← hnext]
          exact ⟨rest, first, hleft⟩
        vain_iff := by
          refine iff_of_false (fun error => by cases hok.symm.trans error) fun dry => ?_
          cases first.symm.trans (dry producer)
        discarded := hturn.discarded_stale
      }
    · cases hnone.symm.trans hsome

end Fabric

namespace Session

/-- What happens between two attempts of a waiting receiver: the clock is read, and then the other
parties work.
-/
abbrev Pause (α : Type) := Channel.Pause (Operation α)

/-- The session that attempt number `index` of a wait finds if all before it have failed. -/
def foundBy (now place : Nat) (pauses : List (Pause α)) (session : Session α) (index : Nat)
    : Session α :=
  session.after now (untilAttempt (.pop place) (pauses.map Channel.Pause.calls) index)

/-- A receiver at work finds its fabric as the session has it. -/
def refresh (session : Session α) (reading : Reading α) : Reading α :=
  match session.fabric? reading.receiver.fabric with
  | some fabric => { reading with fabric := fabric }
  | none => reading

/-- The turns of a wait, in which the receiver finds its fabric as the others have left it. -/
def turnsOf (now place : Nat) (pauses : List (Pause α)) (session : Session α)
    : List (Turn (Reading α)) :=
  pauses.mapIdx fun index pause =>
    ⟨pause.now, (session.foundBy now place pauses (index + 1)).refresh⟩

/-- What attempt number `index` of a wait works on if all before it have failed. -/
def readingBy (now place : Nat) (pauses : List (Pause α)) (session : Session α)
    (reading : Reading α)
    : Nat → Reading α
  | 0 => reading
  | index + 1 =>
      if index < pauses.length then
        (session.foundBy now place pauses (index + 1)).refresh
          (readingBy now place pauses session reading index).pop.2
      else
        readingBy now place pauses session reading index

section Beside

variable {session : Session α} {operation : Operation α} {outcome : Outcome α} {place : Nat}
  {receiver : Receiver}

theorem receiver?_of_held (held : session.receivers[place]? = some ⟨receiver, true⟩)
    : session.receiver? place = some receiver := by
  simp only [receiver?, held, if_true]

/-- What other parties do leaves a receiver as it is. -/
theorem Transition.receiver_kept (transition : session.Transition operation outcome)
    (other : operation.party ≠ .receiver place) (held : session.receiver? place = some receiver)
    : outcome.session.receiver? place = some receiver := by
  have hplace := receivers_of_held held
  obtain ⟨within, _⟩ := Array.getElem?_eq_some_iff.mp hplace
  have hapart {place' : Nat} (handle : Issued Receiver)
      (ne : Party.receiver place' ≠ .receiver place)
      : (session.receivers.setIfInBounds place' handle)[place]? = some ⟨receiver, true⟩ :=
    (Array.getElem?_setIfInBounds_ne fun same => ne (congrArg Party.receiver same)).trans hplace
  cases transition with
  | missed | letGoSender | unregistered | pushed => exact held
  | letGoReceiver => exact receiver?_of_held (hapart _ other)
  | popped => exact receiver?_of_held (hapart _ other)
  | producer =>
      refine receiver?_of_held ?_
      rw [Outcome.logged, receivers_issueSender]
      exact hplace
  | @consumer number fabric =>
      refine receiver?_of_held ?_
      simp only [Outcome.logged, issueReceiver]
      split
      · exact (Array.getElem?_push_lt within).trans (Array.getElem?_eq_getElem within ▸ hplace)
      · exact hplace

/-- While other parties work a receiver stays as it is, and its fabric stays under its number. -/
theorem after_beside (now : Nat) {operations : List (Operation α)}
    (others : ∀ operation ∈ operations, operation.party ≠ .receiver place) {fabric : Fabric α}
    (held : session.receiver? place = some receiver)
    (found : session.fabric? receiver.fabric = some fabric)
    : (session.after now operations).receiver? place = some receiver
      ∧ ∃ next, (session.after now operations).fabric? receiver.fabric = some next := by
  induction operations generalizing session fabric with
  | nil => exact ⟨held, fabric, found⟩
  | cons operation rest ih =>
      obtain ⟨hother, hrest⟩ := List.forall_mem_cons.mp others
      have htransition := step_transition now session operation
      rcases htransition.fabric? receiver.fabric with ⟨gone, _⟩ | ⟨_, next, _, hnext, _⟩
      · cases gone.symm.trans found
      · exact ih hrest (htransition.receiver_kept hother held) hnext

end Beside

section ReadingBy

variable {session : Session α} {now place : Nat} {pauses : List (Pause α)} {reading : Reading α}

theorem foundBy_succ {index : Nat} {pause : Pause α} (here : pauses[index]? = some pause)
    : session.foundBy now place pauses (index + 1)
        = ((session.foundBy now place pauses index).step now (.pop place)).session.after now
            pause.calls := by
  have hcalls : (pauses.map Channel.Pause.calls)[index]? = some pause.calls := by
    rw [List.getElem?_map, here, Option.map_some]
  rw [foundBy, untilAttempt_succ hcalls, after_append]
  rfl

theorem foundBy_of_le {index : Nat} (out : pauses.length ≤ index)
    : session.foundBy now place pauses (index + 1) = session.foundBy now place pauses index := by
  rw [foundBy, untilAttempt_of_none, foundBy]
  rw [List.getElem?_map, List.getElem?_eq_none out, Option.map_none]

/-- A session keeps a receiver at work, with its fabric as it is. What the receiver has discarded is
its own affair.
-/
structure Keeps (session : Session α) (place : Nat) (reading : Reading α) : Prop where
  held : session.receiver? place = some reading.receiver
  found : session.fabric? reading.receiver.fabric = some reading.fabric

/-- A pop through a receiver leaves the session with what the receiver has made of its fabric. -/
theorem Keeps.step_pop (keeps : session.Keeps place reading) (now : Nat)
    : (session.step now (.pop place)).session = session.keepReading place reading.pop.2
      ∧ (session.keepReading place reading.pop.2).Keeps place reading.pop.2 := by
  have hkept : reading.pop.2.receiver.fabric = reading.receiver.fabric :=
    congrArg Seat.fabric (pop_seat reading)
  refine ⟨congrArg Outcome.session (withReading_of_held keeps.held keeps.found hkept .popped),
    receiver?_setReceiver keeps.held _, ?_⟩
  rw [fabric?_keepReading session place hkept, fabric?_setFabric keeps.found, if_pos hkept.symm]

/-- What attempt number `index` works on is what its session keeps. The induction is on the number
of attempts, and what the others do in between changes the fabric of the receiver at most.
-/
theorem Keeps.readingBy (keeps : session.Keeps place reading) (now : Nat)
    (others : ∀ pause ∈ pauses, ∀ operation ∈ pause.calls, operation.party ≠ .receiver place)
    (index : Nat)
    : (session.foundBy now place pauses index).Keeps place
          (session.readingBy now place pauses reading index)
      ∧ (session.readingBy now place pauses reading index).receiver.seat
          = reading.receiver.seat := by
  induction index with
  | zero => exact ⟨keeps, rfl⟩
  | succ index ih =>
      obtain ⟨hkeeps, hseat⟩ := ih
      rcases Nat.lt_or_ge index pauses.length with lt | out
      · have here : pauses[index]? = some pauses[index] := List.getElem?_eq_getElem lt
        obtain ⟨hstep, hnext⟩ := hkeeps.step_pop now
        obtain ⟨held, fabric, found⟩ :=
          after_beside now (others _ (List.getElem_mem lt)) hnext.held hnext.found
        rw [← hstep, ← foundBy_succ here] at held found
        rw [Session.readingBy, if_pos lt, refresh, found]
        exact ⟨⟨held, found⟩, (pop_seat _).trans hseat⟩
      · rw [foundBy_of_le out, Session.readingBy, if_neg (Nat.not_lt.mpr out)]
        exact ⟨hkeeps, hseat⟩

/-- What a wait has discarded is what its attempts have discarded one after the other. -/
theorem discarded_readingBy (fresh : reading.discarded = #[]) {index : Nat}
    (le : index ≤ pauses.length)
    : (session.readingBy now place pauses reading index).discarded.toList
        = (List.range index).flatMap fun earlier =>
            (session.readingBy now place pauses reading earlier).pop.1.discarded := by
  induction index with
  | zero => rw [readingBy, fresh, List.range_zero, List.flatMap_nil]
  | succ index ih =>
      have hrefresh (session : Session α) (reading : Reading α)
          : (session.refresh reading).discarded = reading.discarded := by
        rw [refresh]
        split <;> rfl
      have hpop (reading : Reading α)
          : reading.pop.2.discarded.toList
            = reading.discarded.toList ++ reading.pop.1.discarded := by
        simp [Reading.pop]
      rw [readingBy, if_pos (Nat.lt_of_succ_le le), hrefresh, hpop, ih (Nat.le_of_succ_le le),
        List.range_succ, List.flatMap_append, List.flatMap_singleton]

end ReadingBy

/-- A pop that waits while other parties are at work, begun when the clock reads `begun`. -/
structure PopWaits (shape : Shape) (configs : List Config) (now : Nat)
    (operations : List (Operation α)) (place : Nat) (reading : Reading α) (timeout : Timeout)
    (begun : Nat) : Prop where
  /-- An attempt is a pop in the session as the others have left it, and the history up to there
  says which values it finds live.
  -/
  attempt
    : let session := (start shape configs).after now operations
      ∀ pauses : List (Pause α),
        (∀ pause ∈ pauses, ∀ operation ∈ pause.calls, operation.party ≠ .receiver place)
        → ∀ index,
            let found := session.foundBy now place pauses index
            let tried := session.readingBy now place pauses reading index
            found.Keeps place tried
            ∧ (found.step now (.pop place)).session = found.keepReading place tried.pop.2
            ∧ tried.receiver.seat = reading.receiver.seat
            ∧ tried.TakesLive
            ∧ ∀ producer,
                let past :=
                  onLink producer reading.receiver.slot
                    (history now reading.receiver.fabric
                      (operations
                        ++ untilAttempt (.pop place) (pauses.map Channel.Pause.calls) index)
                      (start shape configs))
                tried.fabric.ToldBy producer reading.receiver.slot past
  /-- The wait ends with the first attempt that finds a live value, or with one in vain. -/
  retried
    : let session := (start shape configs).after now operations
      ∀ pauses : List (Pause α),
        (∀ pause ∈ pauses, ∀ operation ∈ pause.calls, operation.party ≠ .receiver place)
        → let tried := session.readingBy now place pauses reading
          let waited := reading.popWait timeout begun (session.turnsOf now place pauses)
          ∃ failures,
            Retried .untilReached (timeout.deadline begun) (pauses.map Channel.Pause.now) ()
              (fun index => Reading.attempt () (tried index)) failures waited
            ∧ waited.2 = (tried failures).pop.2
            ∧ waited.2.discarded.toList
              = (List.range (failures + 1)).flatMap fun index => (tried index).pop.1.discarded
  /-- Left to itself it has the result and the effect of one pop: on the links, on the cursor and
  the streak, and in what is discarded.
  -/
  idle
    : ∀ clock,
        let waited := reading.popWait timeout begun (idleTurns clock)
        waited.2 = reading.pop.2
        ∧ ((∃ item, reading.pop.1.taken = some item ∧ waited.1 = .done item)
          ∨ reading.pop.1.taken = none ∧ waited.1.Unmet ())

/-- A pop that waits is retried pops, in every session that a run has come to. -/
theorem popWaits (shape : Shape) (configs : List Config) (now : Nat)
    (operations : List (Operation α)) {place : Nat} {reading : Reading α}
    (keeps : ((start shape configs).after now operations).Keeps place reading)
    (fresh : reading.discarded = #[]) (timeout : Timeout) (begun : Nat)
    : PopWaits shape configs now operations place reading timeout begun where
  attempt := by
    intro session pauses others index found tried
    obtain ⟨hkeeps, hseat⟩ := keeps.readingBy now others index
    let all := operations ++ untilAttempt (.pop place) (pauses.map Channel.Pause.calls) index
    have hreached : found = (start shape configs).after now all :=
      (after_append now operations _ (start shape configs)).symm
    have hkeeps' : ((start shape configs).after now all).Keeps place tried := hreached ▸ hkeeps
    obtain ⟨config, configured, hf⟩ :=
      (follows_after_start shape configs now all).fabric hkeeps'.found
    obtain ⟨fabric, hfound, within, hpoised, _⟩ :=
      receiver_stands shape configs now all hkeeps'.held configured
    obtain rfl := Option.some.inj (hfound.symm.trans hkeeps'.found)
    have hnumber : tried.receiver.fabric = reading.receiver.fabric := congrArg Seat.fabric hseat
    refine ⟨hkeeps, (hkeeps.step_pop now).1, hseat,
      hf.takesLive hpoised within tried.discarded, ?_⟩
    intro producer past
    rw [hnumber] at hf
    exact hf.toldBy producer reading.receiver.slot
  retried := by
    intro session pauses others tried waited
    have hpop (index : Nat) : (Reading.attempt () (tried index)).2 = (tried index).pop.2 :=
      (tried index).pop_eq_attempt.1.symm
    obtain ⟨failures, retried⟩ : ∃ failures,
        Retried .untilReached (timeout.deadline begun)
          ((session.turnsOf now place pauses).map Turn.now) ()
          (fun index => Reading.attempt () (tried index)) failures waited := by
      refine await_retried _ _ (fun _ => rfl) _ fun {index turn next} here failed => ?_
      rw [turnsOf, List.getElem?_mapIdx] at here
      obtain ⟨pause, at_, rfl⟩ := Option.map_eq_some_iff.mp here
      obtain ⟨lt, _⟩ := List.getElem?_eq_some_iff.mp at_
      have hnext : (tried index).pop.2 = next := (hpop index).symm.trans (congrArg Prod.snd failed)
      rw [show tried (index + 1) = _ from if_pos lt, hnext]
    have hclock : (session.turnsOf now place pauses).map Turn.now
        = pauses.map Channel.Pause.now := by
      apply List.ext_getElem?
      intro index
      simp only [turnsOf, List.getElem?_map, List.getElem?_mapIdx, Option.map_map]
      rfl
    rw [hclock] at retried
    have hstate := retried.ends.result.1.trans (hpop failures)
    have hle : failures ≤ pauses.length := by
      simpa using retried.failures_le
    refine ⟨failures, retried, hstate, ?_⟩
    rw [hstate, List.range_succ, List.flatMap_append, List.flatMap_singleton,
      ← discarded_readingBy fresh hle]
    simp [Reading.pop, tried]
  idle := by
    intro clock waited
    obtain ⟨config, _, hf⟩ := (follows_after_start shape configs now operations).fabric keeps.found
    obtain ⟨failures, ends⟩ : ∃ failures,
        Concludes .untilReached (timeout.deadline begun) (clock.drop failures) ()
          (Reading.attempt () reading) waited :=
      await_idle _ _ (fun _ => rfl) (Reading.attempt_again hf) clock
    obtain ⟨hnext, hanswer⟩ := reading.pop_eq_attempt
    exact ⟨ends.result.1.trans hnext.symm, ends.decided hanswer⟩

end Session

/-- Waits are retried attempts with the effect of one. In every state of a channel and of a session,
for every timeout, whatever the clock shows and whatever the other parties do between the attempts,
a wait makes at least one attempt and goes on only after one that failed. A push that waits puts its
value in once, at the first attempt that finds room, or hands it back without having put it in. A
pop that waits takes what the first attempt takes that is not in vain, or has removed nothing but
stale values; the history of each link says which values are stale, also once its mark is overrun. A
wait gives up directly after a failed attempt, in the state which that has left. If nobody else
acts, the result and the state are those of one push or pop, however often it has tried.
-/
theorem waits_are_retries
    : (∀ {capacity : Nat} {first : Channel α} (moves : List (Channel.Move α)),
          0 < capacity
          → Channel.allocate? capacity = some first
          → let reached := first.moved moves
            (∀ value timeout begun,
                reached.writerOpen = true
                → Channel.PushWaits capacity reached value timeout begun)
            ∧ ∀ timeout begun,
                reached.readerOpen = true → Channel.PopWaits reached timeout begun)
      ∧ ∀ (shape : Shape) (configs : List Config) (now : Nat)
          (operations : List (Session.Operation α)) {place : Nat} {receiver : Receiver}
          {fabric : Fabric α},
          let reached := (Session.start shape configs).after now operations
          reached.receiver? place = some receiver
          → reached.fabric? receiver.fabric = some fabric
          → ∀ timeout begun,
              Session.PopWaits shape configs now operations place ⟨fabric, receiver, #[]⟩ timeout
                begun := by
  refine ⟨?_, ?_⟩
  · intro capacity first moves positive allocated reached
    have haccounts := (Channel.accounts_of_allocated positive allocated).after
      (Channel.operations moves first)
    rw [← Channel.moved_eq moves first] at haccounts
    exact ⟨fun value timeout begun writes => haccounts.pushWaits writes value timeout begun,
      fun timeout begun reads => haccounts.popWaits reads timeout begun⟩
  · intro shape configs now operations place receiver fabric reached held found timeout begun
    exact Session.popWaits shape configs now operations ⟨held, found⟩ rfl timeout begun

/-- The one producer of a consumer is replaced with a value on its way. -/
def handover : List (Session.Operation Nat) :=
  [.registerConsumer 0, .registerProducer 0, .push 0 10, .unregister 0, .registerProducer 0]

/-- A push waits for the reader of a full channel, which takes its time: it succeeds at its third
attempt, and gives up if the clock passes the deadline before that. A pop with no time to wait makes
its one attempt all the same and discards the value of the producer that has left.
-/
theorem waits_are_retries_handover
    : let channel : Channel Nat := ⟨.empty 1 0, true, true⟩
      let reached := channel.moved [.once (.writer (.push 1))]
      let session := (Session.start ⟨1, 1⟩ [⟨2, true⟩]).after 0 handover
      Channel.allocate? 1 = some channel
        ∧ Channel.PushWaits 1 reached 2 (.within ⟨0, 10⟩) 0
        ∧ Channel.PopWaits reached (.within ⟨0, 10⟩) 0
        ∧ (reached.pushWait (.within ⟨0, 10⟩) 0
              ([⟨4, [.isEmpty]⟩, ⟨8, [.pop]⟩].map (Channel.Pause.turn .reader)) 2).1
            = .done ()
        ∧ (reached.pushWait (.within ⟨0, 10⟩) 0
              ([⟨4, [.isEmpty]⟩, ⟨11, [.pop]⟩].map (Channel.Pause.turn .reader)) 2).1
            = .gaveUp 2 11
        ∧ ∃ fabric,
            session.receiver? 0 = some ⟨0, 0, 0, 0⟩
            ∧ session.fabric? 0 = some fabric
            ∧ Session.PopWaits ⟨1, 1⟩ [⟨2, true⟩] 0 handover 0
              ⟨fabric, ⟨0, 0, 0, 0⟩, #[]⟩ (.within ⟨0, 0⟩) 7
            ∧ (Reading.popWait (.within ⟨0, 0⟩) 7 (idleTurns [7])
                  ⟨fabric, ⟨0, 0, 0, 0⟩, #[]⟩).1
                = .gaveUp () 7
            ∧ (Reading.popWait (.within ⟨0, 0⟩) 7 (idleTurns [7])
                  ⟨fabric, ⟨0, 0, 0, 0⟩, #[]⟩).2.discarded
                = #[⟨0, 10⟩] := by
  intro channel reached session
  have hallocated : Channel.allocate? 1 = some channel := rfl
  obtain ⟨hchannels, hsessions⟩ := waits_are_retries (α := Nat)
  obtain ⟨hpushes, hpops⟩ := hchannels [.once (.writer (.push 1))] (by decide) hallocated
  have hheld : session.receiver? 0 = some ⟨0, 0, 0, 0⟩ := by decide +kernel
  have hgaveUp
      : (session.fabric? 0).map (fun fabric =>
            ((Reading.popWait (.within ⟨0, 0⟩) 7 (idleTurns [7])
                ⟨fabric, ⟨0, 0, 0, 0⟩, #[]⟩).1,
              (Reading.popWait (.within ⟨0, 0⟩) 7 (idleTurns [7])
                ⟨fabric, ⟨0, 0, 0, 0⟩, #[]⟩).2.discarded))
          = some (.gaveUp () 7, #[⟨0, 10⟩]) := by
    decide +kernel
  obtain ⟨fabric, found, hresult⟩ := Option.map_eq_some_iff.mp hgaveUp
  exact ⟨hallocated, hpushes 2 _ 0 (by decide), hpops _ 0 (by decide), by decide, by decide,
    fabric, hheld, found, hsessions ⟨1, 1⟩ [⟨2, true⟩] 0 handover hheld found _ 7,
    congrArg Prod.fst hresult, congrArg Prod.snd hresult⟩

end Crossbar
