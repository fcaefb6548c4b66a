import Crossbar.Proofs.Standing
import Crossbar.Proofs.Stock
import Crossbar.Fabric.Reading

/-! What handles at work do with values. Every value given to a push is accepted, handed back or
lost, and every value that leaves the fabric is returned by a pop or thrown away by it. This holds
of one push or pop, and so of loops, of waits, and of a wait beside another party's push.
-/

namespace Crossbar

open Passage

variable {α : Type}

-----------------------------------------------------------------------------------------
-- Single pushes and pops account for their values
-----------------------------------------------------------------------------------------

/-- A push brings nothing out of the fabric. -/
@[simp] theorem departed_passages_push (answer : PushAnswer α) (producer : Nat) (value : α)
    : departed (answer.passages producer value) = [] := by
  cases answer <;> rfl

/-- The one value given to a push is accepted, handed back or lost. -/
theorem PushAnswer.Settles.account {answer : PushAnswer α} {value : α}
    (settles : answer.Settles value) (producer : Nat)
    : [value]
        = entered (answer.passages producer value) ++ answer.handedBack?.toList
          ++ answer.lost?.toList := by
  cases answer with
  | accepted consumer => rfl
  | rejected returned => exact congrArg (fun returned => [returned]) settles.symm
  | failed failure lost => exact congrArg (fun lost => [lost]) settles.symm

/-- A pop brings nothing into the fabric. -/
@[simp] theorem entered_passages_pop (intake : Intake α) (consumer : Nat)
    : entered (intake.passages consumer) = [] := by
  rw [entered, Intake.passages, List.filterMap_append, List.filterMap_map, List.filterMap_map]
  cases intake.taken <;> simp [Function.comp_def, accepted?]

/-- What a pop takes out of the fabric is discarded or returned. -/
theorem departed_passages_pop (intake : Intake α) (consumer : Nat)
    : departed (intake.passages consumer)
        = intake.discarded.map Sourced.value ++ intake.value.toList := by
  rw [departed, Intake.passages, List.filterMap_append, List.filterMap_map, List.filterMap_map,
    Intake.value]
  cases intake.taken <;> simp [Function.comp_def, departed?]

-----------------------------------------------------------------------------------------
-- Senders at work let values in
-----------------------------------------------------------------------------------------

/-- Between two moments of a sender's work `more` happened: of the values given to pushes some
entered the fabric, and the others were handed back or lost.
-/
structure Writing.Trade (config : Config) (past more : List (Passage α))
    (before after : Writing α) (given handedBack lost : List α) : Prop where
  kept : after.sender.fabric = before.sender.fabric
  follows : after.fabric.Follows config (past ++ more)
  departed_eq : departed more = []
  given_eq
    : (given : Multiset α)
        = (entered more : Multiset α) + (handedBack : Multiset α) + (lost : Multiset α)

namespace Writing

variable {config : Config} {past : List (Passage α)} {writing : Writing α}

/-- The values that a row of pushes reaches: all of them through a registered handle, and the first
one only through a handle out of date, because that push fails and ends the row.
-/
def reached (writing : Writing α) (values : List α) : List α :=
  if writing.fabric.isRegistered writing.sender then values else values.take 1

@[simp] theorem reached_nil (writing : Writing α) : writing.reached [] = [] := by
  rw [reached, List.take_nil, ite_self]

theorem reached_of_registered (registered : writing.fabric.isRegistered writing.sender = true)
    (values : List α)
    : writing.reached values = values := by
  rw [reached, if_pos registered]

theorem reached_of_outdated (outdated : writing.fabric.isRegistered writing.sender = false)
    (value : α) (rest : List α)
    : writing.reached (value :: rest) = [value] := by
  rw [reached, outdated, if_neg Bool.false_ne_true]
  rfl

/-- Nothing happens between a moment and itself. -/
theorem Trade.refl (follows : writing.fabric.Follows config past)
    : writing.Trade config past [] writing [] [] [] where
  kept := rfl
  follows := by rwa [List.append_nil]
  departed_eq := rfl
  given_eq := rfl

/-- What happened in two stretches of work adds up. -/
theorem Trade.trans {middle last : Writing α} {more next : List (Passage α)}
    {given handedBack lost given' handedBack' lost' : List α}
    (first : writing.Trade config past more middle given handedBack lost)
    (second : middle.Trade config (past ++ more) next last given' handedBack' lost')
    : writing.Trade config past (more ++ next) last (given ++ given')
        (handedBack ++ handedBack') (lost ++ lost') where
  kept := second.kept.trans first.kept
  follows := by
    rw [← List.append_assoc]
    exact second.follows
  departed_eq := by rw [departed_append, first.departed_eq, second.departed_eq, List.append_nil]
  given_eq := by
    simp only [entered_append, ← Multiset.coe_add]
    rw [first.given_eq, second.given_eq]
    ac_rfl

/-- One push accounts for its value. -/
theorem trade_push (consumer : Option Nat) (value : α)
    (follows : writing.fabric.Follows config past)
    : ∃ more,
        writing.Trade config past more (writing.push consumer value).2 [value]
          (writing.push consumer value).1.handedBack?.toList
          (writing.push consumer value).1.lost?.toList := by
  obtain ⟨hsettles, hfabric, _, hf⟩ := follows.writingPush writing consumer value
  refine ⟨_, {
    kept := hfabric
    follows := hf
    departed_eq := departed_passages_push _ _ _
    given_eq := ?_
  }⟩
  rw [Multiset.coe_add, Multiset.coe_add, ← hsettles.account]

/-- A row of pushes accounts for the values that it reaches. The induction is on the values; a
handle out of date ends the row at the first of them, and a registered one never does.
-/
theorem trade_pushEach (consumer : Option Nat) (values : List α)
    (follows : writing.fabric.Follows config past)
    : ∃ more,
        writing.Trade config past more (writing.pushEach consumer values).2
          (writing.reached values)
          ((writing.pushEach consumer values).1.filterMap PushAnswer.handedBack?)
          ((writing.pushEach consumer values).1.filterMap PushAnswer.lost?) := by
  induction values generalizing past writing with
  | nil =>
      rw [reached_nil]
      exact ⟨[], .refl follows⟩
  | cons value rest ih =>
      obtain ⟨more, hfirst⟩ := trade_push consumer value follows
      have hstill := Fabric.isRegistered_push writing consumer value
      cases registered : writing.fabric.isRegistered writing.sender with
      | false =>
          have hfails : writing.push consumer value
              = (.failed (.unregisteredPush writing.sender.slot) value, writing) :=
            Fabric.push_of_outdated registered consumer value
          rw [reached_of_outdated registered, pushEach_cons]
          rw [hfails] at hfirst ⊢
          exact ⟨more, hfirst⟩
      | true =>
          have hworks : (writing.push consumer value).1.failure? = none :=
            Fabric.failure?_push registered consumer value
          rcases hpush : writing.push consumer value with ⟨answer, next⟩
          rw [hpush] at hfirst hstill hworks
          have hreached : writing.reached (value :: rest) = [value] ++ next.reached rest := by
            rw [reached_of_registered registered, reached_of_registered (hstill.trans registered)]
            rfl
          obtain ⟨later, hrest⟩ := ih hfirst.follows
          rw [hreached, pushEach_cons, hpush]
          cases answer with
          | failed failure lost => cases hworks
          | accepted taker | rejected returned => exact ⟨more ++ later, hfirst.trans hrest⟩

end Writing

-----------------------------------------------------------------------------------------
-- Receivers at work let values out
-----------------------------------------------------------------------------------------

/-- The values that a receiver at work has thrown away so far. -/
def Reading.thrown (reading : Reading α) : List α :=
  reading.discarded.toList.map Sourced.value

/-- Between two moments of a receiver's work `more` happened: `put` entered its fabric, and what
left was returned as `taken` or thrown away.
-/
structure Reading.Trade (config : Config) (past more : List (Passage α))
    (before after : Reading α) (put taken : List α) : Prop where
  kept : after.receiver.fabric = before.receiver.fabric
  follows : after.fabric.Follows config (past ++ more)
  entered_eq : entered more = put
  departed_eq
    : (departed more : Multiset α) + before.thrown = (taken : Multiset α) + after.thrown

namespace Reading

variable {config : Config} {past : List (Passage α)} {reading : Reading α}

/-- Nothing happens between a moment and itself. -/
theorem Trade.refl (follows : reading.fabric.Follows config past)
    : reading.Trade config past [] reading [] [] where
  kept := rfl
  follows := by rwa [List.append_nil]
  entered_eq := rfl
  departed_eq := rfl

/-- What happened in two stretches of work adds up. -/
theorem Trade.trans {middle last : Reading α} {more next : List (Passage α)}
    {put taken put' taken' : List α} (first : reading.Trade config past more middle put taken)
    (second : middle.Trade config (past ++ more) next last put' taken')
    : reading.Trade config past (more ++ next) last (put ++ put') (taken ++ taken') where
  kept := second.kept.trans first.kept
  follows := by
    rw [← List.append_assoc]
    exact second.follows
  entered_eq := by rw [entered_append, first.entered_eq, second.entered_eq]
  departed_eq := by
    calc ((departed (more ++ next) : List α) : Multiset α) + reading.thrown
        = ↑(departed next) + (↑(departed more) + ↑reading.thrown) := by
          rw [departed_append, ← Multiset.coe_add, add_comm (departed more : Multiset α),
            add_assoc]
      _ = ↑taken + (↑(departed next) + ↑middle.thrown) := by
          rw [first.departed_eq, add_left_comm]
      _ = ((taken ++ taken' : List α) : Multiset α) + last.thrown := by
          rw [second.departed_eq, ← Multiset.coe_add, add_assoc]

/-- A receiver that has just begun has thrown nothing away yet. -/
theorem Trade.departed_of_start {fabric : Fabric α} {receiver : Receiver} {more : List (Passage α)}
    {last : Reading α} {put taken : List α}
    (trade : Trade config past more ⟨fabric, receiver, #[]⟩ last put taken)
    : (departed more : Multiset α) = (taken : Multiset α) + (last.thrown : Multiset α) :=
  (add_zero _).symm.trans trade.departed_eq

/-- A pop returns what it takes and throws the rest away. -/
theorem trade_pop (follows : reading.fabric.Follows config past)
    : ∃ more, reading.Trade config past more reading.pop.2 [] reading.pop.1.value.toList := by
  obtain ⟨hfabric, _, hdiscarded, hf⟩ := follows.readingPop reading
  refine ⟨_, {
    kept := hfabric
    follows := hf
    entered_eq := entered_passages_pop _ _
    departed_eq := ?_
  }⟩
  rw [departed_passages_pop, thrown, thrown, hdiscarded, List.map_append, ← Multiset.coe_add,
    ← Multiset.coe_add]
  ac_rfl

-----------------------------------------------------------------------------------------
-- Loops and waits add up their pops
-----------------------------------------------------------------------------------------

/-- A loop of operations that each return some values returns all of them, by induction on its
limit.
-/
theorem trade_gather {β : Type} (take : Reading α → Option β × Reading α)
    (values : Option β → List α) (silent : values none = [])
    (once
      : ∀ {past} {reading : Reading α},
          reading.fabric.Follows config past
          → ∃ more,
              reading.Trade config past more (take reading).2 [] (values (take reading).1))
    (limit : Nat) (follows : reading.fabric.Follows config past)
    : ∃ more,
        reading.Trade config past more (gather take limit reading).2 []
          ((gather take limit reading).1.flatMap fun item => values (some item)) := by
  induction limit generalizing past reading with
  | zero => exact ⟨[], .refl follows⟩
  | succ limit ih =>
      obtain ⟨more, hfirst⟩ := once follows
      rw [gather_succ]
      rcases htake : take reading with ⟨taken, next⟩
      rw [htake] at hfirst
      cases taken with
      | none =>
          rw [silent] at hfirst
          exact ⟨more, hfirst⟩
      | some item =>
          obtain ⟨rest, hrest⟩ := ih hfirst.follows
          exact ⟨more ++ rest, hfirst.trans hrest⟩

theorem trade_popMany (count : Nat) (follows : reading.fabric.Follows config past)
    : ∃ more,
        reading.Trade config past more (reading.popMany count).2 []
          ((reading.popMany count).1.flatMap fun intake => intake.value.toList) :=
  trade_gather (fun reading => (some reading.pop.1, reading.pop.2))
    (fun intake => (intake.bind Intake.value).toList) rfl (fun follows => trade_pop follows) count
    follows

theorem trade_popAll (follows : reading.fabric.Follows config past)
    : ∃ more,
        reading.Trade config past more reading.popAll.2 []
          (reading.popAll.1.map Sourced.value) := by
  rw [List.map_eq_flatMap]
  exact trade_gather (fun reading => (reading.pop.1.taken, reading.pop.2))
    (fun taken => (taken.map Sourced.value).toList) rfl (fun follows => trade_pop follows)
    (reading.fabric.backlog + 1) follows

end Reading

/-- The value that a wait returned. -/
def Waited.returned {γ : Type} : Waited γ (Sourced α) → List α
  | .done taken => [taken.value]
  | _ => []

/-- The value that an attempt yields. -/
def yielded {γ : Type} : Except γ (Sourced α) → List α
  | .ok taken => [taken.value]
  | .error _ => []

/-- What holds of the values returned so far, none of them, and is kept by every attempt and by
everything between attempts, holds of what the wait returns. The induction is on the turns.
-/
theorem await_rule {γ σ : Type} {patience : Patience} {deadline : Option Nat}
    {attempt : γ → σ → Except γ (Sourced α) × σ} (holds : List α → σ → Prop)
    (tries
      : ∀ carried state,
          holds [] state → holds (yielded (attempt carried state).1) (attempt carried state).2)
    {turns : List (Turn σ)}
    (meanwhile : ∀ turn ∈ turns, ∀ state, holds [] state → holds [] (turn.meanwhile state))
    (carried : γ) {state : σ} (start : holds [] state)
    : holds (await patience deadline attempt turns carried state).1.returned
        (await patience deadline attempt turns carried state).2 := by
  induction turns generalizing carried state with
  | nil =>
      have hfirst := tries carried state start
      rw [await]
      rcases hresult : attempt carried state with ⟨result, next⟩
      rw [hresult] at hfirst
      cases result <;> exact hfirst
  | cons turn rest ih =>
      have hfirst := tries carried state start
      rw [await]
      rcases hresult : attempt carried state with ⟨result, next⟩
      rw [hresult] at hfirst
      cases result with
      | ok answer => exact hfirst
      | error carried =>
          dsimp only
          split
          · exact hfirst
          · exact ih (fun turn member => meanwhile turn (List.mem_cons_of_mem _ member)) carried
              (meanwhile turn List.mem_cons_self next hfirst)

/-- Between two attempts the other party acts or nothing happens. -/
theorem turnsAround_meanwhile {σ : Type} {start : Nat} {deadline : Option Nat} {delay : Nat}
    {act : σ → σ} {turn : Turn σ} (member : turn ∈ turnsAround start deadline delay act)
    : turn.meanwhile = act ∨ turn.meanwhile = id := by
  simp only [turnsAround] at member
  split at member
  · obtain rfl := List.mem_singleton.mp member
    exact .inl rfl
  · split at member
    · rcases List.mem_cons.mp member with rfl | hlater
      · exact .inl rfl
      · simp only [List.mem_cons, List.not_mem_nil, or_false] at hlater
        rcases hlater with rfl | rfl <;> exact .inr rfl
    · simp only [List.mem_cons, List.not_mem_nil, or_false] at member
      rcases member with rfl | rfl | rfl <;> exact .inr rfl

namespace Reading

variable {config : Config} {past : List (Passage α)} {reading : Reading α}

/-- An attempt of a wait is a pop. -/
theorem attempt_eq (carried : Unit) (reading : Reading α)
    : yielded (attempt carried reading).1 = reading.pop.1.value.toList
      ∧ (attempt carried reading).2 = reading.pop.2 := by
  rw [attempt]
  rcases reading.pop with ⟨⟨taken, discarded⟩, next⟩
  cases taken <;> exact ⟨rfl, rfl⟩

/-- An attempt after something has happened adds what its pop returns. -/
theorem Trade.attempt {more : List (Passage α)} {middle : Reading α} {put taken : List α}
    (first : reading.Trade config past more middle put taken) (carried : Unit)
    : ∃ more,
        reading.Trade config past more (attempt carried middle).2 put
          (taken ++ yielded (Reading.attempt carried middle).1) := by
  obtain ⟨hyield, hnext⟩ := attempt_eq carried middle
  obtain ⟨next, hpop⟩ := trade_pop first.follows
  have hboth := first.trans hpop
  rw [List.append_nil] at hboth
  rw [hyield, hnext]
  exact ⟨_, hboth⟩

/-- A wait on a quiet fabric returns at most one value. -/
theorem trade_popWait (timeout : Timeout) (start : Nat) (deadline : Option Nat)
    (follows : reading.fabric.Follows config past)
    : ∃ more,
        reading.Trade config past more
          (reading.popWait timeout start (quietTurns start deadline)).2 []
          (reading.popWait timeout start (quietTurns start deadline)).1.returned := by
  apply await_rule fun taken last => ∃ more, reading.Trade config past more last [] taken
  · rintro carried middle ⟨more, hfirst⟩
    exact hfirst.attempt carried
  · rintro turn member middle hfirst
    rcases turnsAround_meanwhile member with hact | hact
    · rw [hact]
      exact hfirst
    · rw [hact]
      exact hfirst
  · exact ⟨[], .refl follows⟩

-----------------------------------------------------------------------------------------
-- A wait beside a push settles the push and returns at most one value
-----------------------------------------------------------------------------------------

/-- A push on the fabric of a reader adds its value to what was put in, if it is accepted. -/
theorem Trade.besidePush {more : List (Passage α)} {middle : Reading α} {taken : List α}
    (first : reading.Trade config past more middle [] taken) (sender : Sender) (value : α)
    : let pushed := middle.besidePush sender value
      pushed.1.1.Settles value
      ∧ pushed.1.2.fabric = sender.fabric
      ∧ ∃ more,
          reading.Trade config past more pushed.2
            (entered (pushed.1.1.passages sender.slot value)) taken := by
  obtain ⟨_, hsettles, hf⟩ := first.follows.push sender value
  obtain ⟨hfabric, _⟩ := middle.fabric.push_sender sender value
  have hpush : middle.Trade config (past ++ more)
      ((middle.fabric.push sender value).1.passages sender.slot value)
      (middle.besidePush sender value).2
      (entered ((middle.fabric.push sender value).1.passages sender.slot value)) [] := {
    kept := rfl
    follows := hf
    entered_eq := rfl
    departed_eq := by rw [departed_passages_push]; rfl
  }
  have hboth := first.trans hpush
  rw [List.append_nil] at hboth
  exact ⟨hsettles, hfabric, _, hboth⟩

/-- How a wait beside a push stands: before the push nothing has been put in, and after it the push
has settled and its handle is still one of the fabric it was.
-/
def Stands (config : Config) (past : List (Passage α)) (reading : Reading α) (sender : Sender)
    (value : α) (taken : List α) (beside : Beside (PushAnswer α × Sender) (Reading α))
    : Prop :=
  match beside.answer with
  | none => ∃ more, reading.Trade config past more beside.state [] taken
  | some (answer, handle) =>
      answer.Settles value
      ∧ handle.fabric = sender.fabric
      ∧ ∃ more,
          reading.Trade config past more beside.state
            (entered (answer.passages sender.slot value)) taken

section Stands

variable {sender : Sender} {value : α} {taken : List α}
  {beside : Beside (PushAnswer α × Sender) (Reading α)}

/-- The other party's one push leaves the wait standing. -/
theorem Stands.act (stands : Stands config past reading sender value taken beside)
    : Stands config past reading sender value taken
        (beside.act (Reading.besidePush sender value)) := by
  obtain ⟨answer, middle⟩ := beside
  cases answer with
  | some answer => exact stands
  | none =>
      obtain ⟨more, first⟩ := stands
      exact first.besidePush sender value

/-- An attempt leaves the wait standing, with what it yields. -/
theorem Stands.attempt (stands : Stands config past reading sender value [] beside)
    (carried : Unit)
    : Stands config past reading sender value
        (yielded (beside.attempt Reading.attempt carried).1)
        (beside.attempt Reading.attempt carried).2 := by
  obtain ⟨answer, middle⟩ := beside
  cases answer with
  | none =>
      obtain ⟨more, first⟩ := stands
      exact first.attempt carried
  | some answer =>
      obtain ⟨hsettles, hfabric, more, first⟩ := stands
      exact ⟨hsettles, hfabric, first.attempt carried⟩

/-- Once the wait is over, the push has been made or is made now. -/
theorem Stands.settle (stands : Stands config past reading sender value taken beside)
    : let settled := beside.settle (Reading.besidePush sender value)
      settled.1.1.Settles value
      ∧ settled.1.2.fabric = sender.fabric
      ∧ ∃ more,
          reading.Trade config past more settled.2
            (entered (settled.1.1.passages sender.slot value)) taken := by
  obtain ⟨answer, middle⟩ := beside
  cases answer with
  | some answer => exact stands
  | none =>
      obtain ⟨more, first⟩ := stands
      exact first.besidePush sender value

end Stands

/-- A wait beside a push returns at most one value, and the push settles, whether it comes before
the end of the wait or after it.
-/
theorem trade_popWaitBesidePush (timeout : Timeout) (start delay : Nat) (sender : Sender)
    (value : α) (follows : reading.fabric.Follows config past)
    : let waited := reading.popWaitBesidePush timeout start delay sender value
      waited.2.1.1.Settles value
      ∧ waited.2.1.2.fabric = sender.fabric
      ∧ ∃ more,
          reading.Trade config past more waited.2.2
            (entered (waited.2.1.1.passages sender.slot value)) waited.1.returned := by
  apply Stands.settle
  apply await_rule (Stands config past reading sender value)
  · intro carried beside stands
    exact stands.attempt carried
  · intro turn member beside stands
    rcases turnsAround_meanwhile member with hact | hid
    · rw [hact]
      exact stands.act
    · rw [hid]
      exact stands
  · exact ⟨[], .refl follows⟩

end Reading

end Crossbar
