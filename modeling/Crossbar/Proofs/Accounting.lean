import Crossbar.Proofs.OperationHistory
import Crossbar.Proofs.Trade

/-! Every value given to a push of a session is accounted for exactly once. It was handed back, or
a pop returned it, or it was dropped on the way, or the fabric that accepted it gives it up when it
is torn down. This holds for all commands, with batches, waits and misused handles among them.
-/

namespace Crossbar.Session

open Passage

variable {α : Type}

/-- The number of the sender that a command pushes through. -/
def Command.sender? : Command α → Option Nat
  | .push sender _ | .pushTo sender _ _ | .pushEach sender _ _
  | .popWaitBesidePush _ sender _ _ _ => some sender
  | _ => none

/-- The number of the receiver that a command pops through. -/
def Command.receiver? : Command α → Option Nat
  | .pop receiver | .popMany receiver _ | .popAll receiver | .popWait receiver _
  | .popWaitBesidePush receiver _ _ _ _ => some receiver
  | _ => none

/-- The values given to pushes through the sender of a number: none, unless the session holds the
sender.
-/
def givenThrough (session : Session α) (number : Nat) (values : Writing α → List α) : List α :=
  match session.writing? number with
  | none => []
  | some writing => values writing

/-- The values that a command gives to pushes: its own, as far as a row of pushes reaches them, if
the session holds the handles that the command names.
-/
def Command.given (session : Session α) : Command α → List α
  | .push sender value | .pushTo sender _ value => session.givenThrough sender fun _ => [value]
  | .pushEach sender _ values =>
      session.givenThrough sender fun writing => writing.reached values
  | .popWaitBesidePush receiver sender value _ _ =>
      if (session.reading? receiver).isSome then session.givenThrough sender fun _ => [value]
      else []
  | _ => []

theorem givenThrough_of_none {session : Session α} {number : Nat}
    (missing : session.writing? number = none) (values : Writing α → List α)
    : session.givenThrough number values = [] := by
  rw [givenThrough, missing]

theorem givenThrough_of_some {session : Session α} {number : Nat} {writing : Writing α}
    (found : session.writing? number = some writing) (values : Writing α → List α)
    : session.givenThrough number values = values writing := by
  rw [givenThrough, found]

/-- A wait beside a push gives its value to the push if it finds both of its handles. -/
theorem Command.given_popWaitBesidePush {session : Session α} {receiver sender : Nat}
    {reading : Reading α} {writing : Writing α}
    (hreading : session.reading? receiver = some reading)
    (hwriting : session.writing? sender = some writing) (value : α) (delay : Nat)
    (timeout : Timeout)
    : (popWaitBesidePush receiver sender value delay timeout).given session = [value] := by
  rw [given, hreading, Option.isSome_some, if_pos rfl, givenThrough_of_some hwriting]

/-- The values that the caller has again after pushes that were refused. -/
def Reply.handedBack : Reply α → List α
  | .pushed answer | .besidePush answer _ => answer.handedBack?.toList
  | .pushedEach answers => answers.filterMap PushAnswer.handedBack?
  | _ => []

/-- The values that pops returned. -/
def Reply.returned : Reply α → List α
  | .popped intake => intake.value.toList
  | .poppedMany intakes => intakes.flatMap fun intake => intake.value.toList
  | .poppedAll taken => taken.map Sourced.value
  | .waited outcome | .besidePush _ outcome => outcome.returned
  | _ => []

/-- A command of a run, with the session it was given to and its outcome. -/
structure Moment (α : Type) where
  session : Session α
  command : Command α
  outcome : Outcome α

/-- The moments of a run. -/
def moments (now : Nat) : List (Command α) → Session α → List (Moment α)
  | [], _ => []
  | command :: rest, session =>
      let outcome := session.step now command
      ⟨session, command, outcome⟩ :: moments now rest outcome.session

namespace Moment

/-- The values that the moment's command gave to pushes. -/
def given (moment : Moment α) : List α :=
  moment.command.given moment.session

def handedBack (moment : Moment α) : List α :=
  moment.outcome.reply.handedBack

def lost (moment : Moment α) : List α :=
  moment.outcome.reply.lost

def returned (moment : Moment α) : List α :=
  moment.outcome.reply.returned

def discarded (moment : Moment α) : List α :=
  moment.outcome.discarded.map Sourced.value

/-- The fabric that the moment's command pushes to. -/
def writesTo? (moment : Moment α) : Option Nat :=
  (moment.command.sender?.bind moment.session.sender?).map Sender.fabric

/-- The fabric that the moment's command pops from. -/
def readsFrom? (moment : Moment α) : Option Nat :=
  (moment.command.receiver?.bind moment.session.receiver?).map Receiver.fabric

end Moment

/-- The moments that push to the fabric of a number. -/
def pushingTo (number : Nat) (moments : List (Moment α)) : List (Moment α) :=
  moments.filter fun moment => moment.writesTo? == some number

/-- The moments that pop from the fabric of a number. -/
def poppingFrom (number : Nat) (moments : List (Moment α)) : List (Moment α) :=
  moments.filter fun moment => moment.readsFrom? == some number

/-- What happened to the fabric of a number during some moments balances what their commands did
with values there: those given away entered it, were handed back or lost, and those that left it
were returned or discarded.
-/
structure Balances (number : Nat) (moments : List (Moment α)) (more : List (Passage α)) : Prop where
  given_eq
    : ((pushingTo number moments).flatMap Moment.given : Multiset α)
        = (entered more : Multiset α)
          + ((pushingTo number moments).flatMap Moment.handedBack : Multiset α)
          + ((pushingTo number moments).flatMap Moment.lost : Multiset α)
  departed_eq
    : (departed more : Multiset α)
        = ((poppingFrom number moments).flatMap Moment.returned : Multiset α)
          + ((poppingFrom number moments).flatMap Moment.discarded : Multiset α)

theorem Balances.nil (number : Nat) : Balances number ([] : List (Moment α)) [] :=
  ⟨rfl, rfl⟩

/-- Balanced accounts add up. -/
theorem Balances.append {number : Nat} {first second : List (Moment α)}
    {more next : List (Passage α)} (hf : Balances number first more)
    (hs : Balances number second next)
    : Balances number (first ++ second) (more ++ next) where
  given_eq := by
    simp only [pushingTo, List.filter_append, List.flatMap_append, entered_append,
      ← Multiset.coe_add]
    have hf := hf.given_eq
    have hs := hs.given_eq
    simp only [pushingTo] at hf hs
    rw [hf, hs]
    ac_rfl
  departed_eq := by
    simp only [poppingFrom, List.filter_append, List.flatMap_append, departed_append,
      ← Multiset.coe_add]
    have hf := hf.departed_eq
    have hs := hs.departed_eq
    simp only [poppingFrom] at hf hs
    rw [hf, hs]
    ac_rfl

/-- One moment balances if what it did with values happened where its command works, and nothing
happened elsewhere.
-/
theorem balances_single {number : Nat} {moment : Moment α} {more : List (Passage α)}
    (writes
      : moment.writesTo? = some number
        → (moment.given : Multiset α)
          = (entered more : Multiset α) + (moment.handedBack : Multiset α)
            + (moment.lost : Multiset α))
    (unwritten : moment.writesTo? ≠ some number → entered more = [])
    (reads
      : moment.readsFrom? = some number
        → (departed more : Multiset α)
          = (moment.returned : Multiset α) + (moment.discarded : Multiset α))
    (unread : moment.readsFrom? ≠ some number → departed more = [])
    : Balances number [moment] more where
  given_eq := by
    by_cases hplace : moment.writesTo? = some number
    · have hkeep : pushingTo number [moment] = [moment] := by simp [pushingTo, hplace]
      simpa [hkeep] using writes hplace
    · have hkeep : pushingTo number [moment] = [] := by simp [pushingTo, hplace]
      rw [hkeep, unwritten hplace]
      rfl
  departed_eq := by
    by_cases hplace : moment.readsFrom? = some number
    · have hkeep : poppingFrom number [moment] = [moment] := by simp [poppingFrom, hplace]
      simpa [hkeep] using reads hplace
    · have hkeep : poppingFrom number [moment] = [] := by simp [poppingFrom, hplace]
      rw [hkeep, unread hplace]
      rfl

-----------------------------------------------------------------------------------------
-- Every command is accounted for
-----------------------------------------------------------------------------------------

/-- The fabrics that a moment handed values to or from are among the first `count`. -/
structure Moment.Located (count : Nat) (moment : Moment α) : Prop where
  writes
    : (moment.given = [] ∧ moment.handedBack = [] ∧ moment.lost = [])
      ∨ ∃ number < count, moment.writesTo? = some number
  reads
    : (moment.returned = [] ∧ moment.discarded = [])
      ∨ ∃ number < count, moment.readsFrom? = some number

/-- What entered the fabrics during a moment is what its command pushed: nothing at all, or values
that it gave to the fabric it writes to.
-/
inductive Moment.Writes (count : Nat) (more : Nat → List (Passage α)) (moment : Moment α) : Prop
  | nothing
    (given_eq : moment.given = [])
    (handedBack_eq : moment.handedBack = [])
    (lost_eq : moment.lost = [])
    (elsewhere : ∀ number, entered (more number) = [])
  | into
    (number : Nat)
    (within : number < count)
    (place : moment.writesTo? = some number)
    (given_eq
      : (moment.given : Multiset α)
          = (entered (more number) : Multiset α) + (moment.handedBack : Multiset α)
            + (moment.lost : Multiset α))
    (elsewhere : ∀ other, other ≠ number → entered (more other) = [])

/-- What left the fabrics during a moment is what its command popped: nothing at all, or values that
it took out of the fabric it reads from.
-/
inductive Moment.Reads (count : Nat) (more : Nat → List (Passage α)) (moment : Moment α) : Prop
  | nothing
    (returned_eq : moment.returned = [])
    (discarded_eq : moment.discarded = [])
    (elsewhere : ∀ number, departed (more number) = [])
  | outOf
    (number : Nat)
    (within : number < count)
    (place : moment.readsFrom? = some number)
    (departed_eq
      : (departed (more number) : Multiset α)
          = (moment.returned : Multiset α) + (moment.discarded : Multiset α))
    (elsewhere : ∀ other, other ≠ number → departed (more other) = [])

/-- A moment is accounted for by what it added to the histories of the fabrics. -/
structure Moment.Accounts (configs : List Config) (histories more : Nat → List (Passage α))
    (moment : Moment α) : Prop where
  follows
    : moment.outcome.session.Follows configs fun number => histories number ++ more number
  writes : moment.Writes configs.length more
  reads : moment.Reads configs.length more

section Sides

variable {count number : Nat} {more : List (Passage α)} {moment : Moment α}

/-- A command that writes to one fabric pushes what enters there. -/
theorem Moment.Writes.at {given : List α} (within : number < count)
    (place : moment.writesTo? = some number) (gives : moment.given = given)
    (given_eq
      : (given : Multiset α)
          = (entered more : Multiset α) + (moment.handedBack : Multiset α)
            + (moment.lost : Multiset α))
    : moment.Writes count fun other => if number = other then more else [] := by
  refine .into number within place ?_ fun other hother => ?_
  · rw [if_pos rfl, gives]
    exact given_eq
  · rw [if_neg hother.symm]
    rfl

/-- A command that writes nowhere lets nothing enter. -/
theorem Moment.Writes.nothing_at
    (none : moment.given = [] ∧ moment.handedBack = [] ∧ moment.lost = [])
    (quiet : entered more = [])
    : moment.Writes count fun other => if number = other then more else [] := by
  refine .nothing none.1 none.2.1 none.2.2 fun other => ?_
  split
  · exact quiet
  · rfl

/-- A command that reads from one fabric pops what leaves there. -/
theorem Moment.Reads.at (within : number < count) (place : moment.readsFrom? = some number)
    (departed_eq
      : (departed more : Multiset α)
          = (moment.returned : Multiset α) + (moment.discarded : Multiset α))
    : moment.Reads count fun other => if number = other then more else [] := by
  refine .outOf number within place ?_ fun other hother => ?_
  · rw [if_pos rfl]
    exact departed_eq
  · rw [if_neg hother.symm]
    rfl

/-- A command that reads nowhere lets nothing leave. -/
theorem Moment.Reads.nothing_at (none : moment.returned = [] ∧ moment.discarded = [])
    (quiet : departed more = [])
    : moment.Reads count fun other => if number = other then more else [] := by
  refine .nothing none.1 none.2 fun other => ?_
  split
  · exact quiet
  · rfl

/-- Only the values that enter matter to what a command writes. -/
theorem Moment.Writes.congr {more next : Nat → List (Passage α)}
    (writes : moment.Writes count more)
    (same : ∀ number, entered (next number) = entered (more number))
    : moment.Writes count next := by
  cases writes with
  | nothing hgiven hback hlost helse =>
      exact .nothing hgiven hback hlost fun number => (same number).trans (helse number)
  | into number within place given_eq helse =>
      refine .into number within place ?_ fun other hother =>
        (same other).trans (helse other hother)
      rw [same]
      exact given_eq

/-- Only the values that leave matter to what a command reads. -/
theorem Moment.Reads.congr {more next : Nat → List (Passage α)} (reads : moment.Reads count more)
    (same : ∀ number, departed (next number) = departed (more number))
    : moment.Reads count next := by
  cases reads with
  | nothing hreturned hdiscarded helse =>
      exact .nothing hreturned hdiscarded fun number => (same number).trans (helse number)
  | outOf number within place departed_eq helse =>
      refine .outOf number within place ?_ fun other hother =>
        (same other).trans (helse other hother)
      rw [same]
      exact departed_eq

end Sides

section Accounts

variable {configs : List Config} {histories more : Nat → List (Passage α)} {moment : Moment α}

/-- An accounted moment balances in every fabric. -/
theorem Moment.Accounts.balances (accounts : moment.Accounts configs histories more) (number : Nat)
    : Balances number [moment] (more number) := by
  obtain ⟨_, writes, reads⟩ := accounts
  apply balances_single
  · intro hat
    cases writes with
    | nothing hgiven hback hlost helse =>
        rw [hgiven, hback, hlost, helse]
        rfl
    | into _ _ place given_eq _ =>
        obtain rfl := Option.some.inj (place.symm.trans hat)
        exact given_eq
  · intro hnot
    cases writes with
    | nothing _ _ _ helse => exact helse number
    | into _ _ place _ helse =>
        apply helse
        rintro rfl
        exact hnot place
  · intro hat
    cases reads with
    | nothing hreturned hdiscarded helse =>
        rw [hreturned, hdiscarded, helse]
        rfl
    | outOf _ _ place departed_eq _ =>
        obtain rfl := Option.some.inj (place.symm.trans hat)
        exact departed_eq
  · intro hnot
    cases reads with
    | nothing _ _ helse => exact helse number
    | outOf _ _ place _ helse =>
        apply helse
        rintro rfl
        exact hnot place

/-- An accounted moment works on fabrics of the session. -/
theorem Moment.Accounts.located (accounts : moment.Accounts configs histories more)
    : moment.Located configs.length where
  writes := by
    cases accounts.writes with
    | nothing hgiven hback hlost _ => exact .inl ⟨hgiven, hback, hlost⟩
    | into number within place _ _ => exact .inr ⟨number, within, place⟩
  reads := by
    cases accounts.reads with
    | nothing hreturned hdiscarded _ => exact .inl ⟨hreturned, hdiscarded⟩
    | outOf number within place _ _ => exact .inr ⟨number, within, place⟩

end Accounts

/-- An answer without a value hands none over. -/
theorem Reply.values_of_isSilent {reply : Reply α} (silent : reply.isSilent = true)
    : reply.handedBack = [] ∧ reply.lost = [] ∧ reply.returned = [] := by
  cases reply with
  | pushed | pushedEach | popped | poppedMany | poppedAll | waited | besidePush => cases silent
  | _ => exact ⟨rfl, rfl, rfl⟩

/-- A fabric with a configuration is among those of the session. -/
theorem lt_of_configured {configs : List Config} {number : Nat} {config : Config}
    (configured : configs[number]? = some config)
    : number < configs.length :=
  (List.getElem?_eq_some_iff.mp configured).1

section Step

variable {configs : List Config} {session : Session α} {histories : Nat → List (Passage α)}

/-- A moment without values is accounted for by histories that say nothing about values. -/
theorem Moment.accounts_of_silent {moment : Moment α} {more : Nat → List (Passage α)}
    (follows
      : moment.outcome.session.Follows configs fun number => histories number ++ more number)
    (quiet : ∀ number, entered (more number) = [] ∧ departed (more number) = [])
    (kept : moment.given = []) (silent : moment.outcome.reply.isSilent = true)
    (none : moment.outcome.discarded = [])
    : moment.Accounts configs histories more := by
  obtain ⟨hback, hlost, hreturned⟩ := Reply.values_of_isSilent silent
  have hdiscarded : moment.discarded = [] := by rw [discarded, none, List.map_nil]
  exact {
    follows := follows
    writes := .nothing kept hback hlost fun number => (quiet number).1
    reads := .nothing hreturned hdiscarded fun number => (quiet number).2
  }

/-- A command that finds no handle gives nothing to pushes and does nothing. -/
theorem accounts_of_miss (follows : session.Follows configs histories) {command : Command α}
    {reply : Reply α} (kept : command.given session = []) (silent : reply.isSilent = true)
    : Moment.Accounts configs histories (fun _ => [])
        ⟨session, command, .quiet reply session⟩ :=
  Moment.accounts_of_silent follows.unrecorded (fun _ => ⟨rfl, rfl⟩) kept silent rfl

/-- A command pushes to the fabric of the sender that it names. -/
theorem Moment.writesTo?_eq {command : Command α} {number : Nat} {sender : Sender}
    (asks : command.sender? = some number) (found : session.sender? number = some sender)
    (outcome : Outcome α)
    : Moment.writesTo? ⟨session, command, outcome⟩ = some sender.fabric := by
  rw [writesTo?, asks, Option.bind_some, found, Option.map_some]

/-- A command pops from the fabric of the receiver that it names. -/
theorem Moment.readsFrom?_eq {command : Command α} {number : Nat} {receiver : Receiver}
    (asks : command.receiver? = some number)
    (found : session.receiver? number = some receiver) (outcome : Outcome α)
    : Moment.readsFrom? ⟨session, command, outcome⟩ = some receiver.fabric := by
  rw [readsFrom?, asks, Option.bind_some, found, Option.map_some]

/-- A receiver that can be set to work is held and has its fabric. -/
theorem reading?_eq_some {number : Nat} {reading : Reading α}
    (found : session.reading? number = some reading)
    : ∃ receiver fabric,
        reading = ⟨fabric, receiver, #[]⟩
        ∧ session.receiver? number = some receiver
        ∧ session.fabric? receiver.fabric = some fabric := by
  rw [reading?] at found
  split at found
  · cases found
  · next receiver hreceiver =>
      obtain ⟨fabric, hfabric, rfl⟩ := Option.map_eq_some_iff.mp found
      exact ⟨receiver, fabric, rfl, hreceiver, hfabric⟩

/-- A sender that can be set to work is held and has its fabric. -/
theorem writing?_eq_some {number : Nat} {writing : Writing α}
    (found : session.writing? number = some writing)
    : ∃ sender fabric,
        writing = ⟨fabric, sender⟩
        ∧ session.sender? number = some sender
        ∧ session.fabric? sender.fabric = some fabric := by
  rw [writing?] at found
  split at found
  · cases found
  · next sender hsender =>
      obtain ⟨fabric, hfabric, rfl⟩ := Option.map_eq_some_iff.mp found
      exact ⟨sender, fabric, rfl, hsender, hfabric⟩

theorem writing?_of_held {number : Nat} {sender : Sender} {fabric : Fabric α}
    (held : session.sender? number = some sender)
    (found : session.fabric? sender.fabric = some fabric)
    : session.writing? number = some ⟨fabric, sender⟩ := by
  rw [writing?, held]
  exact Option.map_eq_some_iff.mpr ⟨fabric, found, rfl⟩

/-- A sender's work accounts for the values given to its pushes. -/
theorem Follows.account_withWriting {β : Type} (follows : session.Follows configs histories)
    {command : Command α} {number : Nat} (asks : command.sender? = some number)
    {values : Writing α → List α}
    (gives : command.given session = session.givenThrough number values)
    (work : Writing α → β × Writing α) (reply : β → Reply α)
    (unread : ∀ result, (reply result).returned = [])
    (works
      : ∀ {config past} {writing : Writing α},
          writing.fabric.Follows config past
          → ∃ more,
              writing.Trade config past more (work writing).2 (values writing)
                (reply (work writing).1).handedBack (reply (work writing).1).lost)
    : ∃ more,
        Moment.Accounts configs histories more
          ⟨session, command, session.withWriting number work reply⟩ := by
  cases hwriting : session.writing? number with
  | none =>
      rcases withWriting_cases session number work reply
        with hmiss | ⟨sender, fabric, hsender, hfabric⟩
      · rw [hmiss]
        exact ⟨_, accounts_of_miss follows (gives.trans (givenThrough_of_none hwriting _)) rfl⟩
      · cases hwriting.symm.trans (writing?_of_held hsender hfabric)
  | some writing =>
      obtain ⟨sender, fabric, rfl, hsender, hfabric⟩ := writing?_eq_some hwriting
      obtain ⟨config, hconfig, hf⟩ := follows.fabric hfabric
      have hbegun : (Writing.mk fabric sender).fabric.Follows config (histories sender.fabric) :=
        hf
      obtain ⟨more, htrade⟩ := works hbegun
      have hnext := follows.keepWriting hfabric hconfig htrade.kept htrade.follows number
      have hgiven : command.given session = values ⟨fabric, sender⟩ :=
        gives.trans (givenThrough_of_some hwriting _)
      rw [withWriting_of_held hsender hfabric htrade.kept]
      exact ⟨_, hnext,
        .at (lt_of_configured hconfig) (Moment.writesTo?_eq asks hsender _) hgiven htrade.given_eq,
        .nothing_at ⟨unread _, rfl⟩ htrade.departed_eq⟩

/-- A receiver's work accounts for the values that it took out of its fabric. -/
theorem Follows.account_withReading {β : Type} (follows : session.Follows configs histories)
    {command : Command α} {number : Nat} (asks : command.receiver? = some number)
    (work : Reading α → β × Reading α) (reply : β → Reply α)
    (kept : command.given session = [])
    (unwritten : ∀ result, (reply result).handedBack = [] ∧ (reply result).lost = [])
    (works
      : ∀ {config past} {reading : Reading α},
          reading.fabric.Follows config past
          → ∃ more,
              reading.Trade config past more (work reading).2 []
                (reply (work reading).1).returned)
    : ∃ more,
        Moment.Accounts configs histories more
          ⟨session, command, session.withReading number work reply⟩ := by
  rcases withReading_cases session number work reply
    with hmiss | ⟨receiver, fabric, hreceiver, hfabric⟩
  · rw [hmiss]
    exact ⟨_, accounts_of_miss follows kept rfl⟩
  · obtain ⟨config, hconfig, hf⟩ := follows.fabric hfabric
    have hbegun : (Reading.mk fabric receiver #[]).fabric.Follows config
        (histories receiver.fabric) := hf
    obtain ⟨more, htrade⟩ := works hbegun
    have hnext := follows.keepReading hfabric hconfig htrade.kept htrade.follows number
    rw [withReading_of_held hreceiver hfabric htrade.kept]
    exact ⟨_, hnext, .nothing_at ⟨kept, unwritten _⟩ htrade.entered_eq,
      .at (lt_of_configured hconfig) (Moment.readsFrom?_eq asks hreceiver _)
        htrade.departed_of_start⟩

/-- A wait beside a push on the same fabric accounts for the pushed value and for what the wait
took.
-/
theorem Follows.account_besidePush (follows : session.Follows configs histories) (now : Nat)
    {receiver sender : Nat} {reading : Reading α} {writing : Writing α}
    (hreading : session.reading? receiver = some reading)
    (hwriting : session.writing? sender = some writing)
    (same : writing.sender.fabric = reading.receiver.fabric) (value : α) (delay : Nat)
    (timeout : Timeout)
    : ∃ more,
        Moment.Accounts configs histories more
          ⟨session, .popWaitBesidePush receiver sender value delay timeout,
            session.popWaitBesidePush now receiver sender value delay timeout⟩ := by
  have hgiven := Command.given_popWaitBesidePush hreading hwriting value delay timeout
  rw [popWaitBesidePush, hreading, hwriting]
  dsimp only
  rw [if_pos same]
  obtain ⟨reader, fabric, rfl, hreceiver, hfabric⟩ := reading?_eq_some hreading
  obtain ⟨writer, _, rfl, hsender, _⟩ := writing?_eq_some hwriting
  obtain ⟨config, hconfig, hf⟩ := follows.fabric hfabric
  have hbegun : (Reading.mk fabric reader #[]).fabric.Follows config (histories reader.fabric) :=
    hf
  obtain ⟨hsettles, _, more, htrade⟩ :=
    Reading.trade_popWaitBesidePush timeout now delay writer value hbegun
  rcases hwait : Reading.popWaitBesidePush timeout now delay writer value ⟨fabric, reader, #[]⟩
    with ⟨outcome, ⟨answer, handle⟩, last⟩
  rw [hwait] at hsettles htrade
  have hkeep := follows.keepReading hfabric hconfig htrade.kept htrade.follows receiver
  have hnext : ((session.keepReading receiver last).setSender sender handle).Follows configs
      (extend histories reader.fabric more) :=
    hkeep.of_fabrics rfl
  have hlt := lt_of_configured hconfig
  refine ⟨_, hnext,
    .at hlt ((Moment.writesTo?_eq rfl hsender _).trans (congrArg some same)) hgiven ?_,
    .at hlt (Moment.readsFrom?_eq rfl hreceiver _) htrade.departed_of_start⟩
  rw [htrade.entered_eq, Multiset.coe_add, Multiset.coe_add]
  exact congrArg _ (hsettles.account writer.slot)

/-- A wait beside a push on another fabric accounts for the pushed value on that fabric and for what
the wait took on its own.
-/
theorem Follows.account_elsewhere (follows : session.Follows configs histories) (now : Nat)
    {receiver sender : Nat} {reading : Reading α} {writing : Writing α}
    (hreading : session.reading? receiver = some reading)
    (hwriting : session.writing? sender = some writing)
    (apart : writing.sender.fabric ≠ reading.receiver.fabric) (value : α) (delay : Nat)
    (timeout : Timeout)
    : ∃ more,
        Moment.Accounts configs histories more
          ⟨session, .popWaitBesidePush receiver sender value delay timeout,
            session.popWaitBesidePush now receiver sender value delay timeout⟩ := by
  have hgiven := Command.given_popWaitBesidePush hreading hwriting value delay timeout
  rw [popWaitBesidePush, hreading, hwriting]
  dsimp only
  rw [if_neg apart]
  obtain ⟨reader, source, rfl, hreceiver, hsource⟩ := reading?_eq_some hreading
  obtain ⟨writer, target, rfl, hsender, htarget⟩ := writing?_eq_some hwriting
  -- The wait comes first, and leaves the fabric of the push as it is.
  obtain ⟨config, hconfig, hf⟩ := follows.fabric hsource
  have hbegun : (Reading.mk source reader #[]).fabric.Follows config (histories reader.fabric) :=
    hf
  obtain ⟨out, hread⟩ := Reading.trade_popWait timeout now (timeout.deadline now) hbegun
  rcases hwait : Reading.popWait timeout now (quietTurns now (timeout.deadline now))
    ⟨source, reader, #[]⟩ with ⟨outcome, last⟩
  rw [hwait] at hread
  have hkeep := follows.keepReading hsource hconfig hread.kept hread.follows receiver
  have hstill : (session.keepReading receiver last).fabric? writer.fabric = some target := by
    have hput := fabric?_setFabric hsource last.fabric writer.fabric
    rw [if_neg (Ne.symm apart), htarget, ← hread.kept] at hput
    exact hput
  -- The push comes second, on a fabric that follows its history still.
  obtain ⟨config', hconfig', hf'⟩ := hkeep.fabric hstill
  have hbegun' : (Writing.mk target writer).fabric.Follows config' _ := hf'
  obtain ⟨into, hwrite⟩ := Writing.trade_push none value hbegun'
  rcases hpush : Writing.push ⟨target, writer⟩ none value with ⟨answer, written⟩
  rw [hpush] at hwrite
  have hnext := hkeep.keepWriting hstill hconfig' hwrite.kept hwrite.follows sender
  have hsum : extend (extend histories reader.fabric out) writer.fabric into
      = fun other =>
          histories other
            ++ ((if reader.fabric = other then out else [])
              ++ (if writer.fabric = other then into else [])) :=
    funext fun _ => List.append_assoc _ _ _
  rw [hsum] at hnext
  refine ⟨_, hnext,
    .congr
      (.at (lt_of_configured hconfig') (Moment.writesTo?_eq rfl hsender _) hgiven
        hwrite.given_eq)
      fun other => ?_,
    .congr
      (.at (lt_of_configured hconfig) (Moment.readsFrom?_eq rfl hreceiver _)
        hread.departed_of_start)
      fun other => ?_⟩
  · rw [entered_append]
    split
    · rw [hread.entered_eq, List.nil_append]
    · rfl
  · rw [departed_append, List.append_right_eq_self]
    split
    · exact hwrite.departed_eq
    · rfl

/-- A wait beside a push accounts for the pushed value and for what the wait took, whether the two
handles belong to one fabric or to different ones.
-/
theorem Follows.account_popWaitBesidePush (follows : session.Follows configs histories)
    (now receiver sender : Nat) (value : α) (delay : Nat) (timeout : Timeout)
    : ∃ more,
        Moment.Accounts configs histories more
          ⟨session, .popWaitBesidePush receiver sender value delay timeout,
            session.popWaitBesidePush now receiver sender value delay timeout⟩ := by
  cases hreading : session.reading? receiver with
  | none =>
      have hkept : (Command.popWaitBesidePush receiver sender value delay timeout).given session
          = [] := by
        simp [Command.given, hreading]
      rw [popWaitBesidePush, hreading]
      exact ⟨_, accounts_of_miss follows hkept rfl⟩
  | some reading =>
      cases hwriting : session.writing? sender with
      | none =>
          have hkept : (Command.popWaitBesidePush receiver sender value delay timeout).given
              session = [] := by
            simp [Command.given, hreading, givenThrough_of_none hwriting]
          rw [popWaitBesidePush, hreading, hwriting]
          exact ⟨_, accounts_of_miss follows hkept rfl⟩
      | some writing =>
          by_cases hsame : writing.sender.fabric = reading.receiver.fabric
          · exact follows.account_besidePush now hreading hwriting hsame value delay timeout
          · exact follows.account_elsewhere now hreading hwriting hsame value delay timeout

/-- Reissues are not about values. -/
theorem quiet_reissues (log : List Event)
    : entered (Event.reissues log : List (Passage α)) = []
      ∧ departed (Event.reissues log : List (Passage α)) = [] := by
  have hreissue : ∀ passage ∈ (Event.reissues log : List (Passage α)),
      ∃ producer, passage = .reissued producer := by
    intro passage member
    obtain ⟨event, _, hevent⟩ := List.mem_filterMap.mp member
    cases event with
    | producerReclaimed producer => exact ⟨producer, (Option.some.inj hevent).symm⟩
    | _ => cases hevent
  constructor
  · apply List.filterMap_eq_nil_iff.mpr
    intro passage member
    obtain ⟨producer, rfl⟩ := hreissue passage member
    rfl
  · apply List.filterMap_eq_nil_iff.mpr
    intro passage member
    obtain ⟨producer, rfl⟩ := hreissue passage member
    rfl

/-- An operation on slots hands no values around, whether or not it finds its fabric. -/
theorem silent_of_cases {β : Type} {number : Nat} {enrol : Fabric α → Enrolment β α}
    {outcome : Outcome α}
    (cases
      : (session.fabric? number = none ∧ outcome = .quiet .noSuchFabric session)
        ∨ ∃ fabric,
            session.fabric? number = some fabric
            ∧ outcome.Enrols session number (enrol fabric))
    : outcome.reply.isSilent = true ∧ outcome.discarded = [] := by
  rcases cases with ⟨_, rfl⟩ | ⟨_, _, enrols⟩
  · exact ⟨rfl, rfl⟩
  · exact ⟨enrols.silent, enrols.discarded⟩

/-- Registering a producer adds nothing but reissues to the histories. -/
theorem Follows.account_registerProducer (follows : session.Follows configs histories)
    (now number : Nat)
    : ∃ more,
        Moment.Accounts configs histories more
          ⟨session, .registerProducer number, session.registerProducer number⟩ := by
  have hnext := follows.operate now (.registerProducer number)
  obtain ⟨hsilent, hdiscarded⟩ := silent_of_cases (registerProducer_cases session number)
  refine ⟨_, Moment.accounts_of_silent hnext ?_ rfl hsilent hdiscarded⟩
  intro other
  rw [Operation.passages]
  split
  · exact quiet_reissues _
  · exact ⟨rfl, rfl⟩

/-- Registering a consumer adds nothing to the histories. -/
theorem Follows.account_registerConsumer (follows : session.Follows configs histories)
    (now number : Nat)
    : ∃ more,
        Moment.Accounts configs histories more
          ⟨session, .registerConsumer number, session.registerConsumer number⟩ := by
  have hnext := follows.operate now (.registerConsumer number)
  obtain ⟨hsilent, hdiscarded⟩ := silent_of_cases (registerConsumer_cases session number)
  exact ⟨_, Moment.accounts_of_silent hnext (fun _ => ⟨rfl, rfl⟩) rfl hsilent hdiscarded⟩

/-- Neither does ending a registration. -/
theorem Follows.account_unregisterVia (follows : session.Follows configs histories)
    {command : Command α} (kept : command.given session = []) (number : Nat) (sender : Sender)
    : ∃ more,
        Moment.Accounts configs histories more
          ⟨session, command, session.unregisterVia number sender⟩ := by
  have hnext := (follows.unregisterVia number sender).unrecorded
  obtain ⟨hsilent, hdiscarded⟩ := silent_of_cases (unregisterVia_cases session number sender)
  exact ⟨fun _ => [],
    Moment.accounts_of_silent hnext (fun _ => ⟨rfl, rfl⟩) kept hsilent hdiscarded⟩

/-- Letting go of a handle leaves the fabrics alone. -/
theorem Follows.account_letGo (follows : session.Follows configs histories)
    {command : Command α} (kept : command.given session = []) {after : Session α}
    (same : after.fabrics = session.fabrics)
    : ∃ more, Moment.Accounts configs histories more ⟨session, command, .quiet .done after⟩ := by
  have hnext : after.Follows configs histories := follows.of_fabrics same
  exact ⟨fun _ => [],
    Moment.accounts_of_silent hnext.unrecorded (fun _ => ⟨rfl, rfl⟩) kept rfl rfl⟩

/-- Every command is accounted for. -/
theorem Follows.account (follows : session.Follows configs histories) (now : Nat)
    (command : Command α)
    : ∃ more,
        Moment.Accounts configs histories more
          ⟨session, command, session.step now command⟩ := by
  cases command with
  | registerProducer number => exact follows.account_registerProducer now number
  | registerConsumer number => exact follows.account_registerConsumer now number
  | unregister number =>
      rw [step]
      split
      · exact ⟨_, accounts_of_miss follows rfl rfl⟩
      · exact follows.account_unregisterVia rfl _ _
  | unregisterVia number sender =>
      rw [step]
      split
      · exact ⟨_, accounts_of_miss follows rfl rfl⟩
      · exact ⟨_, accounts_of_miss follows rfl rfl⟩
      · exact follows.account_unregisterVia rfl _ _
  | dropSender number =>
      rw [step]
      split
      · exact ⟨_, accounts_of_miss follows rfl rfl⟩
      · exact follows.account_letGo rfl rfl
  | dropReceiver number =>
      rw [step]
      split
      · exact ⟨_, accounts_of_miss follows rfl rfl⟩
      · exact follows.account_letGo rfl rfl
  | push number value =>
      rw [step]
      apply follows.account_withWriting rfl rfl _ .pushed (fun _ => rfl)
      intro config past writing hf
      exact Writing.trade_push none value hf
  | pushTo number consumer value =>
      rw [step]
      apply follows.account_withWriting rfl rfl _ .pushed (fun _ => rfl)
      intro config past writing hf
      exact Writing.trade_push (some consumer) value hf
  | pushEach number consumer values =>
      rw [step]
      apply follows.account_withWriting rfl rfl _ .pushedEach (fun _ => rfl)
      intro config past writing hf
      exact Writing.trade_pushEach consumer values hf
  | pop number =>
      exact follows.account_withReading rfl _ .popped rfl (fun _ => ⟨rfl, rfl⟩) fun hf =>
        Reading.trade_pop hf
  | popMany number count =>
      exact follows.account_withReading rfl _ .poppedMany rfl (fun _ => ⟨rfl, rfl⟩) fun hf =>
        Reading.trade_popMany count hf
  | popAll number =>
      exact follows.account_withReading rfl _ .poppedAll rfl (fun _ => ⟨rfl, rfl⟩) fun hf =>
        Reading.trade_popAll hf
  | popWait number timeout =>
      exact follows.account_withReading rfl _ .waited rfl (fun _ => ⟨rfl, rfl⟩) fun hf =>
        Reading.trade_popWait timeout now (timeout.deadline now) hf
  | popWaitBesidePush receiver sender value delay timeout =>
      exact follows.account_popWaitBesidePush now receiver sender value delay timeout

-----------------------------------------------------------------------------------------
-- A run adds up the accounts of its commands
-----------------------------------------------------------------------------------------

/-- A run is accounted for as its commands are, by induction over the run. -/
theorem Follows.account_run (follows : session.Follows configs histories) (now : Nat)
    (commands : List (Command α))
    : ∃ more : Nat → List (Passage α),
        ((session.run now commands).2.Follows configs fun number =>
          histories number ++ more number)
        ∧ (∀ number, Balances number (moments now commands session) (more number))
        ∧ ∀ moment ∈ moments now commands session, moment.Located configs.length := by
  induction commands generalizing session histories with
  | nil =>
      refine ⟨fun _ => [], follows.unrecorded, .nil, fun moment member => ?_⟩
      exact absurd member List.not_mem_nil
  | cons command rest ih =>
      obtain ⟨first, hfirst⟩ := follows.account now command
      obtain ⟨later, hfollows, hbalances, hlocated⟩ := ih hfirst.follows
      refine ⟨fun number => first number ++ later number, ?_, ?_, ?_⟩
      · simp only [List.append_assoc] at hfollows
        exact hfollows
      · intro number
        exact (hfirst.balances number).append (hbalances number)
      · intro moment member
        rcases List.mem_cons.mp member with rfl | member
        · exact hfirst.located
        · exact hlocated moment member

end Step

-----------------------------------------------------------------------------------------
-- Teardown closes the accounts
-----------------------------------------------------------------------------------------

/-- What the fabric of a number gives up when the session ends. -/
def releaseOf (session : Session α) (number : Nat) : List α :=
  session.release[number]?.getD []

/-- A fabric gives up what it releases on its own, and a gap nothing. -/
theorem releaseOf_eq (session : Session α) (number : Nat)
    : session.releaseOf number = ((session.fabric? number).map Fabric.release).getD [] := by
  rw [releaseOf, release, fabric?, List.getElem?_map, Array.getElem?_toList]
  rcases session.fabrics[number]? with _ | _ | fabric <;> rfl

section Teardown

variable {configs : List Config} {session : Session α} {histories : Nat → List (Passage α)}

/-- What entered a fabric has left it or is what the fabric gives up in the end. -/
theorem Follows.entered_eq_departed_add_release (follows : session.Follows configs histories)
    (number : Nat)
    : (entered (histories number) : Multiset α)
        = (departed (histories number) : Multiset α) + (session.releaseOf number : Multiset α) := by
  rw [releaseOf_eq]
  cases hfabric : session.fabric? number with
  | none =>
      rw [follows.absent hfabric]
      rfl
  | some fabric =>
      obtain ⟨config, _, hf⟩ := follows.fabric hfabric
      rw [hf.entered_eq_departed_add_held, ← hf.release_eq_sum]
      rfl

/-- The fabrics of a session give up what they hold one after the other. -/
theorem Follows.flatten_release (follows : session.Follows configs histories)
    : session.release.flatten = (List.range configs.length).flatMap session.releaseOf := by
  have hwalk : session.release.flatten
      = (List.range session.release.length).flatMap session.releaseOf := by
    conv_lhs => rw [← map_range_getD session.release []]
    rw [← List.flatMap_def]
    rfl
  rw [hwalk]
  rcases Nat.le_total configs.length session.release.length with hle | hle
  · apply flatMap_range_of_le hle
    intro number outside
    rw [releaseOf_eq]
    cases hfabric : session.fabric? number with
    | none => rfl
    | some fabric =>
        obtain ⟨config, hconfig, _⟩ := follows.fabric hfabric
        have hlt := (List.getElem?_eq_some_iff.mp hconfig).1
        omega
  · symm
    apply flatMap_range_of_le hle
    intro number outside
    rw [releaseOf, List.getElem?_eq_none outside]
    rfl

end Teardown

/-- The values of all moments are those of the moments at each place, if the places of moments with
values are among the first `count`.
-/
theorem flatMap_eq_sum_places {place : Moment α → Option Nat} {values : Moment α → List α}
    {count : Nat} {moments : List (Moment α)}
    (located
      : ∀ moment ∈ moments, values moment = [] ∨ ∃ number < count, place moment = some number)
    : (moments.flatMap values : Multiset α)
        = ∑ number ∈ Finset.range count,
            ((moments.filter fun moment => place moment == some number).flatMap values
              : Multiset α) := by
  induction moments with
  | nil => simp
  | cons moment rest ih =>
      have hrest := ih fun later member => located later (List.mem_cons_of_mem _ member)
      have hsplit (number : Nat)
          : (((moment :: rest).filter fun moment => place moment == some number).flatMap values
              : Multiset α)
              = (if place moment = some number then values moment else [] : List α)
                + ((rest.filter fun moment => place moment == some number).flatMap values
                  : Multiset α) := by
        by_cases hplace : place moment = some number <;> simp [hplace]
      have hfirst : (values moment : Multiset α)
          = ∑ number ∈ Finset.range count,
              ((if place moment = some number then values moment else [] : List α)
                : Multiset α) := by
        -- The first moment counts at its own place and at no other.
        rcases located moment List.mem_cons_self with hnone | ⟨number, within, hplace⟩
        · simp [hnone]
        · rw [Finset.sum_eq_single_of_mem number (Finset.mem_range.mpr within), if_pos hplace]
          intro other _ hother
          rw [if_neg fun h => hother (Option.some.inj (h.symm.trans hplace))]
          rfl
      simp only [hsplit, Finset.sum_add_distrib]
      rw [← hfirst, ← hrest, List.flatMap_cons, Multiset.coe_add]

/-- The values dropped in a moment: those a reader discarded and those lost with pushes. -/
def Moment.dropped (moment : Moment α) : List α :=
  moment.outcome.dropped

/-- Dropping is discarding or losing, counted over any moments. -/
theorem flatMap_dropped (moments : List (Moment α))
    : (moments.flatMap Moment.dropped : Multiset α)
        = (moments.flatMap Moment.discarded : Multiset α)
          + (moments.flatMap Moment.lost : Multiset α) := by
  induction moments with
  | nil => rfl
  | cons moment rest ih =>
      have hfirst : moment.dropped = moment.discarded ++ moment.lost := rfl
      simp only [List.flatMap_cons, ← Multiset.coe_add]
      rw [ih, hfirst, ← Multiset.coe_add]
      ac_rfl

section Totals

variable {configs : List Config} {final : Session α} {histories : Nat → List (Passage α)}
  {moments : List (Moment α)}

/-- The account of one fabric, once what it holds is given up. -/
theorem Follows.account_of_number (follows : final.Follows configs histories) {number : Nat}
    (balances : Balances number moments (histories number))
    : ((pushingTo number moments).flatMap Moment.given : Multiset α)
        = ((pushingTo number moments).flatMap Moment.handedBack : Multiset α)
          + ((poppingFrom number moments).flatMap Moment.returned : Multiset α)
          + ((poppingFrom number moments).flatMap Moment.discarded : Multiset α)
          + ((pushingTo number moments).flatMap Moment.lost : Multiset α)
          + (final.releaseOf number : Multiset α) := by
  rw [balances.given_eq, follows.entered_eq_departed_add_release number, balances.departed_eq]
  ac_rfl

/-- The account of all fabrics together. -/
theorem Follows.account_of_all (follows : final.Follows configs histories)
    (balances : ∀ number, Balances number moments (histories number))
    (located : ∀ moment ∈ moments, moment.Located configs.length)
    : (moments.flatMap Moment.given : Multiset α)
        = (moments.flatMap Moment.handedBack : Multiset α)
          + (moments.flatMap Moment.returned : Multiset α)
          + (moments.flatMap Moment.dropped : Multiset α)
          + (final.release.flatten : Multiset α) := by
  have hwrites {values : Moment α → List α}
      (empty
        : ∀ moment : Moment α,
            moment.given = [] ∧ moment.handedBack = [] ∧ moment.lost = [] → values moment = [])
      : ∀ moment ∈ moments,
          values moment = [] ∨ ∃ number < configs.length, moment.writesTo? = some number :=
    fun moment member => (located moment member).writes.imp_left (empty moment)
  have hreads {values : Moment α → List α}
      (empty
        : ∀ moment : Moment α, moment.returned = [] ∧ moment.discarded = [] → values moment = [])
      : ∀ moment ∈ moments,
          values moment = [] ∨ ∃ number < configs.length, moment.readsFrom? = some number :=
    fun moment member => (located moment member).reads.imp_left (empty moment)
  rw [flatMap_dropped, flatMap_eq_sum_places (hwrites fun _ h => h.1),
    flatMap_eq_sum_places (hwrites fun _ h => h.2.1),
    flatMap_eq_sum_places (hwrites fun _ h => h.2.2),
    flatMap_eq_sum_places (hreads fun _ h => h.1),
    flatMap_eq_sum_places (hreads fun _ h => h.2), follows.flatten_release, coe_flatMap_range]
  calc ∑ number ∈ Finset.range configs.length,
          ((pushingTo number moments).flatMap Moment.given : Multiset α)
      = ∑ number ∈ Finset.range configs.length,
          (((pushingTo number moments).flatMap Moment.handedBack : Multiset α)
            + ((poppingFrom number moments).flatMap Moment.returned : Multiset α)
            + ((poppingFrom number moments).flatMap Moment.discarded : Multiset α)
            + ((pushingTo number moments).flatMap Moment.lost : Multiset α)
            + (final.releaseOf number : Multiset α)) :=
        Finset.sum_congr rfl fun number _ => follows.account_of_number (balances number)
    _ = _ := by
        simp only [Finset.sum_add_distrib, pushingTo, poppingFrom]
        ac_rfl

end Totals

/-- Every value is accounted for exactly once, over every run of commands and counted with
multiplicity. Which values are given to pushes is told by the commands and by the handles held
before them; these values are those handed back, those returned by pops, those dropped on the way,
and those that the fabrics give up when they are torn down. Each fabric accounts for the values
given to pushes through its own handles, and gives up just what its links hold, consumer by
consumer, within that producer slot by producer slot, and within that oldest first.
-/
theorem every_value_accounted_once (shape : Shape) (configs : List Config) (now : Nat)
    (commands : List (Command α))
    : let moments := moments now commands (start shape configs)
      let final := ((start shape configs).run now commands).2
      (moments.flatMap Moment.given : Multiset α)
          = (moments.flatMap Moment.handedBack : Multiset α)
            + (moments.flatMap Moment.returned : Multiset α)
            + (moments.flatMap Moment.dropped : Multiset α)
            + (final.release.flatten : Multiset α)
      ∧ ∀ number fabric,
          final.fabric? number = some fabric
          → ((pushingTo number moments).flatMap Moment.given : Multiset α)
              = ((pushingTo number moments).flatMap Moment.handedBack : Multiset α)
                + ((poppingFrom number moments).flatMap Moment.returned : Multiset α)
                + ((poppingFrom number moments).flatMap Moment.discarded : Multiset α)
                + ((pushingTo number moments).flatMap Moment.lost : Multiset α)
                + (final.releaseOf number : Multiset α)
            ∧ final.releaseOf number
              = (List.range fabric.consumerCount).flatMap fun consumer =>
                  (List.range fabric.producerCount).flatMap fun producer =>
                    fabric.held producer consumer := by
  obtain ⟨histories, hfollows, hbalances, hlocated⟩ :=
    (follows_start shape configs).account_run now commands
  simp only [List.nil_append] at hfollows
  refine ⟨hfollows.account_of_all hbalances hlocated, ?_⟩
  intro number fabric hfabric
  obtain ⟨config, _, hf⟩ := hfollows.fabric hfabric
  refine ⟨hfollows.account_of_number (hbalances number), ?_⟩
  rw [releaseOf_eq, hfabric]
  exact hf.release_eq

end Crossbar.Session
