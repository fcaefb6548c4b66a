import Crossbar.Proofs.Likeness

/-! Giving up a slot and taking it again at once goes unnoticed. The new sender stands in for the
old one in all that follows, and the run goes on as it would have without: with the same answers,
counts and wirings, and with the same values left in the end.
-/

namespace Crossbar

variable {α : Type}

-----------------------------------------------------------------------------------------
-- A new sender in the place of an old one
-----------------------------------------------------------------------------------------

/-- A sender that gives its slot up and the one that takes it again, by their numbers. -/
structure Renewal where
  place : Nat
  fresh : Nat
deriving Repr, DecidableEq

namespace Renewal

open Session

/-- The number that a sender has in the run with the renewal. The new sender stands in for the old,
and those issued later come one number later.
-/
def number (renewal : Renewal) (place : Nat) : Nat :=
  if place = renewal.place then renewal.fresh
  else if place < renewal.fresh then place
  else place + 1

/-- The same operation in the run with the renewal. -/
def operation (renewal : Renewal) : Operation α → Operation α
  | .unregister sender => .unregister (renewal.number sender)
  | .unregisterVia fabric sender => .unregisterVia fabric (renewal.number sender)
  | .dropSender sender => .dropSender (renewal.number sender)
  | .push sender value => .push (renewal.number sender) value
  | .pushTo sender consumer value => .pushTo (renewal.number sender) consumer value
  | operation => operation

/-- The same answer in the run with the renewal: it differs in the numbers of senders only. -/
def reply (renewal : Renewal) : Reply α → Reply α
  | .senderIssued place slot wired => .senderIssued (renewal.number place) slot wired
  | reply => reply

def report (renewal : Renewal) (report : Report α) : Report α :=
  { report with reply := renewal.reply report.reply }

/-- What the renewal consists of: the old sender's registration is ended, and a producer registers.
-/
def steps (renewal : Renewal) (fabric : Nat) : List (Operation α) :=
  [.unregister renewal.place, .registerProducer fabric]

variable {renewal : Renewal} {place : Nat}

theorem number_place (renewal : Renewal) : renewal.number renewal.place = renewal.fresh :=
  if_pos rfl

theorem number_of_le (old : renewal.place < renewal.fresh) (le : renewal.fresh ≤ place)
    : renewal.number place = place + 1 := by
  rw [number, if_neg (by omega), if_neg (by omega)]

theorem number_of_lt (lt : place < renewal.fresh) (other : place ≠ renewal.place)
    : renewal.number place = place := by
  rw [number, if_neg other, if_pos lt]

/-- No two senders get the same number. -/
theorem number_inj {place' : Nat} (same : renewal.number place = renewal.number place')
    : place = place' := by
  simp only [number] at same
  split_ifs at same <;> omega

/-- If the old sender's registration is the one that ends in the renewal, the same registrations
have ended with the renewal as without.
-/
theorem number_mem_append_iff {ended : List Nat} (old : renewal.place < renewal.fresh)
    (before : ∀ ending ∈ ended, ending < renewal.fresh) (stands : renewal.place ∉ ended)
    : renewal.number place ∈ ended ++ [renewal.place] ↔ place ∈ ended := by
  rw [List.mem_append, List.mem_singleton]
  by_cases same : place = renewal.place
  · subst same
    rw [number_place]
    refine iff_of_false ?_ stands
    rintro (member | same)
    · exact absurd (before _ member) (Nat.lt_irrefl _)
    · omega
  · rcases Nat.lt_or_ge place renewal.fresh with early | late
    · rw [number_of_lt early same]
      exact or_iff_left same
    · rw [number_of_le old late]
      refine iff_of_false ?_ fun member => absurd (before _ member) (Nat.not_lt.mpr late)
      rintro (member | same)
      · have hlt := before _ member
        omega
      · omega

/-- The end of a registration is reported for the same sender. -/
theorem ending?_operation (renewal : Renewal) (operation : Operation α) (reply : Reply α)
    : (renewal.operation operation).ending? (renewal.reply reply)
        = (operation.ending? reply).map renewal.number := by
  cases operation <;> cases reply <;> rfl

end Renewal

namespace Session

open Passage

-----------------------------------------------------------------------------------------
-- Sessions that are alike up to the numbers of senders
-----------------------------------------------------------------------------------------

/-- The second session has a fabric that is alike for each of the first, the same receivers, and
under its number in the run with the renewal an alike sender for each of the first.
-/
structure Alike (bound : Nat) (renewal : Renewal) (first second : Session α) : Prop where
  old : renewal.place < renewal.fresh
  fresh_le : renewal.fresh ≤ first.senders.size
  fabrics_size : second.fabrics.size = first.fabrics.size
  gap : ∀ {number}, first.fabric? number = none → second.fabric? number = none
  fabric
    : ∀ {number fabric},
        first.fabric? number = some fabric
        → ∃ fabric', second.fabric? number = some fabric' ∧ fabric.Alike bound fabric'
  receivers : second.receivers = first.receivers
  senders_size : second.senders.size = first.senders.size + 1
  sender
    : ∀ {place} {issued : Issued Sender},
        first.senders[place]? = some issued
        → ∃ issued' : Issued Sender,
            second.senders[renewal.number place]? = some issued'
            ∧ issued'.held = issued.held
            ∧ issued.handle.Alike issued'.handle

/-- Two outcomes that show the same up to the numbers of senders, and leave sessions that are alike.
-/
structure Outcome.Alike (bound : Nat) (renewal : Renewal) (first second : Outcome α) : Prop where
  report : second.report = renewal.report first.report
  session : first.session.Alike bound renewal second.session

section Alike

variable {bound : Nat} {renewal : Renewal} {first second : Session α}

theorem Alike.mono (alike : first.Alike bound renewal second) {wider : Nat} (le : bound ≤ wider)
    : first.Alike wider renewal second where
  old := alike.old
  fresh_le := alike.fresh_le
  fabrics_size := alike.fabrics_size
  gap := alike.gap
  fabric := by
    intro number fabric found
    obtain ⟨fabric', found', hfabrics⟩ := alike.fabric found
    exact ⟨fabric', found', hfabrics.mono le⟩
  receivers := alike.receivers
  senders_size := alike.senders_size
  sender := alike.sender

/-- Marks that are passed are passed with room to spare while few values have left each link. -/
theorem Alike.tighten (alike : first.Alike bound renewal second) {configs : List Config}
    {past : Nat → List (Passage α)} (follows : first.Follows configs past)
    (light
      : ∀ number producer consumer,
          (Motion.departed (onLink producer consumer (past number))).length < Link.passLimit)
    : first.Alike Link.passLimit renewal second where
  old := alike.old
  fresh_le := alike.fresh_le
  fabrics_size := alike.fabrics_size
  gap := alike.gap
  fabric := by
    intro number fabric found
    obtain ⟨fabric', found', hfabrics⟩ := alike.fabric found
    obtain ⟨_, _, hf⟩ := follows.fabric found
    exact ⟨fabric', found', hfabrics.tighten hf (light number)⟩
  receivers := alike.receivers
  senders_size := alike.senders_size
  sender := alike.sender

/-- A sender that is not held is not held on the other side. -/
theorem Alike.sender?_of_none (alike : first.Alike bound renewal second) {place : Nat}
    (missing : first.sender? place = none)
    : second.sender? (renewal.number place) = none := by
  rw [sender?] at missing ⊢
  split at missing
  · next issued hplace =>
      obtain ⟨issued', hplace', hheld, _⟩ := alike.sender hplace
      have hdropped : issued.held = false := by simpa using missing
      rw [hplace']
      simp [hheld, hdropped]
  · next hplace =>
      have hout : first.senders.size ≤ place := Array.getElem?_eq_none_iff.mp hplace
      have hle := alike.fresh_le
      have hnumber := Renewal.number_of_le alike.old (Nat.le_trans hle hout)
      have hout' : second.senders.size ≤ renewal.number place := by
        rw [hnumber, alike.senders_size]
        exact Nat.succ_le_succ hout
      rw [Array.getElem?_eq_none hout']

theorem Alike.sender?_of_held (alike : first.Alike bound renewal second) {place : Nat}
    {sender : Sender} (held : first.sender? place = some sender)
    : ∃ sender',
        second.sender? (renewal.number place) = some sender' ∧ sender.Alike sender' := by
  obtain ⟨issued', hplace', hheld, halike⟩ := alike.sender (senders_of_held held)
  exact ⟨issued'.handle, Session.sender?_of_held hplace' hheld, halike⟩

theorem Alike.receiver? (alike : first.Alike bound renewal second) (place : Nat)
    : second.receiver? place = first.receiver? place := by
  rw [Session.receiver?, alike.receivers, Session.receiver?]

/-- Fabrics that are alike are put back in the same place. -/
theorem Alike.setFabric (alike : first.Alike bound renewal second) {number : Nat}
    {fabric fabric' next next' : Fabric α} (found : first.fabric? number = some fabric)
    (found' : second.fabric? number = some fabric') (fabrics : next.Alike bound next')
    : (first.setFabric number next).Alike bound renewal (second.setFabric number next') where
  old := alike.old
  fresh_le := alike.fresh_le
  fabrics_size := by
    simp only [Session.setFabric, Array.size_setIfInBounds, alike.fabrics_size]
  gap := by
    intro other gap
    rw [fabric?_setFabric found] at gap
    rw [fabric?_setFabric found']
    split at gap
    · cases gap
    · next elsewhere =>
        rw [if_neg elsewhere]
        exact alike.gap gap
  fabric := by
    intro other here found''
    rw [fabric?_setFabric found] at found''
    rw [fabric?_setFabric found']
    split at found''
    · next same =>
        obtain rfl := Option.some.inj found''
        exact ⟨next', if_pos same, fabrics⟩
    · next elsewhere =>
        rw [if_neg elsewhere]
        exact alike.fabric found''
  receivers := alike.receivers
  senders_size := alike.senders_size
  sender := alike.sender

/-- Senders that are alike are put back in places that belong together, held or not. -/
theorem Alike.putSender (alike : first.Alike bound renewal second) (place : Nat)
    {sender sender' : Sender} (senders : sender.Alike sender') (held : Bool)
    : { first with senders := first.senders.setIfInBounds place ⟨sender, held⟩ }.Alike bound
        renewal
        { second with
          senders := second.senders.setIfInBounds (renewal.number place) ⟨sender', held⟩ } where
  old := alike.old
  fresh_le := by
    rw [Array.size_setIfInBounds]
    exact alike.fresh_le
  fabrics_size := alike.fabrics_size
  gap := alike.gap
  fabric := alike.fabric
  receivers := alike.receivers
  senders_size := by
    rw [Array.size_setIfInBounds, Array.size_setIfInBounds]
    exact alike.senders_size
  sender := by
    intro other issued here
    rw [Array.getElem?_setIfInBounds] at here ⊢
    split at here
    · next same =>
        subst same
        split at here
        · next within =>
            obtain rfl := Option.some.inj here
            have hsome : first.senders[place]? = some first.senders[place] :=
              Array.getElem?_eq_getElem within
            obtain ⟨_, hplace', _⟩ := alike.sender hsome
            have hwithin := (Array.getElem?_eq_some_iff.mp hplace').1
            exact ⟨⟨sender', held⟩, by rw [if_pos rfl, if_pos hwithin], rfl, senders⟩
        · cases here
    · next other_place =>
        rw [if_neg fun same => other_place (Renewal.number_inj same)]
        exact alike.sender here

/-- Receivers are the same and are put back in the same place, held or not. -/
theorem Alike.putReceiver (alike : first.Alike bound renewal second) (place : Nat)
    (issued : Issued Receiver)
    : { first with receivers := first.receivers.setIfInBounds place issued }.Alike bound
        renewal
        { second with receivers := second.receivers.setIfInBounds place issued } where
  old := alike.old
  fresh_le := alike.fresh_le
  fabrics_size := alike.fabrics_size
  gap := alike.gap
  fabric := alike.fabric
  receivers := by rw [alike.receivers]
  senders_size := alike.senders_size
  sender := alike.sender

/-- A sender issued on both sides gets numbers that belong together. -/
theorem Alike.issueSender (alike : first.Alike bound renewal second)
    {answer answer' : Registration Sender} (answers : answer.Alike answer')
    : (first.issueSender answer).Alike bound renewal (second.issueSender answer') := by
  cases answers with
  | refused | failed => exact alike
  | @issued sender sender' senders =>
      exact {
        old := alike.old
        fresh_le := by
          rw [Session.issueSender, Array.size_push]
          exact Nat.le_succ_of_le alike.fresh_le
        fabrics_size := alike.fabrics_size
        gap := alike.gap
        fabric := alike.fabric
        receivers := alike.receivers
        senders_size := by
          simp only [Session.issueSender, Array.size_push, alike.senders_size]
        sender := by
          intro place issued here
          simp only [Session.issueSender, Array.getElem?_push, alike.senders_size] at here ⊢
          split at here
          · next last =>
              obtain rfl := Option.some.inj here
              rw [Renewal.number_of_le alike.old (last ▸ alike.fresh_le), last, if_pos rfl]
              exact ⟨_, rfl, rfl, senders⟩
          · obtain ⟨issued', hplace', hsame⟩ := alike.sender here
            have hwithin := (Array.getElem?_eq_some_iff.mp hplace').1
            rw [alike.senders_size] at hwithin
            rw [if_neg (Nat.ne_of_lt hwithin)]
            exact ⟨issued', hplace', hsame⟩
      }

theorem Alike.issueReceiver (alike : first.Alike bound renewal second)
    (answer : Registration Receiver)
    : (first.issueReceiver answer).Alike bound renewal (second.issueReceiver answer) := by
  cases answer with
  | refused | failed => exact alike
  | issued receiver =>
      exact {
        old := alike.old
        fresh_le := alike.fresh_le
        fabrics_size := alike.fabrics_size
        gap := alike.gap
        fabric := alike.fabric
        receivers := by rw [Session.issueReceiver, Session.issueReceiver, alike.receivers]
        senders_size := alike.senders_size
        sender := alike.sender
      }

/-- What a sender's work leaves behind is put back in places that belong together. -/
theorem Alike.keepWriting (alike : first.Alike bound renewal second) {number : Nat}
    {fabric fabric' : Fabric α} (found : first.fabric? number = some fabric)
    (found' : second.fabric? number = some fabric') {writing writing' : Writing α}
    (kept : writing.sender.fabric = number) (senders : writing.sender.Alike writing'.sender)
    (fabrics : writing.fabric.Alike bound writing'.fabric) (place : Nat)
    : (first.keepWriting place writing).Alike bound renewal
        (second.keepWriting (renewal.number place) writing') := by
  subst kept
  rw [Session.keepWriting, Session.keepWriting, senders.fabric]
  exact (alike.setFabric found found' fabrics).putSender place senders true

theorem Alike.keepReading (alike : first.Alike bound renewal second) {number : Nat}
    {fabric fabric' : Fabric α} (found : first.fabric? number = some fabric)
    (found' : second.fabric? number = some fabric') {reading reading' : Reading α}
    (kept : reading.receiver.fabric = number) (receivers : reading'.receiver = reading.receiver)
    (fabrics : reading.fabric.Alike bound reading'.fabric) (place : Nat)
    : (first.keepReading place reading).Alike bound renewal
        (second.keepReading place reading') := by
  subst kept
  rw [Session.keepReading, Session.keepReading, receivers]
  exact (alike.setFabric found found' fabrics).putReceiver place ⟨reading.receiver, true⟩

end Alike

-----------------------------------------------------------------------------------------
-- One operation on both sides
-----------------------------------------------------------------------------------------

/-- The second of two runs mirrors the first: their sessions are alike, each agrees with what its
own run has shown, and the registrations that have ended are those of the same senders. The second
run may have had slots issued again more often.
-/
structure Mirrors (renewal : Renewal) (shape : Shape) (configs : List Config)
    (past past' : Nat → List (Passage α)) (ended ended' : List Nat) (first second : Session α)
    : Prop where
  alike : first.Alike Link.passLimit renewal second
  attested : first.Attested shape configs past ended
  attested' : second.Attested shape configs past' ended'
  follows : first.Follows configs past
  follows' : second.Follows configs past'
  ended_iff : ∀ place, renewal.number place ∈ ended' ↔ place ∈ ended
  reissues_le
    : ∀ number producer,
        reissueCount (past number) producer ≤ reissueCount (past' number) producer

/-- A command that names what is not there is answered the same and changes nothing. -/
theorem Alike.quiet {bound : Nat} {renewal : Renewal} {first second : Session α}
    (alike : first.Alike bound renewal second) {reply : Reply α}
    (plain : renewal.reply reply = reply)
    : Outcome.Alike bound renewal (.quiet reply first) (.quiet reply second) where
  report := by
    simp only [Renewal.report, Outcome.report, Outcome.quiet, plain]
  session := alike

theorem Outcome.Alike.mono {bound wider : Nat} {renewal : Renewal} {first second : Outcome α}
    (alike : first.Alike bound renewal second) (le : bound ≤ wider)
    : first.Alike wider renewal second :=
  ⟨alike.report, alike.session.mono le⟩

/-- An operation has as many slots issued again on both sides, as far as both have logged the same.
-/
theorem reissueCount_operation (renewal : Renewal) (operation : Operation α)
    {outcome outcome' : Outcome α} (log : outcome'.log = outcome.log) (first second : Session α)
    (number producer : Nat)
    : reissueCount ((renewal.operation operation).passages number second outcome') producer
        = reissueCount (operation.passages number first outcome) producer := by
  cases operation with
  | registerProducer fabric => simp only [Renewal.operation, Operation.passages, log]
  | registerConsumer | unregister | unregisterVia | dropSender | dropReceiver | push | pushTo
  | pop =>
      refine (reissueCount_passages outcome' ?_ producer).trans
        (reissueCount_passages outcome ?_ producer).symm
      all_goals
        intro asked
        cases asked

section Mirrors

variable {renewal : Renewal} {shape : Shape} {configs : List Config}
  {past past' : Nat → List (Passage α)} {ended ended' : List Nat} {first second : Session α}
  (mirrors : Mirrors renewal shape configs past past' ended ended' first second)

include mirrors

/-- Senders that belong together are both registered or both not. -/
theorem Mirrors.isRegistered {place : Nat} {sender sender' : Sender}
    (held : first.sender? place = some sender)
    (held' : second.sender? (renewal.number place) = some sender')
    (senders : sender.Alike sender') {fabric fabric' : Fabric α}
    (found : first.fabric? sender.fabric = some fabric)
    (found' : second.fabric? sender.fabric = some fabric')
    : fabric'.isRegistered sender' = fabric.isRegistered sender := by
  have hfirst := mirrors.attested.isRegistered_iff (senders_of_held held) found
  have hsecond :=
    mirrors.attested'.isRegistered_iff (senders_of_held held') (senders.fabric ▸ found')
  rw [Bool.eq_iff_iff, hfirst, hsecond, mirrors.ended_iff]

/-- The fabric that a held sender works on, and the fabric and the sender that mirror them. -/
theorem Mirrors.writing {place : Nat} {sender : Sender}
    (held : first.sender? place = some sender)
    : ∃ sender' fabric fabric',
        second.sender? (renewal.number place) = some sender'
        ∧ sender.Alike sender'
        ∧ first.fabric? sender.fabric = some fabric
        ∧ second.fabric? sender.fabric = some fabric'
        ∧ fabric.Alike Link.passLimit fabric'
        ∧ fabric.Wired
        ∧ fabric'.isRegistered sender' = fabric.isRegistered sender := by
  obtain ⟨sender', held', hsenders⟩ := mirrors.alike.sender?_of_held held
  have hbadge : first.badge? place = some sender.badge :=
    Option.map_eq_some_iff.mpr ⟨_, senders_of_held held, rfl⟩
  obtain ⟨fabric, found, _⟩ := mirrors.attested.housed.sender hbadge
  obtain ⟨fabric', found', hfabrics⟩ := mirrors.alike.fabric found
  obtain ⟨_, _, hf⟩ := mirrors.follows.fabric found
  exact ⟨sender', fabric, fabric', held', hsenders, found, found', hfabrics, hf.wired,
    mirrors.isRegistered held held' hsenders found found'⟩

/-- A registration of a producer is answered with numbers that belong together. -/
theorem Mirrors.registerProducer (number : Nat)
    : Outcome.Alike Link.passLimit renewal (first.registerProducer number)
        (second.registerProducer number) := by
  cases found : first.fabric? number with
  | none =>
      rw [registerProducer_of_gap found, registerProducer_of_gap (mirrors.alike.gap found)]
      exact mirrors.alike.quiet rfl
  | some fabric =>
      obtain ⟨fabric', found', hfabrics⟩ := mirrors.alike.fabric found
      obtain ⟨_, _, hf⟩ := mirrors.follows.fabric found
      have henrolled := hfabrics.registerProducer hf
      have hanswer := henrolled.answer
      have hrows := henrolled.fabric.same.rows
      rw [registerProducer_of_found found, registerProducer_of_found found']
      refine ⟨?_, (mirrors.alike.setFabric found found' henrolled.fabric).issueSender hanswer⟩
      simp only [Outcome.logged, Outcome.report, Renewal.report, henrolled.log,
        mirrors.alike.senders_size]
      generalize fabric.registerProducer.answer = answer at hanswer ⊢
      generalize fabric'.registerProducer.answer = answer' at hanswer ⊢
      cases hanswer with
      | refused | failed => rfl
      | issued senders =>
          simp only [Reply.ofSender, Renewal.reply, senders.slot, hrows,
            Renewal.number_of_le mirrors.alike.old mirrors.alike.fresh_le]

theorem Mirrors.registerConsumer (number : Nat)
    : Outcome.Alike Link.passLimit renewal (first.registerConsumer number)
        (second.registerConsumer number) := by
  cases found : first.fabric? number with
  | none =>
      rw [registerConsumer_of_gap found, registerConsumer_of_gap (mirrors.alike.gap found)]
      exact mirrors.alike.quiet rfl
  | some fabric =>
      obtain ⟨fabric', found', hfabrics⟩ := mirrors.alike.fabric found
      obtain ⟨_, _, hf⟩ := mirrors.follows.fabric found
      have henrolled := hfabrics.registerConsumer hf.wired
      have hrows := henrolled.fabric.same.consumerRow
      rw [registerConsumer_of_found found, registerConsumer_of_found found', ← henrolled.answer]
      refine ⟨?_, (mirrors.alike.setFabric found found' henrolled.fabric).issueReceiver _⟩
      simp only [Outcome.logged, Outcome.report, Renewal.report, henrolled.log,
        mirrors.alike.receivers]
      cases fabric.registerConsumer.answer with
      | refused | failed => rfl
      | issued receiver => simp only [Reply.ofReceiver, Renewal.reply, hrows]

/-- Wherever a handle is taken to have its registration ended, it is answered the same. -/
theorem Mirrors.unregisterVia (number : Nat) {place : Nat} {sender sender' : Sender}
    (held : first.sender? place = some sender)
    (held' : second.sender? (renewal.number place) = some sender')
    (senders : sender.Alike sender')
    : Outcome.Alike Link.passLimit renewal (first.unregisterVia number sender)
        (second.unregisterVia number sender') := by
  cases found : first.fabric? number with
  | none =>
      rw [unregisterVia_of_gap found, unregisterVia_of_gap (mirrors.alike.gap found)]
      exact mirrors.alike.quiet rfl
  | some fabric =>
      obtain ⟨fabric', found', hfabrics⟩ := mirrors.alike.fabric found
      obtain ⟨_, _, hinstalled⟩ := mirrors.attested.housed.fabric found
      have henrolled := hfabrics.unregister senders fun own => by
        obtain rfl : number = sender.fabric := hinstalled.id_eq.symm.trans own.symm
        exact mirrors.isRegistered held held' senders found found'
      rw [unregisterVia_of_found found, unregisterVia_of_found found', ← henrolled.answer]
      refine ⟨?_, mirrors.alike.setFabric found found' henrolled.fabric⟩
      simp only [Outcome.logged, Outcome.report, Renewal.report, henrolled.log]
      cases (fabric.unregister sender).answer <;> rfl

theorem Mirrors.push (now place : Nat) (consumer : Option Nat) (value : α)
    : Outcome.Alike Link.passLimit renewal
        (first.step now (Operation.pushing place consumer value).command)
        (second.step now (Operation.pushing (renewal.number place) consumer value).command) := by
  cases held : first.sender? place with
  | none =>
      have held' := mirrors.alike.sender?_of_none held
      cases consumer <;>
        simp only [Operation.pushing, Operation.command, Session.step, withWriting, held, held'] <;>
        exact mirrors.alike.quiet rfl
  | some sender =>
      obtain ⟨sender', fabric, fabric', held', hsenders, found, found', hfabrics, hwired, hagree⟩ :=
        mirrors.writing held
      obtain ⟨hanswer, hmoved, hpushed⟩ := hfabrics.push hwired hsenders hagree consumer value
      have hkept := congrArg Badge.fabric (push_badge ⟨fabric, sender⟩ consumer value)
      rw [step_pushing now held found, step_pushing now held' (hsenders.fabric ▸ found'), hanswer]
      exact ⟨rfl, mirrors.alike.keepWriting found found' hkept hmoved hpushed place⟩

/-- A pop takes and discards the same. Marks that were passed may be passed more narrowly after it.
-/
theorem Mirrors.pop (now place : Nat)
    : Outcome.Alike (Link.passLimit + 1) renewal (first.step now (.pop place))
        (second.step now (.pop place)) := by
  have hsame := mirrors.alike.receiver? place
  have halike : first.Alike (Link.passLimit + 1) renewal second :=
    mirrors.alike.mono (Nat.le_succ _)
  simp only [Session.step]
  cases held : first.receiver? place with
  | none =>
      rw [held] at hsame
      simp only [withReading, held, hsame]
      exact halike.quiet rfl
  | some receiver =>
      have hseat : first.seat? place = some receiver.seat :=
        Option.map_eq_some_iff.mpr ⟨_, receivers_of_held held, rfl⟩
      obtain ⟨fabric, found, _⟩ := mirrors.attested.housed.receiver hseat
      obtain ⟨fabric', found', hfabrics⟩ := mirrors.alike.fabric found
      obtain ⟨_, _, hf⟩ := mirrors.follows.fabric found
      obtain ⟨hintake, hmoved, hpopped⟩ := hfabrics.pop hf receiver
      have hkept := congrArg Seat.fabric (pop_seat ⟨fabric, receiver, #[]⟩)
      have hkept' := congrArg Seat.fabric (pop_seat ⟨fabric', receiver, #[]⟩)
      rw [withReading_of_held held found hkept,
        withReading_of_held (hsame.trans held) found' hkept']
      constructor
      · simp only [Outcome.report, Renewal.report, Renewal.reply, Reading.pop, hintake]
      · apply halike.keepReading found found' hkept
        · exact hmoved
        · exact hpopped

/-- Every operation has an outcome that is alike, by the kinds of operations. -/
theorem Mirrors.outcome (now : Nat) (operation : Operation α)
    : Outcome.Alike (Link.passLimit + 1) renewal (first.step now operation.command)
        (second.step now (renewal.operation operation).command) := by
  have hmiss {reply : Reply α} (plain : renewal.reply reply = reply) :=
    (mirrors.alike.mono (Nat.le_succ Link.passLimit)).quiet plain
  cases operation with
  | registerProducer number => exact (mirrors.registerProducer number).mono (Nat.le_succ _)
  | registerConsumer number => exact (mirrors.registerConsumer number).mono (Nat.le_succ _)
  | push place value => exact (mirrors.push now place none value).mono (Nat.le_succ _)
  | pushTo place consumer value =>
      exact (mirrors.push now place (some consumer) value).mono (Nat.le_succ _)
  | pop place => exact mirrors.pop now place
  | unregister place =>
      simp only [Renewal.operation, Operation.command, Session.step]
      cases held : first.sender? place with
      | none =>
          rw [mirrors.alike.sender?_of_none held]
          exact hmiss rfl
      | some sender =>
          obtain ⟨sender', held', hsenders⟩ := mirrors.alike.sender?_of_held held
          simp only [held', hsenders.fabric]
          exact (mirrors.unregisterVia _ held held' hsenders).mono (Nat.le_succ _)
  | unregisterVia number place =>
      simp only [Renewal.operation, Operation.command, Session.step]
      cases found : first.fabric? number with
      | none =>
          rw [mirrors.alike.gap found]
          exact hmiss rfl
      | some fabric =>
          obtain ⟨fabric', found', _⟩ := mirrors.alike.fabric found
          cases held : first.sender? place with
          | none =>
              rw [found', mirrors.alike.sender?_of_none held]
              exact hmiss rfl
          | some sender =>
              obtain ⟨sender', held', hsenders⟩ := mirrors.alike.sender?_of_held held
              rw [found', held']
              exact (mirrors.unregisterVia number held held' hsenders).mono (Nat.le_succ _)
  | dropSender place =>
      simp only [Renewal.operation, Operation.command, Session.step]
      cases held : first.sender? place with
      | none =>
          rw [mirrors.alike.sender?_of_none held]
          exact hmiss rfl
      | some sender =>
          obtain ⟨sender', held', hsenders⟩ := mirrors.alike.sender?_of_held held
          rw [held']
          exact ((mirrors.alike.putSender place hsenders false).mono (Nat.le_succ _)).quiet rfl
  | dropReceiver place =>
      simp only [Renewal.operation, Operation.command, Session.step, mirrors.alike.receiver?]
      cases first.receiver? place with
      | none => exact hmiss rfl
      | some receiver =>
          exact ((mirrors.alike.putReceiver place ⟨receiver, false⟩).mono (Nat.le_succ _)).quiet rfl

-----------------------------------------------------------------------------------------
-- Whole runs on both sides
-----------------------------------------------------------------------------------------

/-- An operation keeps two runs mirrored. -/
theorem Mirrors.step (now : Nat) (operation : Operation α)
    (few
      : ∀ number producer,
          reissueCount
              (past' number
                ++ (renewal.operation operation).passages number second
                    (second.step now (renewal.operation operation).command))
              producer
            < Roll.reissueLimit)
    (light
      : ∀ number producer consumer,
          (Motion.departed
              (onLink producer consumer
                (past number
                  ++ operation.passages number first (first.step now operation.command)))).length
            < Link.passLimit)
    : Mirrors renewal shape configs
        (fun number =>
          past number ++ operation.passages number first (first.step now operation.command))
        (fun number =>
          past' number
            ++ (renewal.operation operation).passages number second
                (second.step now (renewal.operation operation).command))
        (ended ++ (operation.ending? (first.step now operation.command).reply).toList)
        (ended'
          ++ ((renewal.operation operation).ending?
                (second.step now (renewal.operation operation).command).reply).toList)
        (first.step now operation.command).session
        (second.step now (renewal.operation operation).command).session := by
  have houtcome := mirrors.outcome now operation
  have hlog := congrArg Report.log houtcome.report
  have hreply : (second.step now (renewal.operation operation).command).reply
      = renewal.reply (first.step now operation.command).reply :=
    congrArg Report.reply houtcome.report
  have hreissues (number producer : Nat) :=
    reissueCount_operation renewal operation hlog first second number producer
  have hfew (number producer : Nat)
      : reissueCount
            (past number ++ operation.passages number first (first.step now operation.command))
            producer
          < Roll.reissueLimit := by
    have hle := mirrors.reissues_le number producer
    have hlt := few number producer
    rw [reissueCount_append, hreissues] at hlt
    rw [reissueCount_append]
    omega
  have hfollows := mirrors.follows.operate now operation
  exact {
    alike := houtcome.session.tighten hfollows light
    attested := mirrors.attested.step now operation hfew
    attested' := mirrors.attested'.step now (renewal.operation operation) few
    follows := hfollows
    follows' := mirrors.follows'.operate now (renewal.operation operation)
    ended_iff := by
      intro place
      rw [hreply, Renewal.ending?_operation, List.mem_append, List.mem_append,
        mirrors.ended_iff, Option.mem_toList, Option.mem_toList, Option.map_eq_some_iff]
      refine or_congr_right ⟨?_, fun ending => ⟨place, ending, rfl⟩⟩
      rintro ⟨place', ending, same⟩
      rw [← Renewal.number_inj same]
      exact ending
    reissues_le := by
      intro number producer
      rw [reissueCount_append, reissueCount_append, hreissues]
      exact Nat.add_le_add_right (mirrors.reissues_le number producer) _
  }

end Mirrors

/-- Two runs that are mirrored stay so for as long as they go on, and show the same, by induction
over the operations.
-/
theorem Mirrors.after {renewal : Renewal} {shape : Shape} {configs : List Config}
    {past past' : Nat → List (Passage α)} {ended ended' : List Nat} {first second : Session α}
    (mirrors : Mirrors renewal shape configs past past' ended ended' first second) (now : Nat)
    (operations : List (Operation α))
    (few
      : ∀ number producer,
          reissueCount
              (past' number ++ history now number (operations.map renewal.operation) second)
              producer
            < Roll.reissueLimit)
    (light
      : ∀ number producer consumer,
          (Motion.departed
              (onLink producer consumer
                (past number ++ history now number operations first))).length
            < Link.passLimit)
    : (second.run now ((operations.map renewal.operation).map Operation.command)).1.map
            Outcome.report
          = (first.run now (operations.map Operation.command)).1.map (fun outcome =>
              renewal.report outcome.report)
      ∧ Mirrors renewal shape configs
          (fun number => past number ++ history now number operations first)
          (fun number =>
            past' number ++ history now number (operations.map renewal.operation) second)
          (ended ++ endings now operations first)
          (ended' ++ endings now (operations.map renewal.operation) second)
          (first.after now operations)
          (second.after now (operations.map renewal.operation)) := by
  induction operations generalizing first second past past' ended ended' with
  | nil =>
      have hnone (session : Session α) : endings now [] session = [] := rfl
      simp only [List.map_nil, history, hnone, List.append_nil]
      exact ⟨rfl, mirrors⟩
  | cons operation rest ih =>
      simp only [List.map_cons, history, ← List.append_assoc] at few light ⊢
      rw [endings_cons, endings_cons, ← List.append_assoc, ← List.append_assoc]
      have hnext := mirrors.step now operation
        (fun number producer => by
          have hall := few number producer
          rw [reissueCount_append] at hall
          omega)
        (fun number producer consumer => by
          have hall := light number producer consumer
          rw [onLink_append, Motion.departed_append, List.length_append] at hall
          omega)
      obtain ⟨hreports, hlast⟩ := ih hnext few light
      refine ⟨?_, hlast⟩
      simp only [run, List.map_cons, hreports, (mirrors.outcome now operation).report]

-----------------------------------------------------------------------------------------
-- What sessions show of themselves
-----------------------------------------------------------------------------------------

/-- Two sessions show the same of themselves, up to the numbers of senders: the counts of every
fabric, what each would give up in the end, and what every handle shows.
-/
structure SameViews (renewal : Renewal) (first second : Session α) : Prop where
  counts : second.counts = first.counts
  release : second.release = first.release
  senderView
    : ∀ place, second.senderView (renewal.number place) = first.senderView place
  receiverView : ∀ place, second.receiverView place = first.receiverView place

/-- What is read off fabric by fabric is the same where it is the same for every number. -/
theorem map_fabrics_congr {β : Type} {first second : Session α}
    (size : second.fabrics.size = first.fabrics.size) {look : Option (Fabric α) → β}
    (same : ∀ number, look (second.fabric? number) = look (first.fabric? number))
    : second.fabrics.toList.map look = first.fabrics.toList.map look := by
  apply List.ext_getElem
  · simp only [List.length_map, Array.length_toList, size]
  · intro number within' within
    simp only [List.length_map, Array.length_toList] at within within'
    have hsame := same number
    rw [fabric?, fabric?, Array.getElem?_eq_getElem within, Array.getElem?_eq_getElem within']
      at hsame
    simpa using hsame

/-- Sessions that are mirrored show the same of themselves. -/
theorem Mirrors.sameViews {renewal : Renewal} {shape : Shape} {configs : List Config}
    {past past' : Nat → List (Passage α)} {ended ended' : List Nat} {first second : Session α}
    (mirrors : Mirrors renewal shape configs past past' ended ended' first second)
    : SameViews renewal first second where
  counts := by
    refine map_fabrics_congr mirrors.alike.fabrics_size fun number => ?_
    cases found : first.fabric? number with
    | none => rw [mirrors.alike.gap found]
    | some fabric =>
        obtain ⟨fabric', found', hfabrics⟩ := mirrors.alike.fabric found
        rw [found']
        exact congrArg some hfabrics.counts
  release := by
    refine map_fabrics_congr mirrors.alike.fabrics_size fun number => ?_
    cases found : first.fabric? number with
    | none => rw [mirrors.alike.gap found]
    | some fabric =>
        obtain ⟨fabric', found', hfabrics⟩ := mirrors.alike.fabric found
        obtain ⟨_, _, hf⟩ := mirrors.follows.fabric found
        obtain ⟨_, _, hf'⟩ := mirrors.follows'.fabric found'
        rw [found']
        exact hfabrics.release hf hf'
  senderView := by
    intro place
    cases held : first.sender? place with
    | none => simp only [Session.senderView, held, mirrors.alike.sender?_of_none held]
    | some sender =>
        obtain ⟨sender', fabric, fabric', held', hsenders, found, found', hfabrics, _, hagree⟩ :=
          mirrors.writing held
        simp only [Session.senderView, held, held', found, found', hsenders.fabric,
          hsenders.slot, hagree, hfabrics.same.rows]
  receiverView := by
    intro place
    simp only [Session.receiverView, mirrors.alike.receiver?]
    cases first.receiver? place with
    | none => rfl
    | some receiver =>
        cases found : first.fabric? receiver.fabric with
        | none => simp only [mirrors.alike.gap found, found]
        | some fabric =>
            obtain ⟨fabric', found', hfabrics⟩ := mirrors.alike.fabric found
            simp only [found, found', hfabrics.same.consumerRow]

-----------------------------------------------------------------------------------------
-- A renewal is not noticed
-----------------------------------------------------------------------------------------

section Renewed

variable {renewal : Renewal} {shape : Shape} {configs : List Config}
  {past : Nat → List (Passage α)} {ended : List Nat} {session : Session α} {sender : Sender}
  {fabric : Fabric α}

/-- A sender that is registered has a slot that is not free. -/
theorem Attested.slot_taken (attested : session.Attested shape configs past ended) {place : Nat}
    (held : session.sender? place = some sender)
    (found : session.fabric? sender.fabric = some fabric)
    (registered : fabric.isRegistered sender = true)
    : sender.slot ∉ fabric.freed := by
  intro free
  have hclaimed : session.claim? sender.fabric place = some ⟨sender.slot, sender.ticket⟩ :=
    claim?_eq_some_iff.mpr ⟨_, senders_of_held held, rfl, rfl⟩
  exact (attested.sound found).tidy.vacant hclaimed free (Fabric.isRegistered_iff.mp registered)

theorem step_unregister_of_registered (now : Nat) {place : Nat}
    (held : session.sender? place = some sender)
    (found : session.fabric? sender.fabric = some fabric) (own : sender.fabric = fabric.id)
    (registered : fabric.isRegistered sender = true)
    : session.step now (.unregister place)
        = .logged .done (fabric.unregister sender).log
            (session.setFabric sender.fabric (fabric.unregister sender).fabric) := by
  rw [step_unregister now held, unregisterVia_of_found found,
    Fabric.unregister_of_registered own registered]
  rfl

/-- The one registration that ends in a renewal is the old sender's. -/
theorem endings_steps (now : Nat) (renewal : Renewal) (number : Nat) {session : Session α}
    (done : (session.step now (.unregister renewal.place)).reply = .done)
    : endings now (renewal.steps number) session = [renewal.place] := by
  rw [Renewal.steps, endings_cons, endings_cons]
  simp only [Operation.command, done]
  rfl

/-- A session in which a slot was given up and taken again is like the one before, with one sender
more that stands in for the old one.
-/
theorem alike_renewed (issued : session.senders.size = renewal.fresh)
    (held : session.sender? renewal.place = some sender)
    (found : session.fabric? sender.fabric = some fabric) {taken : Fabric α} {renewed : Sender}
    (senders : sender.Alike renewed) (fabrics : fabric.Alike Link.passLimit taken)
    : session.Alike Link.passLimit renewal
        ((session.setFabric sender.fabric taken).issueSender (.issued renewed)) where
  old := by
    rw [← issued]
    exact (Array.getElem?_eq_some_iff.mp (senders_of_held held)).1
  fresh_le := Nat.le_of_eq issued.symm
  fabrics_size := by
    simp only [issueSender, setFabric, Array.size_setIfInBounds]
  gap := by
    intro number gap
    rw [fabric?_issueSender, fabric?_setFabric found, if_neg, gap]
    rintro rfl
    cases gap.symm.trans found
  fabric := by
    intro number here found'
    rw [fabric?_issueSender, fabric?_setFabric found]
    by_cases same : sender.fabric = number
    · subst same
      obtain rfl := Option.some.inj (found.symm.trans found')
      exact ⟨taken, if_pos rfl, fabrics⟩
    · rw [if_neg same]
      exact ⟨here, found', .refl _ here⟩
  receivers := rfl
  senders_size := Array.size_push _
  sender := by
    intro place here hplace
    have hlt : place < renewal.fresh := issued ▸ (Array.getElem?_eq_some_iff.mp hplace).1
    simp only [issueSender, setFabric, Array.getElem?_push, issued]
    by_cases same : place = renewal.place
    · subst same
      obtain rfl := Option.some.inj (hplace.symm.trans (senders_of_held held))
      exact ⟨⟨renewed, true⟩, if_pos (Renewal.number_place renewal), rfl, senders⟩
    · rw [Renewal.number_of_lt hlt same, if_neg (Nat.ne_of_lt hlt)]
      exact ⟨here, hplace, rfl, rfl, rfl, rfl⟩

/-- The two steps of a renewal succeed: the old sender's registration ends, and the new sender gets
the same slot. The run with the renewal mirrors the one without from there on.
-/
theorem Attested.renewed (attested : session.Attested shape configs past ended)
    (follows : session.Follows configs past) (now : Nat)
    (issued : session.senders.size = renewal.fresh)
    (held : session.sender? renewal.place = some sender)
    (found : session.fabric? sender.fabric = some fabric)
    (registered : fabric.isRegistered sender = true)
    (clear
      : fabric.config.drainOnReclaim = false
        ∨ ∀ consumer, fabric.held sender.slot consumer = [])
    (light
      : ∀ number producer consumer,
          (Motion.departed (onLink producer consumer (past number))).length < Link.passLimit)
    (few
      : ∀ number producer,
          reissueCount
              (past number ++ history now number (renewal.steps sender.fabric) session)
              producer
            < Roll.reissueLimit)
    : let left := session.step now (.unregister renewal.place)
      let taken := left.session.step now (.registerProducer sender.fabric)
      left.reply = .done
      ∧ (∃ wired,
          session.senderView renewal.place = some (sender.slot, true, wired)
          ∧ taken.reply = .senderIssued renewal.fresh sender.slot wired)
      ∧ Mirrors renewal shape configs past
          (fun number =>
            past number ++ history now number (renewal.steps sender.fabric) session)
          ended (ended ++ endings now (renewal.steps sender.fabric) session) session
          taken.session := by
  intro left taken
  obtain ⟨_, _, hinstalled⟩ := attested.housed.fabric found
  obtain ⟨_, _, hf⟩ := follows.fabric found
  have hown : sender.fabric = fabric.id := hinstalled.id_eq.symm
  obtain ⟨⟨renewed, hanswer, hsenders⟩, hfabrics⟩ :=
    hf.alike_renewed hown registered (attested.slot_taken held found registered) clear
      (light sender.fabric sender.slot)
  have hleft : left
      = .logged .done (fabric.unregister sender).log
          (session.setFabric sender.fabric (fabric.unregister sender).fabric) :=
    step_unregister_of_registered now held found hown registered
  have hdone : left.reply = .done := by
    rw [hleft]
    rfl
  have hfound : left.session.fabric? sender.fabric = some (fabric.unregister sender).fabric := by
    rw [hleft]
    exact (fabric?_setFabric found _ _).trans (if_pos rfl)
  have htaken : taken
      = .logged
          (.senderIssued session.senders.size renewed.slot
            ((fabric.unregister sender).fabric.registerProducer.fabric.producerRow
              renewed.slot).wired)
          (fabric.unregister sender).fabric.registerProducer.log
          ((session.setFabric sender.fabric
              (fabric.unregister sender).fabric.registerProducer.fabric).issueSender
            (.issued renewed)) := by
    change left.session.registerProducer sender.fabric = _
    rw [registerProducer_of_found hfound, hanswer, hleft]
    simp only [Outcome.logged, setFabric_setFabric]
    rfl
  have hsteps : session.after now (renewal.steps sender.fabric) = taken.session := rfl
  have hstands : renewal.place ∉ ended :=
    (attested.isRegistered_iff (senders_of_held held) found).mp registered
  have halike := alike_renewed issued held found hsenders hfabrics
  refine ⟨hdone, ⟨(fabric.producerRow sender.slot).wired, ?_, ?_⟩, {
    alike := ?_
    attested := attested
    attested' := hsteps ▸ attested.after now (renewal.steps sender.fabric) few
    follows := follows
    follows' := hsteps ▸ follows.after now (renewal.steps sender.fabric)
    ended_iff := ?_
    reissues_le := ?_
  }⟩
  · simp only [senderView, held, found, registered]
  · rw [htaken, hsenders.slot, hfabrics.same.rows, issued]
    rfl
  · rw [htaken]
    exact halike
  · intro place
    rw [endings_steps now renewal sender.fabric hdone]
    exact Renewal.number_mem_append_iff halike.old
      (fun ending member => issued ▸ attested.ended_lt ending member) hstands
  · intro number producer
    rw [reissueCount_append]
    exact Nat.le_add_right _ _

end Renewed

/-- Giving up a slot and registering again at once is transparent. In any run, at any point of it,
take a held sender that is registered, in a fabric that does not drain or with nothing held for its
slot. Ending its registration succeeds there, and the next registration issues a sender for the same
slot. If that sender stands in for the old one in all that follows, every later operation has the
same outcome, and at every later moment the sessions show the same of themselves. This holds as long
as fewer than 2^63 values have left each link and no slot has been issued again 2^63 times, the
renewal included.
-/
theorem renewal_transparent (shape : Shape) (configs : List Config) (now : Nat)
    (before more : List (Operation α)) (renewal : Renewal) {sender : Sender} {fabric : Fabric α}
    (issued : ((start shape configs).after now before).senders.size = renewal.fresh)
    (held : ((start shape configs).after now before).sender? renewal.place = some sender)
    (found : ((start shape configs).after now before).fabric? sender.fabric = some fabric)
    (registered : fabric.isRegistered sender = true)
    (clear
      : fabric.config.drainOnReclaim = false
        ∨ ∀ consumer, fabric.held sender.slot consumer = [])
    (light
      : ∀ number producer consumer,
          (Motion.departed
              (onLink producer consumer
                (history now number (before ++ more) (start shape configs)))).length
            < Link.passLimit)
    (few
      : ∀ number producer,
          reissueCount
              (history now number
                (before ++ (renewal.steps sender.fabric ++ more.map renewal.operation))
                (start shape configs))
              producer
            < Roll.reissueLimit)
    : let point := (start shape configs).after now before
      let left := point.step now (.unregister renewal.place)
      let taken := left.session.step now (.registerProducer sender.fabric)
      left.reply = .done
      ∧ (∃ wired,
          point.senderView renewal.place = some (sender.slot, true, wired)
          ∧ taken.reply = .senderIssued renewal.fresh sender.slot wired)
      ∧ (taken.session.run now ((more.map renewal.operation).map Operation.command)).1.map
            Outcome.report
          = (point.run now (more.map Operation.command)).1.map (fun outcome =>
              renewal.report outcome.report)
      ∧ ∀ done rest,
          more = done ++ rest
          → SameViews renewal (point.after now done)
              (taken.session.after now (done.map renewal.operation)) := by
  intro point left taken
  simp only [history_append] at light few
  have hlight (number producer consumer : Nat)
      : (Motion.departed
            (onLink producer consumer
              (history now number before (start shape configs)))).length
          < Link.passLimit := by
    have hall := light number producer consumer
    rw [onLink_append, Motion.departed_append, List.length_append] at hall
    omega
  have hfew (number producer : Nat)
      : reissueCount (history now number before (start shape configs)) producer
          < Roll.reissueLimit := by
    have hall := few number producer
    rw [reissueCount_append] at hall
    omega
  have hattested := (attested_start shape configs).after now before hfew
  simp only [List.nil_append] at hattested
  obtain ⟨hdone, htaken, hmirrors⟩ :=
    hattested.renewed (follows_after_start shape configs now before) now issued held found
      registered clear hlight fun number producer => by
        have hall := few number producer
        rw [← List.append_assoc, reissueCount_append] at hall
        omega
  have hafter (done rest : List (Operation α)) (split : more = done ++ rest) :=
    hmirrors.after now done
      (fun number producer => by
        have hall := few number producer
        rw [split, List.map_append, history_append, ← List.append_assoc, ← List.append_assoc,
          reissueCount_append] at hall
        exact Nat.lt_of_le_of_lt (Nat.le_add_right _ _) hall)
      (fun number producer consumer => by
        have hall := light number producer consumer
        rw [split, history_append, ← List.append_assoc, onLink_append,
          Motion.departed_append, List.length_append] at hall
        exact Nat.lt_of_le_of_lt (Nat.le_add_right _ _) hall)
  refine ⟨hdone, htaken, (hafter more [] (List.append_nil _).symm).1, fun done rest split => ?_⟩
  exact (hafter done rest split).2.sameViews

/-- In a history with few passages few values leave each link. -/
theorem fewDeparted_of_short {history : List (Passage α)}
    (short : history.length < Link.passLimit) (producer consumer : Nat)
    : (Motion.departed (onLink producer consumer history)).length < Link.passLimit := by
  have hlink : (onLink producer consumer history).length ≤ history.length :=
    List.length_filterMap_le _ _
  have hleft : (Motion.departed (onLink producer consumer history)).length
      ≤ (onLink producer consumer history).length :=
    List.length_filterMap_le _ _
  omega

/-- Nothing passes in a fabric that was not configured. -/
theorem history_of_unconfigured (shape : Shape) {configs : List Config} (now : Nat)
    (operations : List (Operation α)) {number : Nat} (missing : configs[number]? = none)
    : history now number operations (start shape configs) = [] := by
  have hfollows := follows_after_start shape configs now operations
  cases found : ((start shape configs).after now operations).fabric? number with
  | none => exact hfollows.absent found
  | some fabric =>
      obtain ⟨config, configured, _⟩ := hfollows.fabric found
      cases missing.symm.trans configured

/-- The first of two producers has pushed to the first of two consumers, who has popped the value.
-/
def handover : List (Operation Nat) :=
  [.registerConsumer 0, .registerConsumer 0, .registerProducer 0, .registerProducer 0, .push 0 5,
    .push 1 6, .pop 0]

/-- The first producer pushes on, a third one comes, and the first is replaced in its slot. -/
def aftermath : List (Operation Nat) :=
  [.push 0 7, .registerProducer 0, .push 2 8, .unregister 0, .registerProducer 0, .push 3 9,
    .pop 1]

/-- The first producer renews its registration while its slot is empty. Its next value still goes to
the second consumer, the third producer comes with one number more, and the same values are left.
-/
theorem renewal_transparent_handover
    : let point := (start ⟨3, 2⟩ [⟨2, true⟩]).after 0 handover
      let renewal : Renewal := ⟨0, 2⟩
      let taken := (point.step 0 (.unregister 0)).session.step 0 (.registerProducer 0)
      taken.reply = .senderIssued 2 0 2
      ∧ aftermath.map renewal.operation
        = [.push 2 7, .registerProducer 0, .push 3 8, .unregister 2, .registerProducer 0,
            .push 4 9, .pop 1]
      ∧ (taken.session.run 0 ((aftermath.map renewal.operation).map Operation.command)).1.map
            Outcome.report
        = (point.run 0 (aftermath.map Operation.command)).1.map (fun outcome =>
            renewal.report outcome.report)
      ∧ (taken.session.after 0 (aftermath.map renewal.operation)).release = [[9, 6, 8]] := by
  intro point renewal taken
  have hhoused : point.Housed ⟨3, 2⟩ [⟨2, true⟩] := (housed_start _ _).after 0 handover
  obtain ⟨fabric, found⟩ : ∃ fabric, point.fabric? 0 = some fabric :=
    hhoused.present rfl Nat.two_pos
  obtain ⟨_, _, hinstalled⟩ := hhoused.fabric found
  have hsender : point.sender? 0 = some ⟨0, 0, .first, 1⟩ := by decide +kernel
  have hregistered : fabric.isRegistered ⟨0, 0, .first, 1⟩ = true := by
    have hmap : (point.fabric? 0).map (Fabric.isRegistered · ⟨0, 0, .first, 1⟩) = some true := by
      decide +kernel
    rw [found] at hmap
    exact Option.some.inj hmap
  have hempty (consumer : Nat) : fabric.held 0 consumer = [] := by
    rcases Nat.lt_or_ge consumer 2 with within | beyond
    · have hmap
          : ∀ consumer < 2, (point.fabric? 0).map (Fabric.held · 0 consumer) = some [] := by
        decide +kernel
      rw [found] at hmap
      exact Option.some.inj (hmap consumer within)
    · have hcount : (point.fabric? 0).map Fabric.consumerCount = some 2 := by decide +kernel
      rw [found] at hcount
      have htwo : fabric.consumerCount = 2 := Option.some.inj hcount
      have hgap : fabric.link? 0 consumer = none := by
        rw [← Option.not_isSome_iff_eq_none, hinstalled.wired.link?_isSome]
        omega
      rw [Fabric.held, hgap]
      rfl
  have hlight (number producer consumer : Nat)
      : (Motion.departed
            (onLink producer consumer
              (history 0 number (handover ++ aftermath) (start ⟨3, 2⟩ [⟨2, true⟩])))).length
          < Link.passLimit := by
    apply fewDeparted_of_short
    cases number with
    | zero => decide +kernel
    | succ number =>
        rw [history_of_unconfigured _ _ _ rfl]
        decide
  have hfew (number producer : Nat) :=
    fewReissues_of_short_run 0 number
      (by decide
        : (handover ++ (renewal.steps 0 ++ aftermath.map renewal.operation)).length
            < Roll.reissueLimit)
      (start ⟨3, 2⟩ [⟨2, true⟩]) producer
  obtain ⟨_, ⟨wired, hview, htaken⟩, hreports, hviews⟩ :=
    renewal_transparent ⟨3, 2⟩ [⟨2, true⟩] 0 handover aftermath renewal (by decide +kernel)
      hsender found hregistered (.inr hempty) hlight hfew
  have hwired : point.senderView 0 = some (0, true, 2) := by decide +kernel
  obtain rfl : wired = 2 := by simpa using hview.symm.trans hwired
  refine ⟨htaken, rfl, hreports, (hviews aftermath [] rfl).release.trans ?_⟩
  decide +kernel

end Session

end Crossbar
