import Crossbar.Proofs.Registry

/-! Stale and foreign handles have no effect. Which registrations have ended can be read off the
answers of a run, and at every moment a handle is registered exactly if none of these answers was
about it. What is asked of a fabric through any other handle is answered by the fault at hand and
changes nothing, so a run does not notice if all such requests are left out.
-/

namespace Crossbar

variable {α : Type}

-----------------------------------------------------------------------------------------
-- What a handle is told, by its home and its registration
-----------------------------------------------------------------------------------------

namespace Fabric

variable {fabric : Fabric α} {sender : Sender}

theorem unregister_of_foreign (foreign : sender.fabric ≠ fabric.id)
    : fabric.unregister sender = ⟨.error (.foreignHandle sender.slot), [], fabric⟩ := by
  rw [unregister, if_pos foreign]

/-- A slot that is there no longer has the ticket of a registration that has ended. -/
theorem unregister_of_outdated (own : sender.fabric = fabric.id)
    (within : sender.slot < fabric.producerCount)
    (outdated : fabric.isRegistered sender = false)
    : fabric.unregister sender = ⟨.error (.alreadyUnregistered sender.slot), [], fabric⟩ := by
  have hslot : fabric.producers[sender.slot]? = some fabric.producers[sender.slot] :=
    Array.getElem?_eq_getElem within
  rw [isRegistered, hslot] at outdated
  have hticket : fabric.producers[sender.slot].ticket ≠ sender.ticket := by
    simpa using outdated
  simp only [unregister, hslot, own, ne_eq, not_true_eq_false, if_false, if_pos hticket]

theorem unregister_of_registered (own : sender.fabric = fabric.id)
    (registered : fabric.isRegistered sender = true)
    : (fabric.unregister sender).answer = .ok () := by
  rw [isRegistered] at registered
  cases hslot : fabric.producers[sender.slot]? with
  | none => simp [hslot] at registered
  | some slot =>
      have hticket : slot.ticket = sender.ticket := by simpa [hslot] using registered
      simp [unregister, hslot, own, hticket]

/-- A push through a handle that is not registered fails before it touches anything. -/
theorem push_of_outdated (outdated : fabric.isRegistered sender = false) (consumer : Option Nat)
    (value : α)
    : (⟨fabric, sender⟩ : Writing α).push consumer value
        = (.failed (.unregisteredPush sender.slot) value, ⟨fabric, sender⟩) := by
  cases consumer <;> simp [Writing.push, push, pushTo, outdated]

theorem failure?_offerAlong (wires : List Wire) (fabric : Fabric α) (value : α)
    : (offerAlong wires fabric value).1.failure? = none := by
  induction wires generalizing fabric value with
  | nil => rfl
  | cons wire rest ih =>
      rw [offerAlong]
      split
      · rfl
      · exact ih _ _

/-- A push through a registered handle is answered by the links and does not fail. -/
theorem failure?_push (registered : fabric.isRegistered sender = true) (consumer : Option Nat)
    (value : α)
    : ((⟨fabric, sender⟩ : Writing α).push consumer value).1.failure? = none := by
  cases consumer with
  | none =>
      have hnone :=
        failure?_offerAlong ((fabric.producerRow sender.slot).sweep sender.cursor) fabric value
      simp only [Writing.push, push, registered, if_true, offerSweep_eq]
      split
      · rfl
      · next hresult => rwa [hresult] at hnone
  | some consumer =>
      simp only [Writing.push, pushTo, registered, if_true]
      split
      · rfl
      · split <;> rfl

/-- A push leaves its handle registered if it was, and out of date if it was that. -/
theorem isRegistered_push (writing : Writing α) (consumer : Option Nat) (value : α)
    : (writing.push consumer value).2.fabric.isRegistered (writing.push consumer value).2.sender
        = writing.fabric.isRegistered writing.sender := by
  have hbadge := Session.push_badge writing consumer value
  have htickets := (Session.onlyLinks_writing writing consumer value).sameRoll.2
  rw [Bool.eq_iff_iff, isRegistered_iff, isRegistered_iff, htickets]
  exact iff_of_eq (congrArg (fun badge : Badge =>
    writing.fabric.ticket? badge.slot = some badge.ticket) hbadge)

end Fabric

namespace Session

open Passage

-----------------------------------------------------------------------------------------
-- Operations on handles that are held, as equations
-----------------------------------------------------------------------------------------

section Equations

variable {session : Session α} {number place : Nat} {fabric : Fabric α} {sender : Sender}

theorem registerProducer_of_gap (gap : session.fabric? number = none)
    : session.registerProducer number = .quiet .noSuchFabric session := by
  rw [registerProducer, lend_of_none gap]

theorem registerConsumer_of_gap (gap : session.fabric? number = none)
    : session.registerConsumer number = .quiet .noSuchFabric session := by
  rw [registerConsumer, lend_of_none gap]

theorem unregisterVia_of_gap (gap : session.fabric? number = none) (sender : Sender)
    : session.unregisterVia number sender = .quiet .noSuchFabric session := by
  rw [unregisterVia, lend_of_none gap]

theorem unregisterVia_of_found (found : session.fabric? number = some fabric) (sender : Sender)
    : session.unregisterVia number sender
        = .logged (.ofUsage (fabric.unregister sender).answer) (fabric.unregister sender).log
            (session.setFabric number (fabric.unregister sender).fabric) := by
  obtain ⟨lent, hlend, hput⟩ := lend_of_some found
  rw [unregisterVia, hlend]
  simp only [hput]
  cases (fabric.unregister sender).answer <;> rfl

theorem registerProducer_of_found (found : session.fabric? number = some fabric)
    : session.registerProducer number
        = .logged
            (.ofSender session.senders.size fabric.registerProducer.fabric
              fabric.registerProducer.answer)
            fabric.registerProducer.log
            ((session.setFabric number fabric.registerProducer.fabric).issueSender
              fabric.registerProducer.answer) := by
  obtain ⟨lent, hlend, hput⟩ := lend_of_some found
  rw [registerProducer, hlend]
  simp only [hput]
  cases fabric.registerProducer.answer <;> rfl

theorem registerConsumer_of_found (found : session.fabric? number = some fabric)
    : session.registerConsumer number
        = .logged
            (.ofReceiver session.receivers.size fabric.registerConsumer.fabric
              fabric.registerConsumer.answer)
            fabric.registerConsumer.log
            ((session.setFabric number fabric.registerConsumer.fabric).issueReceiver
              fabric.registerConsumer.answer) := by
  obtain ⟨lent, hlend, hput⟩ := lend_of_some found
  rw [registerConsumer, hlend]
  simp only [hput]
  cases fabric.registerConsumer.answer <;> rfl

theorem step_unregisterVia (now : Nat) (found : session.fabric? number = some fabric)
    (held : session.sender? place = some sender)
    : session.step now (.unregisterVia number place) = session.unregisterVia number sender := by
  simp only [step, found, held]

theorem step_unregister (now : Nat) (held : session.sender? place = some sender)
    : session.step now (.unregister place) = session.unregisterVia sender.fabric sender := by
  simp only [step, held]

theorem step_pushing (now : Nat) (held : session.sender? place = some sender)
    (found : session.fabric? sender.fabric = some fabric) (consumer : Option Nat) (value : α)
    : session.step now (Operation.pushing place consumer value).command
        = .quiet (.pushed (Writing.push ⟨fabric, sender⟩ consumer value).1)
            (session.keepWriting place (Writing.push ⟨fabric, sender⟩ consumer value).2) := by
  have hkept := congrArg Badge.fabric (push_badge ⟨fabric, sender⟩ consumer value)
  have hpushed
      : session.withWriting place (fun writing => writing.push consumer value) .pushed = _ :=
    withWriting_of_held held found hkept .pushed
  cases consumer <;> exact hpushed

/-- Putting back what is there changes nothing. -/
theorem setFabric_self (found : session.fabric? number = some fabric)
    : session.setFabric number fabric = session := by
  have hget : session.fabrics[number]? = some (some fabric) := by
    rw [fabric?] at found
    exact Option.join_eq_some_iff.mp found
  have hsame : session.fabrics.setIfInBounds number (some fabric) = session.fabrics := by
    apply Array.ext_getElem?
    intro other
    rw [Array.getElem?_setIfInBounds]
    split
    · next here =>
        subst here
        rw [if_pos (Array.getElem?_eq_some_iff.mp hget).1, hget]
    · rfl
  rw [setFabric, hsame]

/-- Of two fabrics put under one number, the later one is what stays. -/
theorem setFabric_setFabric (session : Session α) (number : Nat) (next last : Fabric α)
    : (session.setFabric number next).setFabric number last = session.setFabric number last := by
  simp only [setFabric, Array.setIfInBounds_setIfInBounds]

theorem setSender_self (held : session.sender? place = some sender)
    : session.setSender place sender = session := by
  have hget := senders_of_held held
  have hsame : session.senders.setIfInBounds place ⟨sender, true⟩ = session.senders := by
    apply Array.ext_getElem?
    intro other
    rw [Array.getElem?_setIfInBounds]
    split
    · next here =>
        subst here
        rw [if_pos (Array.getElem?_eq_some_iff.mp hget).1, hget]
    · rfl
  rw [setSender, hsame]

theorem keepWriting_self (held : session.sender? place = some sender)
    (found : session.fabric? sender.fabric = some fabric)
    : session.keepWriting place ⟨fabric, sender⟩ = session := by
  simp only [keepWriting, setFabric_self found, setSender_self held]

/-- Of two pieces of work on one fabric, the later one is what stays. -/
theorem keepWriting_keepWriting (session : Session α) (place : Nat) {first second : Writing α}
    (same : first.sender.fabric = second.sender.fabric)
    : (session.keepWriting place first).keepWriting place second
        = session.keepWriting place second := by
  simp only [keepWriting, setSender, setFabric, same, Array.setIfInBounds_setIfInBounds]

/-- A sender that has been at work is still held, as its work has left it. -/
theorem sender?_keepWriting (held : session.sender? place = some sender) (writing : Writing α)
    : (session.keepWriting place writing).sender? place = some writing.sender := by
  obtain ⟨within, _⟩ := Array.getElem?_eq_some_iff.mp (senders_of_held held)
  simp [sender?, keepWriting, setSender, setFabric, within]

/-- Work on a fabric is kept under the number of that fabric. -/
theorem fabric?_keepWriting_self (place : Nat) (writing : Writing α)
    (found : session.fabric? writing.sender.fabric = some fabric)
    : (session.keepWriting place writing).fabric? writing.sender.fabric = some writing.fabric :=
  (fabric?_keepWriting session place rfl _).trans
    ((fabric?_setFabric found writing.fabric _).trans (if_pos rfl))

end Equations

-----------------------------------------------------------------------------------------
-- Misuse leaves everything as it is
-----------------------------------------------------------------------------------------

/-- The answer reports a handle that was not fit for what it was used for. -/
def Reply.isMisuse : Reply α → Bool
  | .misused _ | .pushed (.failed _ _) => true
  | _ => false

theorem Reply.isMisuse_pushed (answer : PushAnswer α)
    : (Reply.pushed answer).isMisuse = answer.failure?.isSome := by
  cases answer <;> rfl

/-- The operations of a run that are not answered as misuses. -/
def properUse (now : Nat) : List (Operation α) → Session α → List (Operation α)
  | [], _ => []
  | operation :: rest, session =>
      let outcome := session.step now operation.command
      if outcome.reply.isMisuse then
        properUse now rest outcome.session
      else
        operation :: properUse now rest outcome.session

/-- What is answered as a misuse leaves the whole session as it is, and logs and discards nothing.
-/
theorem step_of_misuse {now : Nat} {session : Session α} {operation : Operation α}
    (misuse : (session.step now operation.command).reply.isMisuse = true)
    : (session.step now operation.command).session = session
      ∧ (session.step now operation.command).log = []
      ∧ (session.step now operation.command).discarded = [] := by
  have htransition := step_transition now session operation
  generalize session.step now operation.command = outcome at misuse htransition
  cases htransition with
  | missed => exact ⟨rfl, rfl, rfl⟩
  | letGoSender | letGoReceiver | popped => cases misuse
  | @producer number fabric =>
      cases hanswer : fabric.registerProducer.answer <;>
        simp [Outcome.logged, Reply.ofSender, hanswer, Reply.isMisuse] at misuse
  | @consumer number fabric =>
      cases hanswer : fabric.registerConsumer.answer <;>
        simp [Outcome.logged, Reply.ofReceiver, hanswer, Reply.isMisuse] at misuse
  | @unregistered _ number place sender fabric _ _ found =>
      have hended := fabric.ended sender
      generalize fabric.unregister sender = enrolled at misuse hended
      cases hended with
      | misused => exact ⟨setFabric_self found, rfl, rfl⟩
      | ended => cases misuse
  | @pushed place consumer value sender fabric held found =>
      cases registered : fabric.isRegistered sender with
      | true =>
          have hnone := Fabric.failure?_push registered consumer value
          rw [Outcome.quiet, Reply.isMisuse_pushed, hnone] at misuse
          cases misuse
      | false =>
          rw [Fabric.push_of_outdated registered]
          refine ⟨?_, rfl, rfl⟩
          simp only [Outcome.quiet, keepWriting, setFabric_self found, setSender_self held]

/-- A run without its misuses has the same outcomes otherwise, and ends in the same session. The
induction is over the operations; a misuse leaves the session that the next one starts from.
-/
theorem run_properUse (now : Nat) (operations : List (Operation α)) (session : Session α)
    : session.run now ((properUse now operations session).map Operation.command)
        = ((session.run now (operations.map Operation.command)).1.filter fun outcome =>
              !outcome.reply.isMisuse,
            session.after now operations) := by
  induction operations generalizing session with
  | nil => rfl
  | cons operation rest ih =>
      rw [properUse, after, List.map_cons]
      cases misuse : (session.step now operation.command).reply.isMisuse with
      | true =>
          have hsame := (step_of_misuse misuse).1
          have hrest := ih session
          simp only [run, hsame, misuse, if_true, List.filter_cons, Bool.not_true,
            Bool.false_eq_true, if_false] at hrest ⊢
          exact hrest
      | false =>
          have hrest := ih (session.step now operation.command).session
          simp only [misuse, Bool.false_eq_true, if_false, List.map_cons, run, hrest,
            List.filter_cons, Bool.not_false, if_true]
          rfl

-----------------------------------------------------------------------------------------
-- What a run shows of its handles
-----------------------------------------------------------------------------------------

/-- The operations of a run, each with its outcome. -/
def course (now : Nat) (operations : List (Operation α)) (session : Session α)
    : List (Operation α × Outcome α) :=
  operations.zip (session.run now (operations.map Operation.command)).1

/-- The fabric and the slot that a sender was issued for, if an operation with this answer issued
one.
-/
def Operation.issue? : Operation α → Reply α → Option (Nat × Nat)
  | .registerProducer number, .senderIssued _ slot _ => some (number, slot)
  | _, _ => none

/-- The fabric and the slot of every sender that a run issued, in the order of issue. -/
def issues (now : Nat) (operations : List (Operation α)) (session : Session α)
    : List (Nat × Nat) :=
  (course now operations session).filterMap fun entry => entry.1.issue? entry.2.reply

/-- The senders whose registrations a run has ended, by number, in the order of the ends. -/
def endings (now : Nat) (operations : List (Operation α)) (session : Session α) : List Nat :=
  (course now operations session).filterMap fun entry => entry.1.ending? entry.2.reply

/-- The fabric and the slot of every sender of a session. -/
def origins (session : Session α) : List (Nat × Nat) :=
  session.senders.toList.map fun issued => (issued.handle.fabric, issued.handle.slot)

section Course

variable {now : Nat} {operation : Operation α} {session : Session α} {shape : Shape}
  {configs : List Config}

theorem course_cons (now : Nat) (operation : Operation α) (rest : List (Operation α))
    (session : Session α)
    : course now (operation :: rest) session
        = (operation, session.step now operation.command)
            :: course now rest (session.step now operation.command).session := rfl

theorem issues_cons (now : Nat) (operation : Operation α) (rest : List (Operation α))
    (session : Session α)
    : issues now (operation :: rest) session
        = (operation.issue? (session.step now operation.command).reply).toList
          ++ issues now rest (session.step now operation.command).session := by
  rw [issues, course_cons, List.filterMap_cons, issues]
  cases operation.issue? (session.step now operation.command).reply <;> rfl

theorem endings_cons (now : Nat) (operation : Operation α) (rest : List (Operation α))
    (session : Session α)
    : endings now (operation :: rest) session
        = (operation.ending? (session.step now operation.command).reply).toList
          ++ endings now rest (session.step now operation.command).session := by
  rw [endings, course_cons, List.filterMap_cons, endings]
  cases operation.ending? (session.step now operation.command).reply <;> rfl

/-- Senders that keep what identifies them keep their fabrics and slots. -/
theorem origins_congr {after : Session α}
    (badges : ∀ place, after.badge? place = session.badge? place)
    : after.origins = session.origins := by
  apply List.ext_getElem?
  intro place
  have hbadge := congrArg (Option.map fun badge => (badge.fabric, badge.slot)) (badges place)
  simp only [badge?, Option.map_map] at hbadge
  simp only [origins, List.getElem?_map, Array.getElem?_toList]
  exact hbadge

/-- An operation adds the sender that its answer reports, and no other. -/
theorem Housed.origins_step (housed : session.Housed shape configs) (now : Nat)
    (operation : Operation α)
    : (session.step now operation.command).session.origins
        = session.origins
          ++ (operation.issue? (session.step now operation.command).reply).toList := by
  have hkept (quiet : ∀ number, operation ≠ .registerProducer number)
      (unissued : operation.issue? (session.step now operation.command).reply = none)
      : (session.step now operation.command).session.origins
        = session.origins
          ++ (operation.issue? (session.step now operation.command).reply).toList := by
    rw [unissued, Option.toList_none, List.append_nil]
    rcases (step_transition now session operation).badge? with hsame | ⟨number, _, _, asked, _⟩
    · exact origins_congr hsame
    · exact absurd asked (quiet number)
  cases operation with
  | registerProducer number =>
      simp only [Operation.command, step]
      cases found : session.fabric? number with
      | none =>
          rw [registerProducer_of_gap found]
          exact (List.append_nil _).symm
      | some fabric =>
          rw [registerProducer_of_found found]
          cases hanswer : fabric.registerProducer.answer with
          | refused | failed => exact (List.append_nil _).symm
          | issued sender =>
              obtain ⟨_, _, hinstalled⟩ := housed.fabric found
              have hown := (fabric.producerEnrolled.issued_within hanswer).1
              rw [hinstalled.id_eq] at hown
              simp [origins, Outcome.logged, issueSender, setFabric, Reply.ofSender,
                Operation.issue?, hown]
  | registerConsumer | unregister | unregisterVia | dropSender | dropReceiver | push | pushTo
  | pop => exact hkept (fun _ asked => by cases asked) rfl

theorem ending?_eq_some {reply : Reply α} {place : Nat}
    : operation.ending? reply = some place
        ↔ reply = .done
          ∧ (operation = .unregister place
            ∨ ∃ number, operation = .unregisterVia number place) := by
  constructor
  · intro ending
    unfold Operation.ending? at ending
    split at ending
    · obtain rfl := Option.some.inj ending
      exact ⟨rfl, .inl rfl⟩
    · obtain rfl := Option.some.inj ending
      exact ⟨rfl, .inr ⟨_, rfl⟩⟩
    · cases ending
  · rintro ⟨rfl, rfl | ⟨number, rfl⟩⟩ <;> rfl

theorem unregisterVia_done {number : Nat} {sender : Sender}
    (done : (session.unregisterVia number sender).reply = .done)
    : ∃ fabric,
        session.fabric? number = some fabric
        ∧ (fabric.unregister sender).answer = .ok ()
        ∧ (session.unregisterVia number sender).session
          = session.setFabric number (fabric.unregister sender).fabric := by
  cases found : session.fabric? number with
  | none =>
      rw [unregisterVia, lend_of_none found] at done
      cases done
  | some fabric =>
      rw [unregisterVia_of_found found] at done ⊢
      refine ⟨fabric, rfl, ?_, rfl⟩
      cases hanswer : (fabric.unregister sender).answer with
      | ok => rfl
      | error fault => simp [hanswer, Outcome.logged, Reply.ofUsage] at done

/-- An end that is answered has happened: a fabric has ended the registration of a held sender. -/
theorem of_ending {place : Nat}
    (ending : operation.ending? (session.step now operation.command).reply = some place)
    : ∃ number sender fabric,
        session.sender? place = some sender
        ∧ session.fabric? number = some fabric
        ∧ (fabric.unregister sender).answer = .ok ()
        ∧ (session.step now operation.command).session
          = session.setFabric number (fabric.unregister sender).fabric := by
  obtain ⟨done, rfl | ⟨number, rfl⟩⟩ := ending?_eq_some.mp ending
  · simp only [Operation.command, step] at done ⊢
    cases held : session.sender? place with
    | none =>
        rw [held] at done
        cases done
    | some sender =>
        rw [held] at done
        obtain ⟨fabric, found, ok, same⟩ := unregisterVia_done done
        exact ⟨_, sender, fabric, rfl, found, ok, same⟩
  · simp only [Operation.command, step] at done ⊢
    cases present : session.fabric? number with
    | none =>
        rw [present] at done
        cases done
    | some fabric =>
        cases held : session.sender? place with
        | none =>
            rw [present, held] at done
            cases done
        | some sender =>
            rw [present, held] at done
            obtain ⟨fabric', found, ok, same⟩ := unregisterVia_done done
            exact ⟨number, sender, fabric', rfl, found, ok, same⟩

theorem ends_iff {place : Nat}
    : session.Ends operation (session.step now operation.command) place
        ↔ operation.ending? (session.step now operation.command).reply = some place := by
  constructor
  · exact And.right
  · intro ending
    obtain ⟨_, sender, _, held, _⟩ := of_ending ending
    exact ⟨Option.isSome_iff_exists.mpr ⟨sender, held⟩, ending⟩

/-- A sender issued before keeps its claim. -/
theorem Transition.claim?_kept {outcome : Outcome α}
    (transition : session.Transition operation outcome) {place : Nat}
    (within : place < session.senders.size) (number : Nat)
    : outcome.session.claim? number place = session.claim? number place := by
  rcases transition.badge? with hsame | ⟨_, _, _, _, _, _, _, hnew⟩
  · rw [claim?, hsame, claim?]
  · rw [claim?, hnew, if_neg (Nat.ne_of_lt within), claim?]

/-- Once its registration has been ended, a sender's ticket is not that of its slot. -/
theorem outdated_of_ends {place number : Nat} {fabric next : Fabric α}
    {past : List (Passage α)} (housed : session.Housed shape configs)
    (sound : (session.roll number fabric past).Sound)
    (ends : session.Ends operation (session.step now operation.command) place)
    (found : session.fabric? number = some fabric)
    (after : (session.step now operation.command).session.fabric? number = some next)
    {claim : Claim} (claimed : session.claim? number place = some claim)
    : next.ticket? claim.slot ≠ some claim.ticket := by
  obtain ⟨number', sender, fabric', held, found', ok, same⟩ := of_ending (ends_iff.mp ends)
  obtain ⟨issued, hplace, own, rfl⟩ := claim?_eq_some_iff.mp claimed
  obtain rfl : issued = ⟨sender, true⟩ := Option.some.inj (hplace.symm.trans (senders_of_held held))
  obtain ⟨_, _, hinstalled⟩ := housed.fabric found'
  have hended := fabric'.ended sender
  rw [same, fabric?_setFabric found'] at after
  generalize fabric'.unregister sender = enrolled at ok after hended
  cases hended with
  | misused => cases ok
  | @ended slot own' hslot current =>
      obtain rfl : number' = number := (own'.trans hinstalled.id_eq).symm.trans own
      rw [if_pos rfl] at after
      obtain rfl := Option.some.inj after
      obtain rfl := Option.some.inj (found.symm.trans found')
      have htickets :=
        Fabric.ticket?_setSlot { fabric with freed := sender.slot :: fabric.freed } hslot
          { slot with ticket := sender.ticket.ended, cursor := sender.cursor } sender.slot
      rw [if_pos rfl] at htickets
      intro back
      have hactive := sound.claim_active claimed
      rw [← Option.some.inj (htickets.symm.trans back), Ticket.isActive_ended] at hactive
      cases hactive

end Course

-----------------------------------------------------------------------------------------
-- The registrations that stand are those that no answer has ended
-----------------------------------------------------------------------------------------

/-- A session agrees with what its run has shown: the rolls of its fabrics are sound, and a sender
has the ticket of its slot exactly if its registration has not been ended.
-/
structure Attested (shape : Shape) (configs : List Config) (past : Nat → List (Passage α))
    (ended : List Nat) (session : Session α) : Prop where
  housed : session.Housed shape configs
  sound
    : ∀ {number fabric},
        session.fabric? number = some fabric
        → (session.roll number fabric (past number)).Sound
  current_iff
    : ∀ {number fabric place claim},
        session.fabric? number = some fabric
        → session.claim? number place = some claim
        → (fabric.ticket? claim.slot = some claim.ticket ↔ place ∉ ended)
  ended_lt : ∀ place ∈ ended, place < session.senders.size

theorem attested_start (shape : Shape) (configs : List Config)
    : (start shape configs : Session α).Attested shape configs (fun _ => []) [] where
  housed := housed_start shape configs
  sound := by
    intro number fabric found
    obtain ⟨config, _, rfl⟩ := bare_of_start found
    exact sound_roll_bare shape configs number config
  current_iff := by
    intro number fabric place claim _ claimed
    cases claimed
  ended_lt := fun _ member => absurd member List.not_mem_nil

section Attested

variable {shape : Shape} {configs : List Config} {past : Nat → List (Passage α)}
  {ended : List Nat} {session : Session α}

/-- A fabric that stands after an operation stood before, and the operation did to its roll what can
happen to a roll.
-/
theorem Housed.roll_step (housed : session.Housed shape configs) (now : Nat)
    (operation : Operation α) (history : List (Passage α)) {number : Nat} {next : Fabric α}
    (after : (session.step now operation.command).session.fabric? number = some next)
    : ∃ fabric,
        session.fabric? number = some fabric
        ∧ Roll.Step (session.Ends operation (session.step now operation.command))
            (session.roll number fabric history)
            ((session.step now operation.command).session.roll number next
              (history
                ++ operation.passages number session (session.step now operation.command))) := by
  have htransition := step_transition now session operation
  rcases htransition.fabric? number with ⟨_, gap⟩ | ⟨fabric, _, found, _, _⟩
  · cases gap.symm.trans after
  · obtain ⟨next', hnext, hroll⟩ := htransition.roll housed found history
    obtain rfl := Option.some.inj (after.symm.trans hnext)
    exact ⟨fabric, found, hroll⟩

/-- After an operation the handles that are current are those whose registration has not ended, in
this operation or before.
-/
theorem Attested.current_iff_step (attested : session.Attested shape configs past ended) (now : Nat)
    (operation : Operation α) {number : Nat}
    (few
      : ∀ producer,
          reissueCount
              (past number
                ++ operation.passages number session (session.step now operation.command))
              producer
            < Roll.reissueLimit)
    {next : Fabric α} {place : Nat} {claim : Claim}
    (after : (session.step now operation.command).session.fabric? number = some next)
    (claimed : (session.step now operation.command).session.claim? number place = some claim)
    : next.ticket? claim.slot = some claim.ticket
      ↔ place
          ∉ ended
            ++ (operation.ending? (session.step now operation.command).reply).toList := by
  have htransition := step_transition now session operation
  obtain ⟨fabric, found, hroll⟩ :=
    attested.housed.roll_step now operation (past number) after
  have hsound := attested.sound found
  rw [List.mem_append, Option.mem_toList, ← ends_iff, not_or]
  rcases hroll.claimed claimed with before | ⟨vacant, current⟩
  · by_cases ends : session.Ends operation (session.step now operation.command) place
    · -- The answer of the operation is about this very sender.
      have hnot := outdated_of_ends attested.housed hsound ends found after before
      exact iff_of_false hnot fun stands => stands.2 ends
    · by_cases member : place ∈ ended
      · have houtdated := mt (attested.current_iff found before).mp (not_not.mpr member)
        have hnot := (hsound.outdated_step hroll few before houtdated).2
        exact iff_of_false hnot fun stands => stands.1 member
      · have hcurrent := (attested.current_iff found before).mpr member
        exact iff_of_true (hsound.unheld_step hroll before hcurrent ends).2.1 ⟨member, ends⟩
  · -- A sender that is issued here has a number that none of those ended has.
    have hnew : ¬place < session.senders.size := by
      intro within
      have hkept := htransition.claim?_kept within number
      cases (hkept.symm.trans claimed).symm.trans vacant
    refine iff_of_true current ⟨fun member => hnew (attested.ended_lt place member), ?_⟩
    rintro ⟨holds, _⟩
    obtain ⟨sender, held⟩ := Option.isSome_iff_exists.mp holds
    exact hnew (Array.getElem?_eq_some_iff.mp (senders_of_held held)).1

/-- An operation keeps a session attested: it ends the registration that its answer names, if any,
and every other one goes on as it was.
-/
theorem Attested.step (attested : session.Attested shape configs past ended) (now : Nat)
    (operation : Operation α)
    (few
      : ∀ number producer,
          reissueCount
              (past number
                ++ operation.passages number session (session.step now operation.command))
              producer
            < Roll.reissueLimit)
    : (session.step now operation.command).session.Attested shape configs
        (fun number =>
          past number ++ operation.passages number session (session.step now operation.command))
        (ended ++ (operation.ending? (session.step now operation.command).reply).toList) where
  housed := attested.housed.transition (step_transition now session operation)
  sound := by
    intro number next after
    obtain ⟨fabric, found, hroll⟩ :=
      attested.housed.roll_step now operation (past number) after
    exact (attested.sound found).step hroll (few number)
  current_iff := fun after claimed =>
    attested.current_iff_step now operation (few _) after claimed
  ended_lt := by
    have hsize := congrArg List.length (attested.housed.origins_step now operation)
    simp only [origins, List.length_append, List.length_map, Array.length_toList] at hsize
    intro place member
    rw [List.mem_append, Option.mem_toList, ← ends_iff] at member
    rcases member with member | ⟨holds, _⟩
    · have hlt := attested.ended_lt place member
      omega
    · obtain ⟨sender, held⟩ := Option.isSome_iff_exists.mp holds
      have hlt := (Array.getElem?_eq_some_iff.mp (senders_of_held held)).1
      omega

/-- Every run from an attested session leads to an attested session, by induction over its
operations.
-/
theorem Attested.after (attested : session.Attested shape configs past ended) (now : Nat)
    (operations : List (Operation α))
    (few
      : ∀ number producer,
          reissueCount (past number ++ history now number operations session) producer
            < Roll.reissueLimit)
    : (session.after now operations).Attested shape configs
        (fun number => past number ++ history now number operations session)
        (ended ++ endings now operations session) := by
  induction operations generalizing session past ended with
  | nil =>
      simp only [history, List.append_nil]
      have hnone : endings now [] session = [] := rfl
      rw [hnone, List.append_nil]
      exact attested
  | cons operation rest ih =>
      simp only [history, ← List.append_assoc] at few ⊢
      rw [endings_cons, ← List.append_assoc]
      refine ih (attested.step now operation fun number producer => ?_) few
      have hall := few number producer
      rw [reissueCount_append] at hall
      omega

theorem Housed.origins_after (housed : session.Housed shape configs) (now : Nat)
    (operations : List (Operation α))
    : (session.after now operations).origins
        = session.origins ++ issues now operations session := by
  induction operations generalizing session with
  | nil => exact (List.append_nil _).symm
  | cons operation rest ih =>
      have hrest := ih (housed.transition (step_transition now session operation))
      rw [housed.origins_step, List.append_assoc, ← issues_cons] at hrest
      exact hrest

end Attested

-----------------------------------------------------------------------------------------
-- How handles are answered
-----------------------------------------------------------------------------------------

/-- How the sender of a number is answered wherever it is used, if it was issued by the fabric
`home` for the slot `slot`. The first facts are about the handle itself, held or not; the last ones
say that whoever holds it gets these answers.
-/
structure Answered (now : Nat) (session : Session α) (place : Nat) (issued : Issued Sender)
    (home slot : Nat) (ended : Prop) : Prop where
  done_iff
    : ∀ {number fabric},
        session.fabric? number = some fabric
        → ((fabric.unregister issued.handle).answer = .ok () ↔ number = home ∧ ¬ended)
  foreign_iff
    : ∀ {number fabric},
        session.fabric? number = some fabric
        → ((fabric.unregister issued.handle).answer = .error (.foreignHandle slot)
          ↔ number ≠ home)
  already_iff
    : ∀ {number fabric},
        session.fabric? number = some fabric
        → ((fabric.unregister issued.handle).answer = .error (.alreadyUnregistered slot)
          ↔ number = home ∧ ended)
  push_fails_iff
    : ∀ {fabric},
        session.fabric? home = some fabric
        → ∀ consumer value,
            (Writing.push ⟨fabric, issued.handle⟩ consumer value).1
                = .failed (.unregisteredPush slot) value
              ↔ ended
  push_fails_only
    : ∀ {fabric},
        session.fabric? home = some fabric
        → ∀ consumer value,
            ¬ended → (Writing.push ⟨fabric, issued.handle⟩ consumer value).1.failure? = none
  reply_unregisterVia
    : issued.held = true
      → ∀ {number fabric},
          session.fabric? number = some fabric
          → (session.step now (.unregisterVia number place)).reply
            = .ofUsage (fabric.unregister issued.handle).answer
  reply_unregister
    : issued.held = true
      → ∀ {fabric},
          session.fabric? home = some fabric
          → (session.step now (.unregister place)).reply
            = .ofUsage (fabric.unregister issued.handle).answer
  reply_push
    : issued.held = true
      → ∀ {fabric},
          session.fabric? home = some fabric
          → ∀ consumer value,
              (session.step now (Operation.pushing place consumer value).command).reply
                = .pushed (Writing.push ⟨fabric, issued.handle⟩ consumer value).1

theorem sender?_of_held {session : Session α} {place : Nat} {issued : Issued Sender}
    (found : session.senders[place]? = some issued) (held : issued.held = true)
    : session.sender? place = some issued.handle := by
  simp [sender?, found, held]

section Answered

variable {shape : Shape} {configs : List Config} {past : Nat → List (Passage α)}
  {ended : List Nat} {session : Session α}

theorem Attested.isRegistered_iff (attested : session.Attested shape configs past ended)
    {place : Nat} {issued : Issued Sender} (hplace : session.senders[place]? = some issued)
    {fabric : Fabric α} (found : session.fabric? issued.handle.fabric = some fabric)
    : fabric.isRegistered issued.handle = true ↔ place ∉ ended := by
  rw [Fabric.isRegistered_iff]
  exact attested.current_iff found (claim?_eq_some_iff.mpr ⟨issued, hplace, rfl, rfl⟩)

theorem Attested.isRegistered_eq_false_iff
    (attested : session.Attested shape configs past ended) {place : Nat} {issued : Issued Sender}
    (hplace : session.senders[place]? = some issued) {fabric : Fabric α}
    (found : session.fabric? issued.handle.fabric = some fabric)
    : fabric.isRegistered issued.handle = false ↔ place ∈ ended := by
  rw [← Bool.not_eq_true, attested.isRegistered_iff hplace found, not_not]

/-- A registration ends once, and only in the fabric that issued the handle. -/
theorem Attested.answer_unregister (attested : session.Attested shape configs past ended)
    {place : Nat} {issued : Issued Sender} (hplace : session.senders[place]? = some issued)
    {number : Nat} {fabric : Fabric α} (found : session.fabric? number = some fabric)
    : (fabric.unregister issued.handle).answer
        = if number ≠ issued.handle.fabric then .error (.foreignHandle issued.handle.slot)
          else if place ∈ ended then .error (.alreadyUnregistered issued.handle.slot)
          else .ok () := by
  obtain ⟨home, hhome, hwithin⟩ :=
    attested.housed.sender (Option.map_eq_some_iff.mpr ⟨issued, hplace, rfl⟩)
  obtain ⟨_, _, hinstalled⟩ := attested.housed.fabric found
  have hid := hinstalled.id_eq
  by_cases same : number = issued.handle.fabric
  · subst same
    obtain rfl := Option.some.inj (hhome.symm.trans found)
    rw [if_neg (not_not.mpr rfl)]
    by_cases member : place ∈ ended
    · have houtdated := (attested.isRegistered_eq_false_iff hplace hhome).mpr member
      rw [if_pos member, Fabric.unregister_of_outdated hid.symm hwithin houtdated]
    · have hregistered := (attested.isRegistered_iff hplace hhome).mpr member
      rw [if_neg member, Fabric.unregister_of_registered hid.symm hregistered]
  · rw [if_pos same, Fabric.unregister_of_foreign (hid ▸ Ne.symm same)]

/-- A handle is answered by its home, its slot and whether its registration has ended. -/
theorem Attested.answered (attested : session.Attested shape configs past ended) (now : Nat)
    {place : Nat} {issued : Issued Sender} (hplace : session.senders[place]? = some issued)
    : session.Answered now place issued issued.handle.fabric issued.handle.slot
        (place ∈ ended) where
  done_iff := by
    intro number fabric found
    rw [attested.answer_unregister hplace found]
    by_cases same : number = issued.handle.fabric <;> by_cases member : place ∈ ended <;>
      simp [same, member]
  foreign_iff := by
    intro number fabric found
    rw [attested.answer_unregister hplace found]
    by_cases same : number = issued.handle.fabric <;> by_cases member : place ∈ ended <;>
      simp [same, member]
  already_iff := by
    intro number fabric found
    rw [attested.answer_unregister hplace found]
    by_cases same : number = issued.handle.fabric <;> by_cases member : place ∈ ended <;>
      simp [same, member]
  push_fails_iff := by
    intro fabric found consumer value
    by_cases member : place ∈ ended
    · have houtdated := (attested.isRegistered_eq_false_iff hplace found).mpr member
      exact iff_of_true
        (congrArg Prod.fst (Fabric.push_of_outdated houtdated consumer value)) member
    · have hregistered := (attested.isRegistered_iff hplace found).mpr member
      have hworks := Fabric.failure?_push hregistered consumer value
      refine iff_of_false (fun failed => ?_) member
      rw [failed] at hworks
      cases hworks
  push_fails_only := by
    intro fabric found consumer value stands
    exact Fabric.failure?_push ((attested.isRegistered_iff hplace found).mpr stands) consumer value
  reply_unregisterVia := by
    intro held number fabric found
    rw [step_unregisterVia now found (sender?_of_held hplace held), unregisterVia_of_found found]
    rfl
  reply_unregister := by
    intro held fabric found
    rw [step_unregister now (sender?_of_held hplace held), unregisterVia_of_found found]
    rfl
  reply_push := by
    intro held fabric found consumer value
    rw [step_pushing now (sender?_of_held hplace held) found]
    rfl

end Answered

/-- Stale and foreign handles are inert, in every run in which no slot is issued again 2^63 times.
Each sender that the run has issued, and each fabric that is asked about it: the registration is
ended exactly if this fabric issued the sender and has not ended its registration yet, the sender is
foreign exactly if another fabric issued it, and otherwise its registration has already ended; only
then do pushes fail. A request that is answered so leaves the session as it is, and the run without
all such requests has the same other outcomes and ends in the same session.
-/
theorem misuse_inert (shape : Shape) (configs : List Config) (now : Nat)
    (operations : List (Operation α))
    (few
      : ∀ number producer,
          reissueCount (history now number operations (start shape configs)) producer
            < Roll.reissueLimit)
    : let begun := start shape configs
      let reached := begun.after now operations
      (∀ place home slot,
        (issues now operations begun)[place]? = some (home, slot)
        → ∃ issued,
            reached.senders[place]? = some issued
            ∧ reached.Answered now place issued home slot (place ∈ endings now operations begun))
      ∧ (∀ operation : Operation α,
        (reached.step now operation.command).reply.isMisuse = true
        → (reached.step now operation.command).session = reached
          ∧ (reached.step now operation.command).log = []
          ∧ (reached.step now operation.command).discarded = [])
      ∧ begun.run now ((properUse now operations begun).map Operation.command)
        = ((begun.run now (operations.map Operation.command)).1.filter fun outcome =>
              !outcome.reply.isMisuse,
            reached) := by
  intro begun reached
  have hattested := (attested_start shape configs).after now operations few
  have horigins := (housed_start (α := α) shape configs).origins_after now operations
  refine ⟨?_, fun _ => step_of_misuse, run_properUse now operations begun⟩
  intro place home slot issue
  have horigin : reached.origins[place]? = some (home, slot) :=
    (congrArg (·[place]?) horigins).trans issue
  rw [origins, List.getElem?_map, Array.getElem?_toList, Option.map_eq_some_iff] at horigin
  obtain ⟨issued, hplace, hsame⟩ := horigin
  obtain ⟨rfl, rfl⟩ := Prod.mk.inj hsame
  exact ⟨issued, hplace, hattested.answered now hplace⟩

/-- An operation has at most one slot issued again. -/
theorem reissueCount_step_le (now number : Nat) (operation : Operation α) (session : Session α)
    (producer : Nat)
    : reissueCount
          (operation.passages number session (session.step now operation.command)) producer
        ≤ 1 := by
  have hnone (quiet : operation ≠ .registerProducer number)
      : reissueCount
            (operation.passages number session (session.step now operation.command)) producer
          ≤ 1 := by
    rw [reissueCount_passages _ fun asked => absurd asked quiet]
    exact Nat.zero_le 1
  cases operation with
  | registerProducer number' =>
      by_cases same : number' = number
      · have hlog : (Event.reissues (session.registerProducer number').log
            : List (Passage α)).length ≤ 1 := by
          rcases registerProducer_cases session number' with ⟨_, hmiss⟩ | ⟨fabric, _, enrols⟩
          · rw [hmiss]
            exact Nat.zero_le 1
          · rw [enrols.log]
            have hcases := fabric.producerEnrolled
            generalize fabric.registerProducer = enrolled at hcases
            cases hcases with
            | reissued =>
                rw [Fabric.reissues_reissueLog]
                exact Nat.le_refl 1
            | fresh _ taken =>
                cases taken <;> exact Nat.zero_le 1
        rw [Operation.passages, if_pos same]
        exact Nat.le_trans List.countP_le_length hlog
      · exact hnone fun asked => same (Operation.registerProducer.inj asked)
  | registerConsumer | unregister | unregisterVia | dropSender | dropReceiver | push | pushTo
  | pop => exact hnone fun asked => by cases asked

/-- A run of fewer than 2^63 operations has no slot issued again that often. -/
theorem fewReissues_of_short_run (now number : Nat) {operations : List (Operation α)}
    (short : operations.length < Roll.reissueLimit) (session : Session α) (producer : Nat)
    : reissueCount (history now number operations session) producer < Roll.reissueLimit := by
  refine Nat.lt_of_le_of_lt ?_ short
  clear short
  induction operations generalizing session with
  | nil => exact Nat.le_refl 0
  | cons operation rest ih =>
      have hfirst := reissueCount_step_le now number operation session producer
      have hrest := ih (session.step now operation.command).session
      rw [history, reissueCount_append, List.length_cons]
      omega

/-- Two fabrics; a slot of the first is given up and issued again, with values on their way, and the
handles are used where they no longer or never were fit for it.
-/
def misfits : List (Operation Nat) :=
  [.registerConsumer 0, .registerProducer 0, .registerProducer 1, .push 0 5, .unregister 0,
    .registerProducer 0, .unregister 0, .push 2 6, .unregisterVia 0 1, .push 0 7, .pop 0,
    .pushTo 0 0 8, .unregisterVia 1 0, .pop 0]

/-- The first sender is stale where its slot has a new occupant and foreign elsewhere, although the
same slot exists there; five requests of the run can be left out.
-/
theorem misuse_inert_misfits
    : (∀ number producer,
        reissueCount (history 0 number misfits (start ⟨2, 1⟩ [⟨2, true⟩, ⟨1, false⟩])) producer
          < Roll.reissueLimit)
      ∧ (let begun := start ⟨2, 1⟩ [⟨2, true⟩, ⟨1, false⟩]
        let reached := begun.after 0 misfits
        (reached.step 0 (.unregisterVia 0 0)).reply = .misused (.alreadyUnregistered 0)
        ∧ (reached.step 0 (.unregisterVia 1 0)).reply = .misused (.foreignHandle 0)
        ∧ (reached.step 0 (.unregisterVia 1 0)).session = reached
        ∧ properUse 0 misfits begun
          = [.registerConsumer 0, .registerProducer 0, .registerProducer 1, .push 0 5,
              .unregister 0, .registerProducer 0, .push 2 6, .pop 0, .pop 0]
        ∧ (begun.run 0 ((properUse 0 misfits begun).map Operation.command)).2 = reached) := by
  have hfew (number producer : Nat) :=
    fewReissues_of_short_run 0 number (by decide : misfits.length < Roll.reissueLimit)
      (start ⟨2, 1⟩ [⟨2, true⟩, ⟨1, false⟩]) producer
  refine ⟨hfew, ?_⟩
  obtain ⟨hanswers, hinert, herased⟩ :=
    misuse_inert ⟨2, 1⟩ [⟨2, true⟩, ⟨1, false⟩] 0 misfits hfew
  intro begun reached
  have hhoused : reached.Housed ⟨2, 1⟩ [⟨2, true⟩, ⟨1, false⟩] :=
    (housed_start _ _).after 0 misfits
  obtain ⟨first, hfirst⟩ : ∃ fabric, reached.fabric? 0 = some fabric :=
    hhoused.present rfl Nat.two_pos
  obtain ⟨second, hsecond⟩ : ∃ fabric, reached.fabric? 1 = some fabric :=
    hhoused.present rfl Nat.one_pos
  obtain ⟨issued, hplace, hanswered⟩ := hanswers 0 0 0 (by decide)
  have hheld : issued.held = true := by
    have hmap : reached.senders[0]?.map Issued.held = some true := by decide
    rw [hplace] at hmap
    exact Option.some.inj hmap
  have halready := hanswered.reply_unregisterVia hheld hfirst
  have hforeign := hanswered.reply_unregisterVia hheld hsecond
  rw [(hanswered.already_iff hfirst).mpr ⟨rfl, by decide⟩] at halready
  rw [(hanswered.foreign_iff hsecond).mpr Nat.one_ne_zero] at hforeign
  have hsame := (hinert (.unregisterVia 1 0) (congrArg Reply.isMisuse hforeign)).1
  refine ⟨halready, hforeign, hsame, ?_, ?_⟩
  · decide +kernel
  · rw [herased]

end Session

end Crossbar
