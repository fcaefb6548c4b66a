import Mathlib.Data.Option.Basic
import Mathlib.Logic.Relation
import Crossbar.Proofs.Completeness
import Crossbar.Proofs.Locality
import Crossbar.Proofs.Standing

/-! Operations of parties that share nothing. The rows of two producer slots have no link in common,
nor do those of two consumers, and every handle has a cursor of its own. So the order of two such
operations makes no difference to anybody, and neither does the order in a schedule, as far as it
comes from exchanging them where they are neighbours.
-/

namespace Crossbar.Session

variable {α β : Type}

-----------------------------------------------------------------------------------------
-- Work on the cells of a session
-----------------------------------------------------------------------------------------

/-- A part of a session that pushes and pops may change: a link of a fabric, or a handle. -/
inductive Cell where
  | link (number name : Nat)
  | sender (place : Nat)
  | receiver (place : Nat)
deriving Repr, DecidableEq

/-- What a cell holds. -/
inductive Content (α : Type) where
  | link (held : Option (Link α))
  | sender (issued : Option (Issued Sender))
  | receiver (issued : Option (Issued Receiver))

def content (session : Session α) : Cell → Content α
  | .link number name => .link ((session.fabric? number).bind fun fabric => fabric.links[name]?)
  | .sender place => .sender session.senders[place]?
  | .receiver place => .receiver session.receivers[place]?

/-- The sessions differ in the contents of links and in what their handles remember at most. -/
structure Akin (base session : Session α) : Prop where
  size : session.fabrics.size = base.fabrics.size
  fabric
    : ∀ number, Option.Rel Fabric.OnlyLinks (base.fabric? number) (session.fabric? number)
  badge : ∀ place, session.badge? place = base.badge? place
  seat : ∀ place, session.seat? place = base.seat? place

/-- On the sessions akin to `base`, work keeps to an area of cells. -/
abbrev Works (base : Session α) (area : Cell → Prop) (work : Session α → β × Session α) : Prop :=
  Local base.Akin content area work

section Akin

variable {base session first second : Session α}

theorem Akin.refl (session : Session α) : session.Akin session where
  size := rfl
  fabric := by
    intro number
    cases session.fabric? number with
    | none => exact .none
    | some fabric => exact .some (.refl fabric)
  badge := fun _ => rfl
  seat := fun _ => rfl

/-- A fabric of a session akin to `base` differs from that of `base` in links at most. -/
theorem Akin.onlyLinks (akin : base.Akin session) {number : Nat} {fabric : Fabric α}
    (found : session.fabric? number = some fabric)
    : ∃ before, base.fabric? number = some before ∧ before.OnlyLinks fabric := by
  have hrel := akin.fabric number
  rw [found] at hrel
  generalize hbase : base.fabric? number = before at hrel
  cases hrel with
  | some only => exact ⟨_, rfl, only⟩

theorem fabrics_eq (size : first.fabrics.size = second.fabrics.size)
    (same : ∀ number, first.fabric? number = second.fabric? number)
    : first.fabrics = second.fabrics := by
  apply Array.ext size
  intro number within within'
  have hsame := same number
  rwa [fabric?, fabric?, Array.getElem?_eq_getElem within, Array.getElem?_eq_getElem within',
    Option.join_some, Option.join_some] at hsame

/-- Sessions akin to the same one are equal if all their cells are. -/
theorem Akin.ext (akin : base.Akin first) (akin' : base.Akin second)
    (same : ∀ cell, first.content cell = second.content cell)
    : first = second := by
  have hfabrics : first.fabrics = second.fabrics := by
    refine fabrics_eq (akin.size.trans akin'.size.symm) fun number => ?_
    have hlinks (name : Nat) := Content.link.inj (same (.link number name))
    have hrel := akin.fabric number
    have hrel' := akin'.fabric number
    cases found : first.fabric? number with
    | none =>
        rw [found] at hrel
        generalize base.fabric? number = before at hrel hrel'
        cases hrel
        generalize second.fabric? number = after at hrel'
        cases hrel'
        rfl
    | some fabric =>
        obtain ⟨before, hbefore, only⟩ := akin.onlyLinks found
        rw [hbefore] at hrel'
        generalize found' : second.fabric? number = after at hrel'
        cases hrel' with
        | some only' =>
            simp only [found, found', Option.bind_some] at hlinks
            rw [only.ext only' hlinks]
  have hsenders : first.senders = second.senders :=
    Array.ext_getElem? fun place => Content.sender.inj (same (.sender place))
  have hreceivers : first.receivers = second.receivers :=
    Array.ext_getElem? fun place => Content.receiver.inj (same (.receiver place))
  cases first
  cases second
  simp_all

end Akin

section Works

variable {base : Session α}

theorem works_sender (base : Session α) (place : Nat)
    : base.Works (· = .sender place) fun session => (session.sender? place, session) where
  stays := fun here => here
  outside := fun _ _ => rfl
  answer := by
    intro first second _ _ agree
    simp only [sender?, Content.sender.inj (agree _ rfl)]
  inside := fun _ _ agree => agree

theorem works_receiver (base : Session α) (place : Nat)
    : base.Works (· = .receiver place) fun session => (session.receiver? place, session) where
  stays := fun here => here
  outside := fun _ _ => rfl
  answer := by
    intro first second _ _ agree
    simp only [receiver?, Content.receiver.inj (agree _ rfl)]
  inside := fun _ _ agree => agree

/-- A sender that is put back under its number is what that cell holds. -/
theorem works_setSender {place : Nat} {sender : Sender}
    (own : base.badge? place = some sender.badge)
    : base.Works (· = .sender place) fun session => ((), session.setSender place sender) where
  stays := by
    intro session akin
    have hbadge := (akin.badge place).trans own
    obtain ⟨issued, here, same⟩ := Option.map_eq_some_iff.mp hbadge
    exact { akin with
      badge := fun other =>
        (map_getElem?_setIfInBounds here same.symm other).trans (akin.badge other) }
  outside := by
    intro session cell _ apart
    cases cell with
    | link | receiver => rfl
    | sender other =>
        exact congrArg Content.sender
          (Array.getElem?_setIfInBounds_ne fun same => apart (congrArg Cell.sender same.symm))
  answer := fun _ _ _ => rfl
  inside := by
    rintro first second akin akin' _ _ rfl
    have hwithin {session : Session α} (akin : base.Akin session)
        : place < session.senders.size := by
      obtain ⟨_, here, _⟩ := Option.map_eq_some_iff.mp ((akin.badge place).trans own)
      exact (Array.getElem?_eq_some_iff.mp here).1
    simp only [content, setSender, Array.getElem?_setIfInBounds_self_of_lt (hwithin akin),
      Array.getElem?_setIfInBounds_self_of_lt (hwithin akin')]

theorem works_setReceiver {place : Nat} {receiver : Receiver}
    (own : base.seat? place = some receiver.seat)
    : base.Works (· = .receiver place) fun session => ((), session.setReceiver place receiver) where
  stays := by
    intro session akin
    have hseat := (akin.seat place).trans own
    obtain ⟨issued, here, same⟩ := Option.map_eq_some_iff.mp hseat
    exact { akin with
      seat := fun other =>
        (map_getElem?_setIfInBounds here same.symm other).trans (akin.seat other) }
  outside := by
    intro session cell _ apart
    cases cell with
    | link | sender => rfl
    | receiver other =>
        exact congrArg Content.receiver
          (Array.getElem?_setIfInBounds_ne fun same => apart (congrArg Cell.receiver same.symm))
  answer := fun _ _ _ => rfl
  inside := by
    rintro first second akin akin' _ _ rfl
    have hwithin {session : Session α} (akin : base.Akin session)
        : place < session.receivers.size := by
      obtain ⟨_, here, _⟩ := Option.map_eq_some_iff.mp ((akin.seat place).trans own)
      exact (Array.getElem?_eq_some_iff.mp here).1
    simp only [content, setReceiver, Array.getElem?_setIfInBounds_self_of_lt (hwithin akin),
      Array.getElem?_setIfInBounds_self_of_lt (hwithin akin')]

/-- Works on the fabric of a number, if there is one, and puts it back. -/
def onFabric (number : Nat) (work : Fabric α → β × Fabric α) (session : Session α)
    : Option β × Session α :=
  match session.fabric? number with
  | none => (none, session)
  | some fabric => (some (work fabric).1, session.setFabric number (work fabric).2)

/-- The links of a fabric that have one of some names. -/
def Named (number : Nat) (names : Fabric α → Nat → Prop) (base : Session α) (cell : Cell) : Prop :=
  ∃ fabric name, cell = .link number name ∧ base.fabric? number = some fabric ∧ names fabric name

theorem content_link {session : Session α} {number : Nat} {fabric : Fabric α}
    (found : session.fabric? number = some fabric) (name : Nat)
    : session.content (.link number name) = .link fabric.links[name]? := by
  simp only [content, found, Option.bind_some]

/-- Work that keeps to some links of a fabric keeps to them as cells of the session. -/
theorem works_onFabric {number : Nat} {names : Fabric α → Nat → Prop}
    {work : Fabric α → β × Fabric α}
    (works : ∀ {fabric}, base.fabric? number = some fabric → fabric.Works (names fabric) work)
    : base.Works (base.Named number names) (onFabric number work) := by
  cases there : base.fabric? number with
  | none =>
      refine (Local.pure none).congr fun {session} akin => ?_
      cases found : session.fabric? number with
      | none => simp only [onFabric, found]
      | some fabric =>
          obtain ⟨_, there', _⟩ := akin.onlyLinks found
          cases there.symm.trans there'
  | some before =>
      have hworks := works there
      have hcell {name : Nat} (named : names before name)
          : base.Named number names (.link number name) :=
        ⟨before, name, rfl, there, named⟩
      -- Every session akin to the base has its fabric of this number.
      have hfound {session : Session α} (akin : base.Akin session)
          : ∃ fabric, session.fabric? number = some fabric ∧ before.OnlyLinks fabric := by
        have hrel := akin.fabric number
        rw [there] at hrel
        generalize session.fabric? number = found at hrel
        cases hrel with
        | some only => exact ⟨_, rfl, only⟩
      have hagree {first second : Session α} {fabric fabric' : Fabric α}
          (found : first.fabric? number = some fabric)
          (found' : second.fabric? number = some fabric')
          (agree
            : ∀ cell,
                base.Named number names cell → second.content cell = first.content cell)
          : ∀ name, names before name → fabric'.links[name]? = fabric.links[name]? := by
        intro name named
        have hsame := agree _ (hcell named)
        rwa [content_link found', content_link found, Content.link.injEq] at hsame
      refine { stays := ?_, outside := ?_, answer := ?_, inside := ?_ }
      · intro session akin
        obtain ⟨fabric, found, only⟩ := hfound akin
        simp only [onFabric, found]
        refine ⟨Array.size_setIfInBounds.trans akin.size, fun other => ?_, akin.badge, akin.seat⟩
        rw [fabric?_setFabric found]
        split
        · next here => exact here ▸ there ▸ .some (hworks.stays only)
        · exact akin.fabric other
      · intro session cell akin apart
        obtain ⟨fabric, found, only⟩ := hfound akin
        simp only [onFabric, found]
        cases cell with
        | sender | receiver => rfl
        | link other name =>
            by_cases here : number = other
            · subst here
              rw [content_link ((fabric?_setFabric found _ _).trans (if_pos rfl)),
                content_link found]
              exact congrArg Content.link
                (hworks.outside only fun named => apart (hcell named))
            · simp only [content, fabric?_setFabric found, if_neg here]
      · intro first second akin akin' agree
        obtain ⟨fabric, found, only⟩ := hfound akin
        obtain ⟨fabric', found', only'⟩ := hfound akin'
        simp only [onFabric, found, found']
        exact congrArg some (hworks.answer only only' (hagree found found' agree))
      · rintro first second akin akin' agree _ ⟨_, name, rfl, there', named⟩
        obtain rfl := Option.some.inj (there.symm.trans there')
        obtain ⟨fabric, found, only⟩ := hfound akin
        obtain ⟨fabric', found', only'⟩ := hfound akin'
        simp only [onFabric, found, found']
        rw [content_link ((fabric?_setFabric found' _ _).trans (if_pos rfl)),
          content_link ((fabric?_setFabric found _ _).trans (if_pos rfl))]
        exact congrArg Content.link
          (hworks.inside only only' (hagree found found' agree) name named)

end Works

-----------------------------------------------------------------------------------------
-- Pushes and pops as work of that kind
-----------------------------------------------------------------------------------------

/-- An operation as work on a session. -/
def Operation.work (now : Nat) (operation : Operation α) (session : Session α)
    : Report α × Session α :=
  ((session.step now operation.command).report, (session.step now operation.command).session)

/-- The cells that a push through the sender of a number may see. -/
def SendArea (base : Session α) (place : Nat) (consumer : Option Nat) (cell : Cell) : Prop :=
  cell = .sender place
    ∨ ∃ badge,
        base.badge? place = some badge
        ∧ base.Named badge.fabric (fun fabric => fabric.Feeds badge.slot consumer) cell

/-- The cells that a pop through the receiver of a number may see. -/
def ReceiveArea (base : Session α) (place : Nat) (cell : Cell) : Prop :=
  cell = .receiver place
    ∨ ∃ seat,
        base.seat? place = some seat
        ∧ base.Named seat.fabric (fun fabric => fabric.Serves seat.slot) cell

/-- A push ends with its answer and the sender back under its number, unless there was no fabric to
work on.
-/
def endPush (place : Nat) : Option (PushAnswer α × Sender) → Session α → Report α × Session α
  | none, session => (⟨.noSuchHandle, [], []⟩, session)
  | some (answer, sender), session => (⟨.pushed answer, [], []⟩, session.setSender place sender)

/-- A pop ends with what it took in and the receiver back under its number, unless there was no
fabric to work on.
-/
def endPop (place : Nat) : Option (Intake α × Receiver) → Session α → Report α × Session α
  | none, session => (⟨.noSuchHandle, [], []⟩, session)
  | some (intake, receiver), session =>
      (⟨.popped intake, intake.discarded, []⟩, session.setReceiver place receiver)

/-- A push, once it is known who holds the handle. -/
def pushAs (place : Nat) (consumer : Option Nat) (value : α)
    : Option Sender → Session α → Report α × Session α
  | none, session => endPush place none session
  | some sender, session =>
      let worked :=
        session.onFabric sender.fabric fun fabric =>
          (((Writing.push ⟨fabric, sender⟩ consumer value).1,
              (Writing.push ⟨fabric, sender⟩ consumer value).2.sender),
            (Writing.push ⟨fabric, sender⟩ consumer value).2.fabric)
      endPush place worked.1 worked.2

/-- A pop, once it is known who holds the handle. -/
def popAs (place : Nat) : Option Receiver → Session α → Report α × Session α
  | none, session => endPop place none session
  | some receiver, session =>
      let worked :=
        session.onFabric receiver.fabric fun fabric =>
          (((fabric.pop receiver).1, (fabric.pop receiver).2.1), (fabric.pop receiver).2.2)
      endPop place worked.1 worked.2

theorem work_pushing (now : Nat) (session : Session α) (place : Nat) (consumer : Option Nat)
    (value : α)
    : (Operation.pushing place consumer value).work now session
        = pushAs place consumer value (session.sender? place) session := by
  have hmissed (missed : session.sender? place = none
        ∨ ∃ sender,
            session.sender? place = some sender ∧ session.fabric? sender.fabric = none)
      : session.step now (Operation.pushing place consumer value).command
          = .quiet .noSuchHandle session := by
    rcases missed with none | ⟨sender, held, gone⟩
    · cases consumer <;> simp [Operation.pushing, Operation.command, step, withWriting, none]
    · cases consumer <;>
        simp [Operation.pushing, Operation.command, step, withWriting, held, lend_of_none gone]
  rw [Operation.work]
  cases held : session.sender? place with
  | none =>
      rw [hmissed (.inl held)]
      rfl
  | some sender =>
      cases found : session.fabric? sender.fabric with
      | none =>
          rw [hmissed (.inr ⟨sender, held, found⟩)]
          simp only [pushAs, onFabric, found]
          rfl
      | some fabric =>
          have hkept := congrArg Badge.fabric (push_badge ⟨fabric, sender⟩ consumer value)
          rw [step_pushing now held found]
          simp only [pushAs, onFabric, found]
          exact congrArg (fun number => (_, setSender (setFabric session number _) place _)) hkept

theorem work_pop (now : Nat) (session : Session α) (place : Nat)
    : (Operation.pop place).work now session
        = popAs place (session.receiver? place) session := by
  rw [Operation.work, Operation.command, step]
  cases held : session.receiver? place with
  | none =>
      simp only [withReading, held]
      rfl
  | some receiver =>
      cases found : session.fabric? receiver.fabric with
      | none =>
          simp only [withReading, held, lend_of_none found, popAs, onFabric, found]
          rfl
      | some fabric =>
          have hkept : (fabric.pop receiver).2.1.fabric = receiver.fabric :=
            (fabric.pop_receiver receiver).1
          rw [withReading_of_held held found hkept]
          simp [popAs, onFabric, found, keepReading, Reading.pop, endPop, Outcome.report, hkept]

/-- A push through a sender keeps to the links that it may reach and to the sender itself. -/
theorem works_pushing (base : Session α) (now place : Nat) (consumer : Option Nat) (value : α)
    : base.Works (base.SendArea place consumer)
        ((Operation.pushing place consumer value).work now) := by
  have hown : base.Works (base.SendArea place consumer) fun session =>
      (session.sender? place, session) :=
    (works_sender base place).widen .inl
  refine (hown.bind (pushAs place consumer value) fun {session} akin => ?_).congr
    fun _ => work_pushing now _ place consumer value
  cases held : session.sender? place with
  | none => exact .pure _
  | some sender =>
      have hbadge : base.badge? place = some sender.badge :=
        (akin.badge place).symm.trans
          (Option.map_eq_some_iff.mpr ⟨_, senders_of_held held, rfl⟩)
      have hlinks := (works_onFabric fun {fabric} (_ : base.fabric? sender.fabric = some fabric) =>
        Fabric.works_push fabric sender consumer value).widen
          fun named => (.inr ⟨_, hbadge, named⟩ : base.SendArea place consumer _)
      refine hlinks.bind (endPush place) fun {session} _ => ?_
      rw [onFabric]
      cases session.fabric? sender.fabric with
      | none => exact .pure _
      | some fabric =>
          have hsame := push_badge ⟨fabric, sender⟩ consumer value
          exact ((works_setSender (hbadge.trans (congrArg some hsame.symm))).widen .inl).map
            fun _ => _

/-- A pop keeps to the links of its consumer and to the receiver itself. -/
theorem works_popping (base : Session α) (now place : Nat)
    : base.Works (base.ReceiveArea place) ((Operation.pop place).work now) := by
  have hown : base.Works (base.ReceiveArea place) fun session =>
      (session.receiver? place, session) :=
    (works_receiver base place).widen .inl
  refine (hown.bind (popAs place) fun {session} akin => ?_).congr fun _ => work_pop now _ place
  cases held : session.receiver? place with
  | none => exact .pure _
  | some receiver =>
      have hseat : base.seat? place = some receiver.seat :=
        (akin.seat place).symm.trans
          (Option.map_eq_some_iff.mpr ⟨_, receivers_of_held held, rfl⟩)
      have hlinks := (works_onFabric
        fun {fabric} (_ : base.fabric? receiver.fabric = some fabric) =>
          Fabric.works_pop fabric receiver).widen
          fun named => (.inr ⟨_, hseat, named⟩ : base.ReceiveArea place _)
      refine hlinks.bind (endPop place) fun {session} _ => ?_
      rw [onFabric]
      cases session.fabric? receiver.fabric with
      | none => exact .pure _
      | some fabric =>
          have hsame : (fabric.pop receiver).2.1.seat = receiver.seat :=
            pop_seat ⟨fabric, receiver, #[]⟩
          exact ((works_setReceiver (hseat.trans (congrArg some hsame.symm))).widen .inl).map
            fun _ => _

-----------------------------------------------------------------------------------------
-- Operations that share nothing
-----------------------------------------------------------------------------------------

/-- Two operations that share no link and no handle. Whether the senders are still registered is
left open, and so is whether the handles are still held.
-/
inductive Independent (session : Session α) : Operation α → Operation α → Prop
  /-- Pushes through senders of different slots, by fan-out or to one consumer. -/
  | pushes {place place' : Nat} {badge badge' : Badge} (consumer consumer' : Option Nat)
    (value value' : α) (issued : session.badge? place = some badge)
    (issued' : session.badge? place' = some badge')
    (apart : badge.fabric = badge'.fabric → badge.slot ≠ badge'.slot)
    : Independent session (.pushing place consumer value) (.pushing place' consumer' value')
  /-- Pops of different consumers. -/
  | pops {place place' : Nat} {seat seat' : Seat} (issued : session.seat? place = some seat)
    (issued' : session.seat? place' = some seat') (apart : seat ≠ seat')
    : Independent session (.pop place) (.pop place')
  /-- A push to one consumer, and a pop of another. -/
  | pushPop {place place' consumer : Nat} {badge : Badge} {seat : Seat} (value : α)
    (issued : session.badge? place = some badge) (issued' : session.seat? place' = some seat)
    (apart : badge.fabric = seat.fabric → consumer ≠ seat.slot)
    : Independent session (.pushTo place consumer value) (.pop place')
  | popPush {place place' consumer : Nat} {badge : Badge} {seat : Seat} (value : α)
    (issued : session.seat? place = some seat) (issued' : session.badge? place' = some badge)
    (apart : badge.fabric = seat.fabric → consumer ≠ seat.slot)
    : Independent session (.pop place) (.pushTo place' consumer value)

/-- Whose handle an operation goes through, or whose fabric it registers somebody with. -/
inductive Party where
  | sender (place : Nat)
  | receiver (place : Nat)
  | owner (number : Nat)
deriving Repr, DecidableEq

def Operation.party : Operation α → Party
  | .registerProducer number | .registerConsumer number => .owner number
  | .unregister place | .unregisterVia _ place | .dropSender place => .sender place
  | .push place _ | .pushTo place _ _ => .sender place
  | .dropReceiver place | .pop place => .receiver place

theorem Operation.party_pushing (place : Nat) (consumer : Option Nat) (value : α)
    : (Operation.pushing place consumer value).party = .sender place := by
  cases consumer <;> rfl

section Independent

variable {shape : Shape} {configs : List Config} {session : Session α}
  {first second : Operation α}

/-- Two areas of links have a cell in common only within one fabric. -/
theorem Named.meet {number number' : Nat} {names names' : Fabric α → Nat → Prop} {cell : Cell}
    (here : session.Named number names cell) (there : session.Named number' names' cell)
    : number = number'
      ∧ ∃ fabric name,
          session.fabric? number = some fabric ∧ names fabric name ∧ names' fabric name := by
  obtain ⟨fabric, name, rfl, found, named⟩ := here
  obtain ⟨fabric', name', same, found', named'⟩ := there
  obtain ⟨rfl, rfl⟩ := Cell.link.inj same
  obtain rfl := Option.some.inj (found.symm.trans found')
  exact ⟨rfl, fabric, name, found, named, named'⟩

theorem Housed.wired (housed : session.Housed shape configs) {number : Nat} {fabric : Fabric α}
    (found : session.fabric? number = some fabric)
    : fabric.Wired := by
  obtain ⟨_, _, installed⟩ := housed.fabric found
  exact installed.wired

/-- Senders of different slots have no cell in common. -/
theorem sendAreas_apart (housed : session.Housed shape configs) {place place' : Nat}
    {badge badge' : Badge} (consumer consumer' : Option Nat)
    (issued : session.badge? place = some badge) (issued' : session.badge? place' = some badge')
    (apart : badge.fabric = badge'.fabric → badge.slot ≠ badge'.slot) {cell : Cell}
    (here : session.SendArea place consumer cell)
    : ¬session.SendArea place' consumer' cell := by
  intro there
  rcases here with rfl | ⟨own, issues, here⟩ <;> rcases there with there | ⟨own', issues', there⟩
  · obtain rfl := Cell.sender.inj there
    obtain rfl := Option.some.inj (issued.symm.trans issued')
    exact apart rfl rfl
  · obtain ⟨_, _, same, _⟩ := there
    cases same
  · obtain ⟨_, _, same, _⟩ := here
    cases same.symm.trans there
  · obtain rfl := Option.some.inj (issued.symm.trans issues)
    obtain rfl := Option.some.inj (issued'.symm.trans issues')
    obtain ⟨same, fabric, name, found, ⟨_, _, named⟩, ⟨_, _, named'⟩⟩ := here.meet there
    exact apart same ((housed.wired found).grid.name_inj named named').1

/-- Different consumers have no cell in common. -/
theorem receiveAreas_apart (housed : session.Housed shape configs) {place place' : Nat}
    {seat seat' : Seat} (issued : session.seat? place = some seat)
    (issued' : session.seat? place' = some seat') (apart : seat ≠ seat') {cell : Cell}
    (here : session.ReceiveArea place cell)
    : ¬session.ReceiveArea place' cell := by
  intro there
  rcases here with rfl | ⟨own, issues, here⟩ <;> rcases there with there | ⟨own', issues', there⟩
  · obtain rfl := Cell.receiver.inj there
    exact apart (Option.some.inj (issued.symm.trans issued'))
  · obtain ⟨_, _, same, _⟩ := there
    cases same
  · obtain ⟨_, _, same, _⟩ := here
    cases same.symm.trans there
  · obtain rfl := Option.some.inj (issued.symm.trans issues)
    obtain rfl := Option.some.inj (issued'.symm.trans issues')
    obtain ⟨same, fabric, name, found, ⟨producer, named⟩, ⟨producer', named'⟩⟩ :=
      here.meet there
    have hwired := housed.wired found
    rw [hwired.shared] at named named'
    have hslot := (hwired.grid.name_inj named named').2
    cases seat
    cases seat'
    exact apart (congrArg₂ Seat.mk same hslot)

/-- A push to one consumer has no cell in common with another consumer. -/
theorem sendArea_apart_receiveArea (housed : session.Housed shape configs)
    {place place' consumer : Nat} {badge : Badge} {seat : Seat}
    (issued : session.badge? place = some badge) (issued' : session.seat? place' = some seat)
    (apart : badge.fabric = seat.fabric → consumer ≠ seat.slot) {cell : Cell}
    (here : session.SendArea place (some consumer) cell)
    : ¬session.ReceiveArea place' cell := by
  intro there
  rcases here with rfl | ⟨own, issues, here⟩ <;> rcases there with there | ⟨own', issues', there⟩
  · cases there
  · obtain ⟨_, _, same, _⟩ := there
    cases same
  · obtain ⟨_, _, same, _⟩ := here
    cases same.symm.trans there
  · obtain rfl := Option.some.inj (issued.symm.trans issues)
    obtain rfl := Option.some.inj (issued'.symm.trans issues')
    obtain ⟨same, fabric, name, found, ⟨other, only, named⟩, ⟨producer, named'⟩⟩ :=
      here.meet there
    have hwired := housed.wired found
    rw [hwired.shared] at named'
    obtain rfl : consumer = other := by simpa using only
    exact apart same (hwired.grid.name_inj named named').2

/-- Independent operations keep to areas that have no cell in common. -/
theorem Independent.areas (independent : session.Independent first second)
    (housed : session.Housed shape configs) (now : Nat)
    : ∃ area other : Cell → Prop,
        session.Works area (first.work now)
        ∧ session.Works other (second.work now)
        ∧ ∀ {cell}, area cell → ¬other cell := by
  cases independent with
  | pushes consumer consumer' value value' issued issued' apart =>
      exact ⟨_, _, works_pushing _ _ _ consumer value, works_pushing _ _ _ consumer' value',
        sendAreas_apart housed consumer consumer' issued issued' apart⟩
  | pops issued issued' apart =>
      exact ⟨_, _, works_popping .., works_popping ..,
        receiveAreas_apart housed issued issued' apart⟩
  | @pushPop _ _ consumer _ _ value issued issued' apart =>
      exact ⟨_, _, works_pushing _ _ _ (some consumer) value, works_popping ..,
        sendArea_apart_receiveArea housed issued issued' apart⟩
  | @popPush _ _ consumer _ _ value issued issued' apart =>
      exact ⟨_, _, works_popping .., works_pushing _ _ _ (some consumer) value,
        fun here there => sendArea_apart_receiveArea housed issued' issued apart there here⟩

/-- In either order, independent operations show the same and leave the same session. -/
theorem Independent.commute (independent : session.Independent first second)
    (housed : session.Housed shape configs) (now : Nat)
    : (second.work now (first.work now session).2).1 = (second.work now session).1
      ∧ (first.work now (second.work now session).2).1 = (first.work now session).1
      ∧ (second.work now (first.work now session).2).2
          = (first.work now (second.work now session).2).2 := by
  obtain ⟨_, _, hfirst, hsecond, hapart⟩ := independent.areas housed now
  exact hfirst.commute hsecond hapart Akin.ext (.refl session)

/-- Independent operations are made by different parties. -/
theorem Independent.party_ne (independent : session.Independent first second)
    : first.party ≠ second.party := by
  cases independent with
  | pushes _ _ _ _ issued issued' apart =>
      rw [Operation.party_pushing, Operation.party_pushing]
      intro same
      obtain rfl := Party.sender.inj same
      obtain rfl := Option.some.inj (issued.symm.trans issued')
      exact apart rfl rfl
  | pops issued issued' apart =>
      intro same
      obtain rfl := Party.receiver.inj same
      exact apart (Option.some.inj (issued.symm.trans issued'))
  | pushPop | popPush => exact fun same => by cases same

end Independent

-----------------------------------------------------------------------------------------
-- Schedules
-----------------------------------------------------------------------------------------

/-- The operations of a schedule in their order, each with what it shows. -/
def reports (now : Nat) : List (Operation α) → Session α → List (Operation α × Report α)
  | [], _ => []
  | operation :: rest, session =>
      let (report, next) := operation.work now session
      (operation, report) :: reports now rest next

/-- What a schedule shows to one party, operation by operation. -/
def reportsTo (party : Party) (now : Nat) (schedule : List (Operation α)) (session : Session α)
    : List (Operation α × Report α) :=
  (session.reports now schedule).filter fun entry => entry.1.party = party

/-- Two schedules from a session differ by the exchange of two neighbours that share nothing. -/
inductive Swapped (now : Nat) (session : Session α)
    : List (Operation α) → List (Operation α) → Prop
  | swap (earlier later : List (Operation α)) {first second : Operation α}
    (independent : (session.after now earlier).Independent first second)
    : Swapped now session (earlier ++ first :: second :: later)
        (earlier ++ second :: first :: later)

section Schedules

variable {shape : Shape} {configs : List Config} {session : Session α}
  {schedule schedule' : List (Operation α)}

theorem reports_append (now : Nat) (earlier later : List (Operation α)) (session : Session α)
    : session.reports now (earlier ++ later)
        = session.reports now earlier ++ (session.after now earlier).reports now later := by
  induction earlier generalizing session with
  | nil => rfl
  | cons operation rest ih => exact congrArg (_ :: ·) (ih _)

/-- An exchange of neighbours that share nothing makes no difference to any party. -/
theorem Swapped.unnoticed {now : Nat} (swapped : session.Swapped now schedule schedule')
    (housed : session.Housed shape configs)
    : session.after now schedule = session.after now schedule'
      ∧ ∀ party, session.reportsTo party now schedule = session.reportsTo party now schedule' := by
  obtain ⟨earlier, later, independent⟩ := swapped
  rename_i first second
  obtain ⟨hsecond, hfirst, hsession⟩ := independent.commute (housed.after now earlier) now
  refine ⟨?_, fun party => ?_⟩
  · rw [after_append, after_append]
    exact congrArg (Session.after now later) hsession
  · have hparty := independent.party_ne
    simp only [reportsTo, reports_append, reports, List.filter_append, hsecond, hfirst, hsession]
    by_cases own : first.party = party
    · have hother : second.party ≠ party := fun same => hparty (own.trans same.symm)
      simp [own, hother]
    · simp [List.filter_cons, own]

/-- Schedules that come from one another by such exchanges make no difference to any party. -/
theorem Swapped.unnoticed_all {now : Nat}
    (swaps : Relation.ReflTransGen (session.Swapped now) schedule schedule')
    (housed : session.Housed shape configs)
    : session.after now schedule = session.after now schedule'
      ∧ ∀ party, session.reportsTo party now schedule = session.reportsTo party now schedule' := by
  induction swaps with
  | refl => exact ⟨rfl, fun _ => rfl⟩
  | tail _ swapped ih =>
      obtain ⟨hafter, hreports⟩ := swapped.unnoticed housed
      exact ⟨ih.1.trans hafter, fun party => (ih.2 party).trans (hreports party)⟩

end Schedules

/-- Operations of independent parties commute. In every reachable state, two pushes through handles
of different slots, whether fan-out or directed and whether the handles are registered or stale, two
pops of different consumers, and a push to one consumer and a pop of another show the same in either
order: what is answered, what is discarded and what is logged. They also leave the same session,
with the same cursors and the same copies of totals in the rings. So schedules that differ only by
exchanges of such neighbours show every party the same, operation by operation, and end in the same
session.
-/
theorem independent_operations_commute (shape : Shape) (configs : List Config) (now : Nat)
    (operations : List (Operation α))
    : let reached := (start shape configs).after now operations
      (∀ {first second : Operation α},
          reached.Independent first second
          → ((reached.after now [first]).step now second.command).report
                = (reached.step now second.command).report
            ∧ ((reached.after now [second]).step now first.command).report
                = (reached.step now first.command).report
            ∧ reached.after now [first, second] = reached.after now [second, first])
      ∧ ∀ {schedule schedule' : List (Operation α)},
          Relation.ReflTransGen (reached.Swapped now) schedule schedule'
          → reached.after now schedule = reached.after now schedule'
            ∧ ∀ party,
                reached.reportsTo party now schedule = reached.reportsTo party now schedule' := by
  intro reached
  have hhoused : reached.Housed shape configs := (housed_start shape configs).after now operations
  exact ⟨fun independent => independent.commute hhoused now,
    fun swaps => Swapped.unnoticed_all swaps hhoused⟩

/-- The first of two producers is replaced with a value on its way, and then another consumer comes,
so that the two rows have become longer since the stale handle was issued.
-/
def crossroads : List (Operation Nat) :=
  [.registerConsumer 0, .registerProducer 0, .registerProducer 0, .push 0 10, .push 1 20,
    .unregister 0, .registerProducer 0, .registerConsumer 0]

/-- The push through the stale handle fails before or after the other producer's, and each consumer
gets the same values whoever pops first, the stale one being discarded by the same consumer.
-/
theorem independent_operations_commute_crossroads
    : let reached := (start ⟨2, 2⟩ [⟨4, true⟩]).after 0 crossroads
      let schedule := [.push 0 11, .pushTo 1 1 21, .pop 0, .pop 1]
      let schedule' := [.pushTo 1 1 21, .push 0 11, .pop 1, .pop 0]
      reached.Independent (.push 0 11) (.pushTo 1 1 21)
        ∧ reached.after 0 [.push 0 11, .pushTo 1 1 21]
          = reached.after 0 [.pushTo 1 1 21, .push 0 11]
        ∧ Relation.ReflTransGen (reached.Swapped 0) schedule schedule'
        ∧ (reached.reportsTo (.receiver 0) 0 schedule).map (fun entry => entry.2.discarded)
          = [[⟨0, 10⟩]]
        ∧ ∀ party,
            reached.reportsTo party 0 schedule = reached.reportsTo party 0 schedule' := by
  intro reached schedule schedule'
  obtain ⟨hpairs, hschedules⟩ :=
    independent_operations_commute (α := Nat) ⟨2, 2⟩ [⟨4, true⟩] 0 crossroads
  have hpushes : reached.Independent (.push 0 11) (.pushTo 1 1 21) :=
    .pushes none (some 1) 11 21 (by decide +kernel : reached.badge? 0 = some ⟨0, 0, .first⟩)
      (by decide +kernel : reached.badge? 1 = some ⟨0, 1, .first⟩) (by decide)
  let later := reached.after 0 [.pushTo 1 1 21, .push 0 11]
  have hpops : later.Independent (.pop 0) (.pop 1) :=
    .pops (by decide +kernel : later.seat? 0 = some ⟨0, 0⟩)
      (by decide +kernel : later.seat? 1 = some ⟨0, 1⟩) (by decide)
  have hswaps : Relation.ReflTransGen (reached.Swapped 0) schedule schedule' :=
    .tail (.tail .refl (.swap [] [.pop 0, .pop 1] hpushes))
      (.swap [.pushTo 1 1 21, .push 0 11] [] hpops)
  exact ⟨hpushes, (hpairs hpushes).2.2, hswaps, by decide +kernel, (hschedules hswaps).2⟩

end Crossbar.Session
