import Crossbar.Proofs.FanOut

/-! Work that stays within an area of a state. It sees no cell outside its area and changes none, so
two pieces of work with areas apart do not notice each other. A push keeps to the links of its
producer slot and a pop to those of its consumer slot, however many of them a scan looks at.
-/

namespace Crossbar

-----------------------------------------------------------------------------------------
-- Work with an area of its own
-----------------------------------------------------------------------------------------

/-- On the states that are `kin`, work keeps to an area of cells: it leaves those outside as they
are, and neither its answer nor what it does inside depends on them.
-/
structure Local {σ κ γ β : Type} (kin : σ → Prop) (look : σ → κ → γ) (area : κ → Prop)
    (work : σ → β × σ) : Prop where
  stays : ∀ {state}, kin state → kin (work state).2
  outside
    : ∀ {state cell}, kin state → ¬area cell → look (work state).2 cell = look state cell
  answer
    : ∀ {first second},
        kin first
        → kin second
        → (∀ cell, area cell → look second cell = look first cell)
        → (work second).1 = (work first).1
  inside
    : ∀ {first second},
        kin first
        → kin second
        → (∀ cell, area cell → look second cell = look first cell)
        → ∀ cell, area cell → look (work second).2 cell = look (work first).2 cell

namespace Local

variable {σ κ γ β δ : Type} {kin : σ → Prop} {look : σ → κ → γ} {area other : κ → Prop}
  {work work' : σ → β × σ}

/-- Answering without a look at the state needs no area at all. -/
theorem pure (answer : β) : Local kin look area fun state => (answer, state) where
  stays := fun here => here
  outside := fun _ _ => rfl
  answer := fun _ _ _ => rfl
  inside := fun _ _ same => same

theorem congr (stays : Local kin look area work)
    (same : ∀ {state}, kin state → work' state = work state)
    : Local kin look area work' where
  stays := fun here => same here ▸ stays.stays here
  outside := fun here apart => same here ▸ stays.outside here apart
  answer := fun here there agree => same here ▸ same there ▸ stays.answer here there agree
  inside := fun here there agree => same here ▸ same there ▸ stays.inside here there agree

/-- Work that keeps to an area keeps to every larger one. -/
theorem widen (stays : Local kin look area work) (sub : ∀ {cell}, area cell → other cell)
    : Local kin look other work where
  stays := stays.stays
  outside := fun here apart => stays.outside here fun within => apart (sub within)
  answer := fun here there agree =>
    stays.answer here there fun cell within => agree cell (sub within)
  inside := by
    intro first second here there agree cell within
    by_cases inner : area cell
    · exact stays.inside here there (fun cell within => agree cell (sub within)) cell inner
    · rw [stays.outside here inner, stays.outside there inner, agree cell within]

/-- Work goes on within the area, in a way that may depend on what has been answered. -/
theorem bind (stays : Local kin look area work) (next : β → σ → δ × σ)
    (goes : ∀ {state}, kin state → Local kin look area (next (work state).1))
    : Local kin look area fun state => next (work state).1 (work state).2 where
  stays := fun here => (goes here).stays (stays.stays here)
  outside := fun here apart =>
    ((goes here).outside (stays.stays here) apart).trans (stays.outside here apart)
  answer := by
    intro first second here there agree
    rw [stays.answer here there agree]
    exact (goes here).answer (stays.stays here) (stays.stays there)
      (stays.inside here there agree)
  inside := by
    intro first second here there agree
    rw [stays.answer here there agree]
    exact (goes here).inside (stays.stays here) (stays.stays there)
      (stays.inside here there agree)

theorem map (stays : Local kin look area work) (f : β → δ)
    : Local kin look area fun state => (f (work state).1, (work state).2) :=
  stays.bind (fun answer state => (f answer, state)) fun _ => pure _

/-- Two pieces of work with areas apart answer the same in either order and leave the same state,
as long as states that look the same everywhere are the same.
-/
theorem commute {second : σ → δ × σ} (first_stays : Local kin look area work)
    (second_stays : Local kin look other second)
    (apart : ∀ {cell}, area cell → ¬other cell)
    (ext
      : ∀ {state state'},
          kin state
          → kin state'
          → (∀ cell, look state cell = look state' cell)
          → state = state')
    {state : σ} (here : kin state)
    : (second (work state).2).1 = (second state).1
      ∧ (work (second state).2).1 = (work state).1
      ∧ (second (work state).2).2 = (work (second state).2).2 := by
  have hfirst := first_stays.stays here
  have hsecond := second_stays.stays here
  have hunseen : ∀ cell, other cell → look (work state).2 cell = look state cell :=
    fun cell within => first_stays.outside here fun both => apart both within
  have hunseen' : ∀ cell, area cell → look (second state).2 cell = look state cell :=
    fun cell within => second_stays.outside here (apart within)
  refine ⟨second_stays.answer here hfirst hunseen, first_stays.answer here hsecond hunseen',
    ext (second_stays.stays hfirst) (first_stays.stays hsecond) fun cell => ?_⟩
  by_cases within : area cell
  · rw [second_stays.outside hfirst (apart within),
      first_stays.inside here hsecond hunseen' cell within]
  · by_cases within' : other cell
    · rw [second_stays.inside here hfirst hunseen cell within',
        first_stays.outside hsecond within]
    · rw [second_stays.outside hfirst within', first_stays.outside here within,
        first_stays.outside hsecond within, second_stays.outside here within']

end Local

-----------------------------------------------------------------------------------------
-- Work on the links of a fabric
-----------------------------------------------------------------------------------------

namespace Fabric

variable {α β : Type} {base fabric : Fabric α}

/-- On the fabrics that differ from `base` in the contents of links at most, work keeps to the links
of some names.
-/
abbrev Works (base : Fabric α) (names : Nat → Prop) (work : Fabric α → β × Fabric α) : Prop :=
  Local base.OnlyLinks (fun fabric name => fabric.links[name]?) names work

theorem OnlyLinks.ext {first second : Fabric α} (only : base.OnlyLinks first)
    (only' : base.OnlyLinks second)
    (same : ∀ name : Nat, first.links[name]? = second.links[name]?)
    : first = second := by
  obtain ⟨links, _, rfl⟩ := only
  obtain ⟨links', _, rfl⟩ := only'
  obtain rfl : links = links' := Array.ext_getElem? same
  rfl

theorem OnlyLinks.producerRow (only : base.OnlyLinks fabric) (producer : Nat)
    : fabric.producerRow producer = base.producerRow producer :=
  only.sameWiring.rows producer

theorem OnlyLinks.consumerRow (only : base.OnlyLinks fabric) (consumer : Nat)
    : fabric.consumerRow consumer = base.consumerRow consumer :=
  only.sameWiring.consumerRow consumer

theorem OnlyLinks.isRegistered (only : base.OnlyLinks fabric) (sender : Sender)
    : fabric.isRegistered sender = base.isRegistered sender := by
  obtain ⟨_, _, rfl⟩ := only
  rfl

/-- Work on a single link keeps to that link. -/
theorem works_of_link {work : Fabric α → β × Fabric α} {name : Nat} (missing : β)
    {answer : Link α → β} {change : Link α → Link α}
    (found
      : ∀ {fabric link},
          fabric.links[name]? = some link
          → work fabric = (answer link, fabric.setLink name (change link)))
    (gone : ∀ {fabric}, fabric.links[name]? = none → work fabric = (missing, fabric))
    : base.Works (· = name) work where
  stays := by
    intro fabric only
    cases here : fabric.links[name]? with
    | none => rwa [gone here]
    | some link =>
        rw [found here]
        exact only.trans ⟨_, Array.size_setIfInBounds, rfl⟩
  outside := by
    intro fabric other only apart
    cases here : fabric.links[name]? with
    | none => rw [gone here]
    | some link =>
        rw [found here]
        exact Array.getElem?_setIfInBounds_ne (Ne.symm apart)
  answer := by
    intro first second _ _ agree
    have hsame := agree name rfl
    cases here : first.links[name]? with
    | none => rw [gone here, gone (hsame.trans here)]
    | some link => rw [found here, found (hsame.trans here)]
  inside := by
    rintro first second _ _ agree name rfl
    have hsame := agree name rfl
    cases here : first.links[name]? with
    | none => rw [gone here, gone (hsame.trans here), here, hsame.trans here]
    | some link =>
        obtain ⟨within, _⟩ := Array.getElem?_eq_some_iff.mp here
        obtain ⟨within', _⟩ := Array.getElem?_eq_some_iff.mp (hsame.trans here)
        rw [found here, found (hsame.trans here), setLink, setLink,
          Array.getElem?_setIfInBounds_self_of_lt within,
          Array.getElem?_setIfInBounds_self_of_lt within']

theorem works_offer (base : Fabric α) (name : Nat) (value : α)
    : base.Works (· = name) fun fabric => fabric.offer name value := by
  refine works_of_link (.rejected value) (fun found => offer_of_link found value) ?_
  intro fabric gone
  rw [offer, takeOut_of_size_le _ (Array.getElem?_eq_none_iff.mp gone)]

theorem works_draw (base : Fabric α) (wire : Wire)
    : base.Works (· = wire.link) fun fabric => fabric.draw wire := by
  refine works_of_link ⟨none, []⟩ (fun found => draw_of_link wire found) ?_
  intro fabric gone
  rw [draw, takeOut_of_size_le _ (Array.getElem?_eq_none_iff.mp gone)]

variable {names : Nat → Prop}

/-- Goes on to other entries with a value that has been refused. -/
def offerRest (position : Nat) (rest : List Wire) : Offer α → Fabric α → PushAnswer α × Fabric α
  | .accepted, fabric => (.accepted position, fabric)
  | .rejected value, fabric => offerAlong rest fabric value

/-- Offers along a list of entries keep to the links of these, by induction on the list. -/
theorem works_offerAlong (base : Fabric α) {wires : List Wire}
    (named : ∀ wire ∈ wires, names wire.link) (value : α)
    : base.Works names fun fabric => offerAlong wires fabric value := by
  induction wires generalizing value with
  | nil => exact .pure _
  | cons wire rest ih =>
      obtain ⟨hname, hrest⟩ := List.forall_mem_cons.mp named
      have hoffer : base.Works names fun fabric => fabric.offer wire.link value :=
        (works_offer base wire.link value).widen fun here => here ▸ hname
      have hgoes (answer : Offer α) : base.Works names (offerRest wire.position rest answer) := by
        cases answer with
        | accepted => exact .pure _
        | rejected value => exact ih hrest value
      refine (hoffer.bind (offerRest wire.position rest) fun _ => hgoes _).congr ?_
      intro fabric _
      rcases hresult : fabric.offer wire.link value with ⟨_ | returned, next⟩ <;>
        simp only [offerAlong, offerRest, hresult]

/-- Goes on to other links only if nothing has been taken so far, and then adds what is discarded
there.
-/
def orElse (more : Fabric α → Intake α × Fabric α) (intake : Intake α) (fabric : Fabric α)
    : Intake α × Fabric α :=
  match intake.taken with
  | some _ => (intake, fabric)
  | none =>
      (⟨(more fabric).1.taken, intake.discarded ++ (more fabric).1.discarded⟩,
        (more fabric).2)

theorem works_orElse {more : Fabric α → Intake α × Fabric α} (works : base.Works names more)
    (intake : Intake α)
    : base.Works names (orElse more intake) := by
  obtain ⟨taken, discarded⟩ := intake
  cases taken with
  | some taken => exact .pure _
  | none =>
      exact works.map fun later =>
        (⟨later.taken, discarded ++ later.discarded⟩ : Intake α)

/-- Draws along a list of entries keep to the links of these, by induction on the list. -/
theorem works_drawAlong (base : Fabric α) {wires : List Wire}
    (named : ∀ wire ∈ wires, names wire.link)
    : base.Works names fun fabric => drawAlong wires fabric := by
  induction wires with
  | nil => exact .pure _
  | cons wire rest ih =>
      obtain ⟨hname, hrest⟩ := List.forall_mem_cons.mp named
      have hdraw : base.Works names fun fabric => fabric.draw wire :=
        (works_draw base wire).widen fun here => here ▸ hname
      refine (hdraw.bind (orElse (drawAlong rest)) fun _ => works_orElse (ih hrest) _).congr ?_
      intro fabric _
      rcases hresult : fabric.draw wire with ⟨⟨_ | taken, discarded⟩, next⟩ <;>
        simp only [drawAlong, orElse, hresult]

-----------------------------------------------------------------------------------------
-- Pushes and pops
-----------------------------------------------------------------------------------------

/-- The links that a push through a sender of a slot may reach: all of its row, or the one to the
consumer that is named.
-/
def Feeds (fabric : Fabric α) (producer : Nat) (consumer : Option Nat) (name : Nat) : Prop :=
  ∃ other, (consumer = none ∨ consumer = some other) ∧ fabric.name? producer other = some name

/-- The links that a pop of a consumer may reach: all of its row. -/
def Serves (fabric : Fabric α) (consumer : Nat) (name : Nat) : Prop :=
  ∃ producer, (fabric.consumerRow consumer).link? producer = some name

/-- A push keeps to the links that its sender may reach, registered or not. -/
theorem works_push (base : Fabric α) (sender : Sender) (consumer : Option Nat) (value : α)
    : base.Works (base.Feeds sender.slot consumer) fun fabric =>
        (((Writing.push ⟨fabric, sender⟩ consumer value).1,
            (Writing.push ⟨fabric, sender⟩ consumer value).2.sender),
          (Writing.push ⟨fabric, sender⟩ consumer value).2.fabric) := by
  cases registered : base.isRegistered sender with
  | false =>
      refine (Local.pure (PushAnswer.failed (.unregisteredPush sender.slot) value, sender)).congr ?_
      intro fabric only
      have houtdated := (only.isRegistered sender).trans registered
      cases consumer <;> simp [Writing.push, push, pushTo, houtdated]
  | true =>
      cases consumer with
      | none =>
          have hnamed : ∀ wire ∈ (base.producerRow sender.slot).sweep sender.cursor,
              base.Feeds sender.slot none wire.link :=
            fun wire member => ⟨wire.position, .inl rfl, Row.link?_of_mem_sweep member⟩
          refine ((works_offerAlong base hnamed value).map
            fun answer => (answer, sender.past answer)).congr ?_
          intro fabric only
          have hregistered := (only.isRegistered sender).trans registered
          simp only [Writing.push, push_of_registered hregistered, only.producerRow]
      | some consumer =>
          have hnamed
              : ∀ wire ∈ (base.name? sender.slot consumer).toList.map (Wire.mk consumer),
                base.Feeds sender.slot (some consumer) wire.link := by
            intro wire member
            obtain ⟨name, named, rfl⟩ := List.mem_map.mp member
            exact ⟨consumer, .inr rfl, Option.mem_toList.mp named⟩
          refine ((works_offerAlong base hnamed value).map (·, sender)).congr ?_
          intro fabric only
          have hregistered := (only.isRegistered sender).trans registered
          simp only [Writing.push, pushTo_of_registered hregistered, only.sameWiring.name?]

/-- The receiver after a scan, given what it took in. -/
def turnTo (receiver : Receiver) (intake : Intake α) : Receiver :=
  match intake.taken with
  | some taken => { receiver with cursor := taken.producer + 1, streak := 1 }
  | none => { receiver with streak := 0 }

theorem works_scan (base : Fabric α) (receiver : Receiver)
    : base.Works (base.Serves receiver.slot) fun fabric =>
        (((fabric.scan receiver).1, (fabric.scan receiver).2.1), (fabric.scan receiver).2.2) := by
  have hnamed : ∀ wire ∈ (base.consumerRow receiver.slot).sweep receiver.cursor,
      base.Serves receiver.slot wire.link :=
    fun wire member => ⟨wire.position, Row.link?_of_mem_sweep member⟩
  refine ((works_drawAlong base hnamed).map fun intake => (intake, turnTo receiver intake)).congr ?_
  intro fabric only
  simp only [scan, only.consumerRow, drawSweep_eq]
  rcases drawAlong ((base.consumerRow receiver.slot).sweep receiver.cursor) fabric
    with ⟨⟨_ | _, _⟩, next⟩ <;> rfl

/-- A pop goes on with a scan unless the streak has gone on. -/
def popRest (receiver : Receiver) (intake : Intake α) (fabric : Fabric α)
    : (Intake α × Receiver) × Fabric α :=
  match intake.taken with
  | some _ => ((intake, { receiver with streak := receiver.streak + 1 }), fabric)
  | none =>
      let (later, receiver, fabric) := fabric.scan { receiver with streak := 0 }
      ((⟨later.taken, intake.discarded ++ later.discarded⟩, receiver), fabric)

/-- A pop keeps to the links of its consumer. -/
theorem works_pop (base : Fabric α) (receiver : Receiver)
    : base.Works (base.Serves receiver.slot) fun fabric =>
        (((fabric.pop receiver).1, (fabric.pop receiver).2.1), (fabric.pop receiver).2.2) := by
  have hnamed : ∀ wire ∈ base.stickyWire receiver, base.Serves receiver.slot wire.link :=
    fun wire member => ⟨wire.position, link?_of_mem_stickyWire member⟩
  have hgoes (intake : Intake α)
      : base.Works (base.Serves receiver.slot) (popRest receiver intake) := by
    obtain ⟨taken, discarded⟩ := intake
    cases taken with
    | some taken => exact .pure _
    | none =>
        exact (works_scan base { receiver with streak := 0 }).map fun later =>
          ((⟨later.1.taken, discarded ++ later.1.discarded⟩ : Intake α), later.2)
  refine ((works_drawAlong base hnamed).bind (popRest receiver) fun _ => hgoes _).congr ?_
  intro fabric only
  have hsticky : fabric.stickyWire receiver = base.stickyWire receiver := by
    simp only [stickyWire, only.consumerRow]
  simp only [pop, hsticky]
  rcases drawAlong (base.stickyWire receiver) fabric with ⟨⟨_ | _, _⟩, next⟩ <;> rfl

end Fabric

end Crossbar
