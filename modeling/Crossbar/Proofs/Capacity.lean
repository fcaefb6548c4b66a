import Crossbar.Proofs.Completeness

/-! Every link of a fabric has room for as many values as the configuration of the fabric says,
however it was worked on. So a link that holds nothing takes that many pushes before one is handed
back.
-/

namespace Crossbar

variable {α : Type}

namespace Fabric

/-- All links have the capacity that the configuration gives them. -/
def Uniform (fabric : Fabric α) : Prop :=
  ∀ link ∈ fabric.links, link.ring.capacity = fabric.config.channelCapacity

variable {fabric : Fabric α}

theorem uniform_bare (id : Nat) (shape : Shape) (config : Config)
    : (bare id shape config : Fabric α).Uniform :=
  fun _ member => absurd member (Array.not_mem_empty _)

/-- The link of a pair is one of those in the store. -/
theorem Uniform.link? (uniform : fabric.Uniform) {producer consumer : Nat} {link : Link α}
    (found : fabric.link? producer consumer = some link)
    : link.ring.capacity = fabric.config.channelCapacity := by
  obtain ⟨_, _, hplace⟩ := Option.bind_eq_some_iff.mp found
  exact uniform link (Array.mem_of_getElem? hplace)

/-- A link that replaces one of the store has to have the same capacity. -/
theorem Uniform.replace (uniform : fabric.Uniform) (name : Nat) {link : Link α}
    (same : link.ring.capacity = fabric.config.channelCapacity)
    : (fabric.setLink name link).Uniform := by
  intro other member
  rcases Array.mem_or_eq_of_mem_setIfInBounds member with hold | rfl
  · exact uniform other hold
  · exact same

/-- A link that has been worked on has the capacity it had. -/
theorem Uniform.worked (uniform : fabric.Uniform) {name : Nat} {link worked : Link α}
    (found : fabric.links[name]? = some link)
    (kept : worked.ring.capacity = link.ring.capacity)
    : (fabric.setLink name worked).Uniform :=
  uniform.replace name (kept.trans (uniform link (Array.mem_of_getElem? found)))

/-- New links are made as the configuration says. -/
theorem Uniform.extend (uniform : fabric.Uniform) (count : Nat) {after : Fabric α}
    (links : after.links = fabric.links ++ Array.replicate count fabric.freshLink)
    (config : after.config = fabric.config)
    : after.Uniform := by
  intro link member
  rw [links] at member
  rw [config]
  rcases Array.mem_append.mp member with hold | hnew
  · exact uniform link hold
  · obtain ⟨_, rfl⟩ := Array.mem_replicate.mp hnew
    rfl

/-- Only the store and the configuration matter. -/
theorem Uniform.of_links (uniform : fabric.Uniform) {after : Fabric α}
    (links : after.links = fabric.links) (config : after.config = fabric.config)
    : after.Uniform := by
  intro link member
  rw [links] at member
  rw [config]
  exact uniform link member

-----------------------------------------------------------------------------------------
-- Work on links
-----------------------------------------------------------------------------------------

theorem Uniform.offer (uniform : fabric.Uniform) (name : Nat) (value : α)
    : (fabric.offer name value).2.Uniform := by
  cases found : fabric.links[name]? with
  | some link =>
      rw [offer_of_link found]
      exact uniform.worked found (Ring.capacity_push link.ring value)
  | none =>
      have hgap : fabric.links.size ≤ name := Array.getElem?_eq_none_iff.mp found
      simpa only [Fabric.offer, takeOut_of_size_le _ hgap] using uniform

/-- Offers along a list of entries, by induction on the list. -/
theorem Uniform.offerAlong (uniform : fabric.Uniform) (wires : List Wire) (value : α)
    : (offerAlong wires fabric value).2.Uniform := by
  induction wires generalizing fabric value with
  | nil => exact uniform
  | cons wire rest ih =>
      have hoffer := uniform.offer wire.link value
      rcases hresult : fabric.offer wire.link value with ⟨_ | returned, next⟩
      · simpa only [Fabric.offerAlong, hresult] using hoffer
      · simp only [Fabric.offerAlong, hresult] at hoffer ⊢
        exact ih hoffer returned

theorem Uniform.draw (uniform : fabric.Uniform) (wire : Wire)
    : (fabric.draw wire).2.Uniform := by
  cases found : fabric.links[wire.link]? with
  | some link =>
      rw [draw_of_link wire found]
      exact uniform.worked found link.capacity_pop
  | none =>
      have hgap : fabric.links.size ≤ wire.link := Array.getElem?_eq_none_iff.mp found
      simpa only [Fabric.draw, takeOut_of_size_le _ hgap] using uniform

/-- Draws along a list of entries, by induction on the list. -/
theorem Uniform.drawAlong (uniform : fabric.Uniform) (wires : List Wire)
    : (Fabric.drawAlong wires fabric).2.Uniform := by
  induction wires generalizing fabric with
  | nil => exact uniform
  | cons wire rest ih =>
      have hdraw := uniform.draw wire
      rcases hresult : fabric.draw wire with ⟨⟨_ | taken, discarded⟩, next⟩
      · simp only [Fabric.drawAlong, hresult] at hdraw ⊢
        exact ih hdraw
      · simpa only [Fabric.drawAlong, hresult] using hdraw

theorem Uniform.retireLink (uniform : fabric.Uniform) (name : Nat)
    : (fabric.retireLink name).2.Uniform := by
  cases found : fabric.links[name]? with
  | some link =>
      rw [retireLink_of_link found]
      exact uniform.worked found rfl
  | none =>
      have hgap : fabric.links.size ≤ name := Array.getElem?_eq_none_iff.mp found
      simpa only [Fabric.retireLink, takeOut_of_size_le _ hgap] using uniform

/-- Retiring along a list of entries, by induction on the list. -/
theorem Uniform.retireAlong (uniform : fabric.Uniform) (wires : List Wire)
    : (Fabric.retireAlong wires fabric).2.Uniform := by
  induction wires generalizing fabric with
  | nil => exact uniform
  | cons wire rest ih => exact ih (uniform.retireLink wire.link)

-----------------------------------------------------------------------------------------
-- Operations of a fabric
-----------------------------------------------------------------------------------------

theorem Uniform.push (uniform : fabric.Uniform) (sender : Sender) (value : α)
    : (fabric.push sender value).2.2.Uniform := by
  have hoffers :=
    uniform.offerAlong ((fabric.producerRow sender.slot).sweep sender.cursor) value
  rw [Fabric.push, offerSweep_eq]
  split
  · split
    · next hresult => simpa only [hresult] using hoffers
    · next hresult => simpa only [hresult] using hoffers
  · exact uniform

theorem Uniform.pushTo (uniform : fabric.Uniform) (sender : Sender) (consumer : Nat) (value : α)
    : (fabric.pushTo sender consumer value).2.Uniform := by
  rw [Fabric.pushTo]
  split
  · split
    · exact uniform
    · next name _ =>
        have hoffer := uniform.offer name value
        split
        · next hresult => simpa only [hresult] using hoffer
        · next hresult => simpa only [hresult] using hoffer
  · exact uniform

theorem Uniform.scan (uniform : fabric.Uniform) (receiver : Receiver)
    : (fabric.scan receiver).2.2.Uniform := by
  have hdraws :=
    uniform.drawAlong ((fabric.consumerRow receiver.slot).sweep receiver.cursor)
  rw [Fabric.scan, drawSweep_eq]
  split
  · next hresult => simpa only [hresult] using hdraws
  · next hresult => simpa only [hresult] using hdraws

theorem Uniform.pop (uniform : fabric.Uniform) (receiver : Receiver)
    : (fabric.pop receiver).2.2.Uniform := by
  have hsticky := uniform.drawAlong (fabric.stickyWire receiver)
  rw [Fabric.pop]
  split
  · next hresult => simpa only [hresult] using hsticky
  · next next hresult =>
      simp only [hresult] at hsticky
      exact hsticky.scan _

theorem Uniform.reclaim (uniform : fabric.Uniform) (producer : Nat) (slot : ProducerSlot)
    : (fabric.reclaim producer slot).fabric.Uniform := by
  simp only [Fabric.reclaim]
  split
  · exact (uniform.retireAlong slot.row.front).of_links rfl rfl
  · exact uniform.of_links rfl rfl

theorem Uniform.registerProducer (uniform : fabric.Uniform)
    : fabric.registerProducer.fabric.Uniform := by
  obtain ⟨freed, hcases⟩ := registerProducer_cases fabric
  have hfreed : { fabric with freed := freed }.Uniform := uniform.of_links rfl rfl
  rcases hcases with hfresh | ⟨producer, slot, _, hreclaim⟩
  · rw [hfresh]
    have henrolled := { fabric with freed := freed }.freshEnrolled
    generalize { fabric with freed := freed }.registerFresh = enrolled at henrolled
    cases henrolled with
    | refused => exact hfreed
    | failed => exact hfreed.of_links rfl rfl
    | issued => exact hfreed.extend _ rfl rfl
  · rw [hreclaim]
    exact hfreed.reclaim producer slot

theorem ConsumerEnrolled.uniform {enrolled : Enrolment (Registration Receiver) α}
    (enrols : fabric.ConsumerEnrolled enrolled) (uniform : fabric.Uniform)
    : enrolled.fabric.Uniform := by
  cases enrols with
  | refused => exact uniform
  | failed => exact uniform.of_links rfl rfl
  | issued => exact uniform.extend _ rfl rfl

theorem Uniform.unregister (uniform : fabric.Uniform) (sender : Sender)
    : (fabric.unregister sender).fabric.Uniform := by
  obtain ⟨hsame, hlinks⟩ := unregister_sameWiring fabric sender
  exact uniform.of_links hlinks hsame.config

end Fabric

namespace Session

/-- All links of all fabrics have the capacity that their configuration gives them. -/
def Uniform (session : Session α) : Prop :=
  ∀ number fabric, session.fabric? number = some fabric → fabric.Uniform

variable {session : Session α} {operation : Operation α}

theorem uniform_start (shape : Shape) (configs : List Config)
    : (start shape configs : Session α).Uniform := by
  intro number fabric found
  obtain ⟨config, _, rfl⟩ := bare_of_start found
  exact Fabric.uniform_bare number shape config

/-- Work on one fabric leaves all others as they are. -/
theorem Uniform.setFabric (uniform : session.Uniform) {number : Nat} {fabric next : Fabric α}
    (found : session.fabric? number = some fabric) (worked : next.Uniform)
    : (session.setFabric number next).Uniform := by
  intro other after hafter
  rw [fabric?_setFabric found] at hafter
  split at hafter
  · obtain rfl := Option.some.inj hafter
    exact worked
  · exact uniform other after hafter

theorem Uniform.transition {outcome : Outcome α} (uniform : session.Uniform)
    (transition : session.Transition operation outcome)
    : outcome.session.Uniform := by
  cases transition with
  | missed | letGoSender | letGoReceiver => exact uniform
  | @producer number fabric found =>
      have hnext := uniform.setFabric found (uniform number fabric found).registerProducer
      intro other after hafter
      rw [Outcome.logged, fabric?_issueSender] at hafter
      exact hnext other after hafter
  | @consumer number fabric found =>
      have hnext := uniform.setFabric found
        (fabric.consumerEnrolled.uniform (uniform number fabric found))
      intro other after hafter
      rw [Outcome.logged, fabric?_issueReceiver] at hafter
      exact hnext other after hafter
  | @unregistered _ number _ sender fabric _ _ found =>
      exact uniform.setFabric found ((uniform number fabric found).unregister sender)
  | @pushed place consumer value sender fabric _ found =>
      have hkept := congrArg Badge.fabric (push_badge ⟨fabric, sender⟩ consumer value)
      have hworked : (Writing.push ⟨fabric, sender⟩ consumer value).2.fabric.Uniform := by
        cases consumer with
        | none => exact (uniform _ fabric found).push sender value
        | some consumer => exact (uniform _ fabric found).pushTo sender consumer value
      intro other after hafter
      exact uniform.setFabric found hworked other after
        ((fabric?_keepWriting session place hkept other).symm.trans hafter)
  | @popped place receiver fabric _ found =>
      have hkept := congrArg Seat.fabric (pop_seat ⟨fabric, receiver, #[]⟩)
      intro other after hafter
      exact uniform.setFabric found ((uniform _ fabric found).pop receiver) other after
        ((fabric?_keepReading session place hkept other).symm.trans hafter)

/-- A run keeps the capacity of every link, by induction over its operations. -/
theorem Uniform.after (uniform : session.Uniform) (now : Nat) (operations : List (Operation α))
    : (session.after now operations).Uniform := by
  induction operations generalizing session with
  | nil => exact uniform
  | cons operation rest ih =>
      exact ih (uniform.transition (step_transition now session operation))

end Session

end Crossbar
