import Crossbar.Proofs.LinkOrder

/-! If reissues drain, they keep the occupants of a slot apart. A value is returned by a pop if its
slot has not been issued again since it was accepted, and thrown away if it has, as long as fewer
than 2^63 values leave a link between one reissue of its slot and the next. Each reissue reports
how many values it cuts off.
-/

namespace Crossbar

variable {α : Type}

namespace Motion

/-- How many of the values that left the link did so after the slot was last issued again. -/
def drawnSince : List (Motion α) → Nat
  | [] => 0
  | .delivered _ :: rest | .discarded _ :: rest =>
      if rest.any isReissue then drawnSince rest else drawnSince rest + 1
  | _ :: rest => drawnSince rest

/-- Without a reissue every value that left counts. -/
theorem drawnSince_of_quiet {motions : List (Motion α)} (quiet : motions.any isReissue = false)
    : drawnSince motions = (departed motions).length := by
  induction motions with
  | nil => rfl
  | cons motion rest ih =>
      simp only [List.any_cons, Bool.or_eq_false_iff] at quiet
      cases motion with
      | accepted value => exact ih quiet.2
      | delivered value | discarded value =>
          rw [drawnSince, quiet.2, if_neg Bool.false_ne_true, ih quiet.2]
          rfl
      | reissued => cases quiet.1

/-- Only the values count that left after the last reissue, by induction over what came before. -/
theorem drawnSince_append_reissued (before : List (Motion α)) {after : List (Motion α)}
    (quiet : after.any isReissue = false)
    : drawnSince (before ++ .reissued :: after) = (departed after).length := by
  induction before with
  | nil =>
      change drawnSince after = _
      exact drawnSince_of_quiet quiet
  | cons motion rest ih =>
      cases motion with
      | accepted | reissued => exact ih
      | delivered value | discarded value =>
          have hlater : (rest ++ Motion.reissued :: after).any isReissue = true := by
            rw [List.any_append, List.any_cons]
            exact Bool.or_true _
          rw [List.cons_append, drawnSince, hlater, if_pos rfl, ih]

/-- No more values count than there are motions. -/
theorem drawnSince_le_length (motions : List (Motion α)) : drawnSince motions ≤ motions.length := by
  induction motions with
  | nil => exact Nat.le_refl 0
  | cons motion rest ih =>
      cases motion with
      | accepted value | reissued => exact Nat.le_succ_of_le ih
      | delivered value | discarded value =>
          rw [drawnSince, List.length_cons]
          split <;> omega

/-- A history has no reissue in it, or it has a last one. -/
theorem quiet_or_last_reissue (motions : List (Motion α))
    : motions.any isReissue = false
      ∨ ∃ before after,
          motions = before ++ .reissued :: after ∧ after.any isReissue = false := by
  induction motions with
  | nil => exact .inl rfl
  | cons motion rest ih =>
      rcases ih with hquiet | ⟨before, after, rfl, hquiet⟩
      · cases motion with
        | accepted value | delivered value | discarded value => exact .inl hquiet
        | reissued => exact .inr ⟨[], rest, rfl, hquiet⟩
      · exact .inr ⟨motion :: before, after, rfl, hquiet⟩

/-- As long as few values have left since the last reissue, the next one is thrown away exactly if
it is among those that the reissue overtook. The word of the reader's total is then within half the
range of the word of the mark.
-/
theorem discardsNext_iff {motions : List (Motion α)} (ruled : Ruled true motions)
    (few : drawnSince motions < 0x8000000000000000)
    : discardsNext true motions = true ↔ (departed motions).length < overtaken motions := by
  rw [discardsNext, staleBound, if_pos rfl]
  rcases quiet_or_last_reissue motions with hquiet | ⟨before, after, rfl, hquiet⟩
  · rw [drawnSince_of_quiet hquiet] at few
    rw [overtaken_of_quiet hquiet]
    apply Counter.isBehind_ofNat <;> omega
  · -- The mark lies ahead by what was waiting at the last reissue, less what has left since.
    rw [drawnSince_append_reissued before hquiet] at few
    obtain ⟨hle, hclose⟩ := ruled.left.counts
    have hlimit : Ring.allocationLimit = 0x4000000000000000 := rfl
    have hovertaken : overtaken (before ++ .reissued :: after) = (entered before).length := by
      rw [← List.singleton_append, ← List.append_assoc, overtaken_append_of_quiet _ hquiet,
        overtaken_append_reissued]
    have hdeparted : (departed (before ++ .reissued :: after)).length
        = (departed before).length + (departed after).length := by
      rw [departed_append, List.length_append]
      rfl
    rw [hovertaken, hdeparted]
    apply Counter.isBehind_ofNat <;> omega

/-- Each value that leaves was accepted as the value of the same number. It is returned if no
reissue came between the two, and thrown away if one did.
-/
theorem Ruled.attributed {motions : List (Motion α)} (ruled : Ruled true motions)
    (few
      : ∀ before after, motions = before ++ after → drawnSince before < 0x8000000000000000)
    {before after : List (Motion α)} {motion : Motion α} {value : α}
    (split : motions = before ++ motion :: after) (left : motion.departed? = some value)
    : ∃ earlier between,
        before = earlier ++ .accepted value :: between
        ∧ (entered earlier).length = (departed before).length
        ∧ (motion = .delivered value ∧ .reissued ∉ between
          ∨ motion = .discarded value ∧ .reissued ∈ between) := by
  have hdue := ruled before motion after split
  have hbefore : Ruled true before := by
    rw [split] at ruled
    exact ruled.left
  have hiff := discardsNext_iff hbefore (few before (motion :: after) split)
  cases motion with
  | accepted | reissued => cases left
  | delivered taken =>
      obtain rfl : taken = value := Option.some.inj left
      obtain ⟨earlier, between, rfl, hnumber, hreissue⟩ := split_at_entered hdue.1
      refine ⟨earlier, between, rfl, hnumber, .inl ⟨rfl, ?_⟩⟩
      rw [← hreissue, ← hiff, hdue.2]
      exact Bool.false_ne_true
  | discarded thrown =>
      obtain rfl : thrown = value := Option.some.inj left
      obtain ⟨earlier, between, rfl, hnumber, hreissue⟩ := split_at_entered hdue.1
      refine ⟨earlier, between, rfl, hnumber, .inr ⟨rfl, ?_⟩⟩
      rw [← hreissue, ← hiff]
      exact hdue.2

end Motion

open Motion
open Passage (onLink)

/-- A registration that issues a slot again reports all the values held in the links of the slot, if
reissues drain.
-/
theorem Fabric.Follows.registerProducer_log {config : Config} {fabric : Fabric α}
    {history : List (Passage α)} (follows : fabric.Follows config history)
    (drains : config.drainOnReclaim = true) {producer : Nat}
    (reissue : .producerReclaimed producer ∈ fabric.registerProducer.log)
    : fabric.registerProducer.log = Fabric.reissueLog producer (fabric.heldFrom producer) := by
  obtain ⟨freed, hfresh | ⟨owner, slot, found, hreclaim⟩⟩ := Fabric.registerProducer_cases fabric
  · rw [hfresh] at reissue
    exact absurd reissue (Fabric.registerFresh_log _ producer)
  · -- Taking a slot off the list of freed ones changes nothing that the report counts.
    have hfreed : Fabric.Follows config { fabric with freed := freed } history :=
      follows.of_links ⟨rfl, rfl, rfl, rfl, fun _ => rfl, rfl, rfl⟩ (fun _ _ => rfl)
    obtain ⟨_, _, hlog⟩ := hfreed.wired.reclaim found fun _ _ hlink => hfreed.sound hlink
    have hdrains : fabric.config.drainOnReclaim = true := by
      rw [follows.config_eq]
      exact drains
    rw [if_pos hdrains] at hlog
    rw [hreclaim, hlog] at reissue ⊢
    obtain rfl := (Fabric.mem_reissueLog _ _ _).mp reissue
    rfl

namespace Session

/-- A history in which fewer than 2^63 values leave each link between one reissue of its slot and
the next, and after the last one.
-/
def FewDrawn (history : List (Passage α)) : Prop :=
  ∀ producer consumer before after,
    onLink producer consumer history = before ++ after
    → drawnSince before < 0x8000000000000000

/-- In a history of fewer than 2^63 passages few values leave each link. -/
theorem fewDrawn_of_short {history : List (Passage α)}
    (short : history.length < 0x8000000000000000)
    : FewDrawn history := by
  intro producer consumer before after split
  have hlink : (onLink producer consumer history).length ≤ history.length :=
    List.length_filterMap_le _ _
  have hdrawn := drawnSince_le_length before
  rw [split, List.length_append] at hlink
  omega

/-- Draining reissues attribute every value to one occupancy of its slot, over every run in which
few values leave a link between reissues. A value that leaves a link was accepted there before. If
it was returned, the slot was not issued again in between, and if it was discarded, the slot was. A
reissue reports exactly the values held in the links of its slot at that moment, stale ones
included.
-/
theorem departures_attributed (shape : Shape) (configs : List Config) (now : Nat)
    (operations : List (Operation α)) {number : Nat} {config : Config}
    (configured : configs[number]? = some config) (drains : config.drainOnReclaim = true)
    (few : FewDrawn (history now number operations (start shape configs)))
    : (∀ producer consumer before motion after value,
        onLink producer consumer (history now number operations (start shape configs))
            = before ++ motion :: after
        → motion.departed? = some value
        → ∃ earlier between,
            before = earlier ++ .accepted value :: between
            ∧ (entered earlier).length = (departed before).length
            ∧ (motion = .delivered value ∧ .reissued ∉ between
              ∨ motion = .discarded value ∧ .reissued ∈ between))
      ∧ ∀ fabric producer,
          ((start shape configs).after now operations).fabric? number = some fabric
          → .producerReclaimed producer
              ∈ (((start shape configs).after now operations).step now
                  (.registerProducer number)).log
          → (((start shape configs).after now operations).step now (.registerProducer number)).log
            = Fabric.reissueLog producer (fabric.heldFrom producer) := by
  have hfollows := follows_after_start shape configs now operations
  constructor
  · intro producer consumer before motion after value split left
    cases hfabric : ((start shape configs).after now operations).fabric? number with
    | none =>
        rw [hfollows.onLink_of_absent hfabric] at split
        simp at split
    | some fabric =>
        obtain ⟨config', hconfig, hf⟩ := hfollows.fabric hfabric
        obtain rfl : config = config' := Option.some.inj (configured.symm.trans hconfig)
        have hruled := hf.ruled producer consumer
        rw [drains] at hruled
        exact hruled.attributed (few producer consumer) split left
  · intro fabric producer hfabric reissue
    obtain ⟨config', hconfig, hf⟩ := hfollows.fabric hfabric
    obtain rfl : config = config' := Option.some.inj (configured.symm.trans hconfig)
    rcases registerProducer_cases ((start shape configs).after now operations) number
      with ⟨hgap, _⟩ | ⟨found, hfound, enrols⟩
    · rw [hfabric] at hgap
      cases hgap
    · obtain rfl : fabric = found := Option.some.inj (hfabric.symm.trans hfound)
      rw [step, enrols.log] at reissue ⊢
      exact hf.registerProducer_log drains reissue

/-- Three occupants of one slot push before anything is popped, and the third one's first value is
popped at last.
-/
def generations : List (Operation Nat) :=
  [.registerConsumer 0, .registerProducer 0, .push 0 1, .push 0 2, .unregister 0,
    .registerProducer 0, .push 1 3, .unregister 1, .registerProducer 0, .push 2 4, .push 2 5,
    .pop 0, .unregister 2]

/-- The value of the second occupant is discarded behind those of the first, because the slot was
issued again after it was accepted, and the next reissue reports the one value that is left.
-/
theorem departures_attributed_generations
    : FewDrawn (history 0 0 generations (start ⟨1, 1⟩ [⟨8, true⟩]))
      ∧ (∃ earlier between,
          [.accepted 1, .accepted 2, .reissued, .accepted 3, .reissued, .accepted 4, .accepted 5,
            .discarded 1, .discarded 2] = earlier ++ .accepted 3 :: between
          ∧ (entered earlier).length = 2
          ∧ (Motion.discarded 3 = .delivered 3 ∧ .reissued ∉ between
            ∨ Motion.discarded 3 = .discarded 3 ∧ .reissued ∈ between))
      ∧ (((start ⟨1, 1⟩ [⟨8, true⟩]).after 0 generations).step 0 (.registerProducer 0)).log
        = Fabric.reissueLog 0 1 := by
  have hfew : FewDrawn (history 0 0 generations (start ⟨1, 1⟩ [⟨8, true⟩])) :=
    fewDrawn_of_short (by decide)
  obtain ⟨hparts, hlog⟩ := departures_attributed ⟨1, 1⟩ [⟨8, true⟩] 0 generations rfl rfl hfew
  refine ⟨hfew, hparts 0 0 _ (.discarded 3) [.delivered 4] 3 (by decide) rfl, ?_⟩
  exact hlog _ 0 rfl (by decide)

end Session

end Crossbar
