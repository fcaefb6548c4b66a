import Mathlib.Algebra.BigOperators.Group.Finset.Sigma
import Mathlib.Algebra.Order.Group.Multiset
import Crossbar.Proofs.LinkOrder

/-! What a fabric holds altogether. The values that entered it are those that left it and those in
its links, counted with multiplicity, and a fabric that is torn down gives up the contents of its
links, consumer by consumer and within that producer slot by producer slot.
-/

namespace Crossbar

variable {α : Type}

namespace Passage

/-- The pair of slots whose link a value passes. -/
def place? : Passage α → Option (Nat × Nat)
  | .accepted producer consumer _ | .delivered producer consumer _
  | .discarded producer consumer _ => some (producer, consumer)
  | .reissued _ => none

def accepted? : Passage α → Option α
  | .accepted _ _ value => some value
  | _ => none

def departed? : Passage α → Option α
  | .delivered _ _ value | .discarded _ _ value => some value
  | _ => none

/-- All values accepted into links of the fabric, in order. -/
def entered (history : List (Passage α)) : List α :=
  history.filterMap accepted?

/-- All values that left links of the fabric, in order. -/
def departed (history : List (Passage α)) : List α :=
  history.filterMap departed?

@[simp] theorem entered_append (history more : List (Passage α))
    : entered (history ++ more) = entered history ++ entered more :=
  List.filterMap_append

@[simp] theorem departed_append (history more : List (Passage α))
    : departed (history ++ more) = departed history ++ departed more :=
  List.filterMap_append

/-- What is read off the passages of a history is read off pair by pair, if each value belongs to
one of the pairs summed over.
-/
theorem sum_filterMap_place {readOff : Passage α → Option α}
    (placed : ∀ passage, place? passage = none → readOff passage = none)
    {pairs : Finset (Nat × Nat)} {history : List (Passage α)}
    (within : ∀ passage ∈ history, ∀ pair, place? passage = some pair → pair ∈ pairs)
    : ∑ pair ∈ pairs,
          (history.filterMap (fun passage =>
            if place? passage = some pair then readOff passage else none) : Multiset α)
        = (history.filterMap readOff : Multiset α) := by
  induction history with
  | nil => simp
  | cons passage rest ih =>
      have hrest := ih fun next member => within next (List.mem_cons_of_mem _ member)
      have hfirst
          : ∑ pair ∈ pairs,
                ((if place? passage = some pair then readOff passage else none).toList
                  : Multiset α)
              = ((readOff passage).toList : Multiset α) := by
        cases hplace : place? passage with
        | none => simp [placed passage hplace]
        | some own =>
            -- Only the passage's own pair contributes to the sum.
            have hmember := within passage List.mem_cons_self own hplace
            rw [Finset.sum_eq_single_of_mem own hmember]
            · rw [if_pos rfl]
            · intro other _ hother
              rw [if_neg fun h => hother (Option.some.inj h).symm]
              rfl
      simp only [List.filterMap_eq_flatMap_toList, List.flatMap_cons, ← Multiset.coe_add,
        Finset.sum_add_distrib] at hrest ⊢
      rw [hfirst, hrest]

/-- What is read off the passages of a history is read off the histories of the links. -/
theorem filterMap_eq_sum_onLink {readOff : Passage α → Option α} {readHere : Motion α → Option α}
    (reads
      : ∀ passage (pair : Nat × Nat),
          (motion? pair.1 pair.2 passage).bind readHere
            = if place? passage = some pair then readOff passage else none)
    (placed : ∀ passage, place? passage = none → readOff passage = none)
    {pairs : Finset (Nat × Nat)} {history : List (Passage α)}
    (within : ∀ passage ∈ history, ∀ pair, place? passage = some pair → pair ∈ pairs)
    : (history.filterMap readOff : Multiset α)
        = ∑ pair ∈ pairs, ((onLink pair.1 pair.2 history).filterMap readHere : Multiset α) := by
  rw [← sum_filterMap_place placed within]
  apply Finset.sum_congr rfl
  intro pair _
  rw [onLink, List.filterMap_filterMap]
  simp only [reads]

/-- The values that entered a fabric are those that entered its links. -/
theorem entered_eq_sum {pairs : Finset (Nat × Nat)} {history : List (Passage α)}
    (within : ∀ passage ∈ history, ∀ pair, place? passage = some pair → pair ∈ pairs)
    : (entered history : Multiset α)
        = ∑ pair ∈ pairs, (Motion.entered (onLink pair.1 pair.2 history) : Multiset α) := by
  apply filterMap_eq_sum_onLink _ _ within
  · intro passage pair
    cases passage <;> simp only [motion?, place?, accepted?, Option.some.injEq, Prod.ext_iff] <;>
      split <;> rfl
  · intro passage hplace
    cases passage <;> first | rfl | cases hplace

/-- The values that left a fabric are those that left its links. -/
theorem departed_eq_sum {pairs : Finset (Nat × Nat)} {history : List (Passage α)}
    (within : ∀ passage ∈ history, ∀ pair, place? passage = some pair → pair ∈ pairs)
    : (departed history : Multiset α)
        = ∑ pair ∈ pairs, (Motion.departed (onLink pair.1 pair.2 history) : Multiset α) := by
  apply filterMap_eq_sum_onLink _ _ within
  · intro passage pair
    cases passage <;> simp only [motion?, place?, departed?, Option.some.injEq, Prod.ext_iff] <;>
      split <;> rfl
  · intro passage hplace
    cases passage <;> first | rfl | cases hplace

end Passage

namespace Fabric

open Passage

/-- All pairs of a producer slot and a consumer slot. -/
def pairs (fabric : Fabric α) : Finset (Nat × Nat) :=
  Finset.range fabric.producerCount ×ˢ Finset.range fabric.consumerCount

/-- Everything that passed a link passed one of the pairs that there are. -/
theorem Follows.mem_pairs {config : Config} {fabric : Fabric α} {history : List (Passage α)}
    (follows : fabric.Follows config history) {passage : Passage α} (member : passage ∈ history)
    {pair : Nat × Nat} (placed : place? passage = some pair)
    : pair ∈ fabric.pairs := by
  obtain ⟨producer, consumer⟩ := pair
  have hlinked : (fabric.link? producer consumer).isSome := by
    rw [Option.isSome_iff_ne_none]
    intro gap
    -- Nothing but reissues could have happened to a pair without a link.
    have hmotion {motion : Motion α} (means : motion? producer consumer passage = some motion)
        : motion = .reissued :=
      follows.untouched gap motion (List.mem_filterMap.mpr ⟨passage, member, means⟩)
    cases passage with
    | reissued producer' => cases placed
    | accepted producer' consumer' value | delivered producer' consumer' value
    | discarded producer' consumer' value =>
        obtain ⟨rfl, rfl⟩ := Prod.mk.inj (Option.some.inj placed)
        cases hmotion (if_pos ⟨rfl, rfl⟩)
  rw [follows.wired.link?_isSome] at hlinked
  exact Finset.mem_product.mpr
    ⟨Finset.mem_range.mpr hlinked.1, Finset.mem_range.mpr hlinked.2⟩

/-- What entered a fabric has left it or is held in one of its links. -/
theorem Follows.entered_eq_departed_add_held {config : Config} {fabric : Fabric α}
    {history : List (Passage α)} (follows : fabric.Follows config history)
    : (entered history : Multiset α)
        = departed history + ∑ pair ∈ fabric.pairs, (fabric.held pair.1 pair.2 : Multiset α) := by
  have hwithin : ∀ passage ∈ history, ∀ pair, place? passage = some pair → pair ∈ fabric.pairs :=
    fun _ member _ placed => follows.mem_pairs member placed
  rw [entered_eq_sum hwithin, departed_eq_sum hwithin, ← Finset.sum_add_distrib]
  apply Finset.sum_congr rfl
  intro pair _
  rw [follows.entered_eq, Multiset.coe_add]

end Fabric

-----------------------------------------------------------------------------------------
-- Teardown gives up what the links hold
-----------------------------------------------------------------------------------------

/-- A list is what it has at each place. -/
theorem map_range_getD {β : Type} (items : List β) (blank : β)
    : ((List.range items.length).map fun index => items[index]?.getD blank) = items := by
  apply List.ext_getElem
  · simp
  · intro index _ hlt
    simp [hlt]

/-- A row lists the links that its positions name. -/
theorem Row.links_eq (row : Row) : row.links = (List.range row.width).filterMap row.link? := by
  rw [links, ← map_range_getD row.entries.toList none, List.filterMap_map]
  apply List.filterMap_congr
  intro position _
  rw [link?, Function.comp_apply, id, Array.getElem?_toList]
  cases row.entries[position]? <;> rfl

/-- Positions past the last one that yields anything add nothing. -/
theorem flatMap_range_of_le {β : Type} {few many : Nat} (le : few ≤ many) {f : Nat → List β}
    (beyond : ∀ index, few ≤ index → f index = [])
    : (List.range many).flatMap f = (List.range few).flatMap f := by
  obtain ⟨more, rfl⟩ := Nat.exists_eq_add_of_le le
  rw [List.range_add, List.flatMap_append]
  have hrest : ((List.range more).map (few + ·)).flatMap f = [] := by
    rw [List.flatMap_map, List.flatMap_eq_nil_iff]
    intro index _
    exact beyond _ (Nat.le_add_right few index)
  rw [hrest, List.append_nil]

/-- A walk over the first numbers yields, counted with multiplicity, the sum of what each yields. -/
theorem coe_flatMap_range {β : Type} (count : Nat) (f : Nat → List β)
    : ((List.range count).flatMap f : Multiset β)
        = ∑ index ∈ Finset.range count, (f index : Multiset β) := by
  induction count with
  | zero => rfl
  | succ count ih =>
      rw [List.range_succ, List.flatMap_append, Finset.sum_range_succ, ← Multiset.coe_add, ih,
        List.flatMap_singleton]

namespace Fabric

/-- What is given up at one place of the store: what the link there gives up, if there is one. -/
theorem release_eq_flatMap (fabric : Fabric α)
    : fabric.release
        = fabric.consumers.toList.flatMap fun row =>
            row.links.flatMap fun name =>
              (fabric.links[name]?.map fun link => link.ring.release).getD [] := by
  rw [release]
  refine List.flatMap_congr fun row _ => List.flatMap_congr fun name _ => ?_
  cases fabric.links[name]? <;> rfl

/-- A fabric that is torn down gives up, consumer by consumer and within that producer slot by
producer slot, what their links hold, oldest first.
-/
theorem Follows.release_eq {config : Config} {fabric : Fabric α} {history : List (Passage α)}
    (follows : fabric.Follows config history)
    : fabric.release
        = (List.range fabric.consumerCount).flatMap fun consumer =>
            (List.range fabric.producerCount).flatMap fun producer =>
              fabric.held producer consumer := by
  rw [release_eq_flatMap, ← map_range_getD fabric.consumers.toList ⟨#[]⟩, List.flatMap_map]
  apply List.flatMap_congr
  intro consumer member
  have within : consumer < fabric.consumerCount := List.mem_range.mp member
  have hrow : fabric.consumers.toList[consumer]?.getD ⟨#[]⟩ = fabric.consumerRow consumer := by
    rw [Array.getElem?_toList]
    rfl
  rw [hrow, Row.links_eq, follows.wired.consumer_width consumer within]
  have heach (producer : Nat)
      : (((fabric.consumerRow consumer).link? producer).toList.flatMap fun name =>
          (fabric.links[name]?.map fun link => link.ring.release).getD [])
        = fabric.held producer consumer := by
    rw [follows.wired.shared, held]
    cases hname : fabric.name? producer consumer with
    | none =>
        rw [link?_eq, hname]
        rfl
    | some name =>
        obtain ⟨link, hplace, hlink⟩ := follows.wired.links_of_name hname
        rw [hlink, Option.toList_some, List.flatMap_singleton, hplace]
        exact Ring.release_eq_toList (follows.sound hlink)
  rw [List.filterMap_eq_flatMap_toList, List.flatMap_assoc]
  refine (List.flatMap_congr fun producer _ => heach producer).trans ?_
  apply flatMap_range_of_le follows.wired.producers_le
  intro producer outside
  have hgap : fabric.link? producer consumer = none := by
    rw [← Option.not_isSome_iff_eq_none, follows.wired.link?_isSome]
    omega
  rw [held, hgap]
  rfl

/-- What a fabric gives up is what its links hold, counted with multiplicity. -/
theorem Follows.release_eq_sum {config : Config} {fabric : Fabric α}
    {history : List (Passage α)} (follows : fabric.Follows config history)
    : (fabric.release : Multiset α)
        = ∑ pair ∈ fabric.pairs, (fabric.held pair.1 pair.2 : Multiset α) := by
  rw [follows.release_eq, coe_flatMap_range, pairs, Finset.sum_product_right]
  apply Finset.sum_congr rfl
  intro consumer _
  exact coe_flatMap_range fabric.producerCount fun producer => fabric.held producer consumer

end Fabric

end Crossbar
