import Crossbar.Proofs.RingTotals

/-! The history of one link: the values that its writer got accepted, the values that left it, and
the moments at which its producer slot was issued again. A link follows its history when what it
holds is what entered and has not left, and when its reader's total and stale mark are the counts
that the history gives them, modulo 2^64.
-/

namespace Crossbar

/-- An element of a list that ends in `last` is that one or stands in front of it. -/
theorem split_concat {β : Type} {items before after : List β} {last item : β}
    (same : items ++ [last] = before ++ item :: after)
    : before = items ∧ item = last ∧ after = []
      ∨ ∃ init, after = init ++ [last] ∧ items = before ++ item :: init := by
  rcases List.eq_nil_or_concat after with rfl | ⟨init, final, rfl⟩
  · obtain ⟨rfl, hlast⟩ := List.append_inj' same rfl
    exact .inl ⟨rfl, (List.head_eq_of_cons_eq hlast).symm, rfl⟩
  · rw [List.concat_eq_append, ← List.cons_append, ← List.append_assoc] at same
    obtain ⟨rfl, hlast⟩ := List.append_inj' same rfl
    obtain rfl := List.head_eq_of_cons_eq hlast
    exact .inr ⟨init, List.concat_eq_append, rfl⟩

/-- Something that happens to a link. -/
inductive Motion (α : Type) where
  /-- The writer's value is taken into the link. -/
  | accepted (value : α)
  /-- A pop returns the oldest value. -/
  | delivered (value : α)
  /-- A pop throws the oldest value away as stale. -/
  | discarded (value : α)
  /-- The producer slot of the link is issued again. -/
  | reissued
deriving Repr, DecidableEq

namespace Motion

variable {α : Type}

def accepted? : Motion α → Option α
  | .accepted value => some value
  | _ => none

def delivered? : Motion α → Option α
  | .delivered value => some value
  | _ => none

def departed? : Motion α → Option α
  | .delivered value | .discarded value => some value
  | _ => none

def isReissue : Motion α → Bool
  | .reissued => true
  | _ => false

/-- The values accepted into the link, in order. -/
def entered (motions : List (Motion α)) : List α :=
  motions.filterMap accepted?

/-- The values returned by pops, in order. -/
def returned (motions : List (Motion α)) : List α :=
  motions.filterMap delivered?

/-- The values that left the link one way or the other, in order. -/
def departed (motions : List (Motion α)) : List α :=
  motions.filterMap departed?

/-- How many of the values accepted were in before the slot was last issued again. -/
def overtaken : List (Motion α) → Nat
  | [] => 0
  | .accepted _ :: rest => if rest.any isReissue then overtaken rest + 1 else overtaken rest
  | _ :: rest => overtaken rest

/-- The position of the stale mark: the values overtaken, if reissues drain, and none otherwise. -/
def staleBound (drain : Bool) (motions : List (Motion α)) : Nat :=
  if drain then overtaken motions else 0

/-- Whether the next value to leave is thrown away: as words, the number of values that have left
is behind the stale mark.
-/
def discardsNext (drain : Bool) (motions : List (Motion α)) : Bool :=
  Counter.isBehind (UInt64.ofNat (departed motions).length)
    (UInt64.ofNat (staleBound drain motions))

/-- The value that has been in the link for longest: the first one accepted that has not left. -/
def oldest? (motions : List (Motion α)) : Option α :=
  (entered motions)[(departed motions).length]?

/-- A value that enters after `before` finds room, and one that leaves is the oldest one and goes
the way that the stale mark says.
-/
def Due (drain : Bool) (before : List (Motion α)) : Motion α → Prop
  | .accepted _ => (entered before).length < (departed before).length + Ring.allocationLimit
  | .delivered value => oldest? before = some value ∧ discardsNext drain before = false
  | .discarded value => oldest? before = some value ∧ discardsNext drain before = true
  | .reissued => True

/-- Every value found room when it entered, and when it left it was the oldest one and went the way
that the stale mark said.
-/
def Ruled (drain : Bool) (motions : List (Motion α)) : Prop :=
  ∀ before motion after, motions = before ++ motion :: after → motion.Due drain before

@[simp] theorem entered_append (motions more : List (Motion α))
    : entered (motions ++ more) = entered motions ++ entered more :=
  List.filterMap_append

@[simp] theorem departed_append (motions more : List (Motion α))
    : departed (motions ++ more) = departed motions ++ departed more :=
  List.filterMap_append

@[simp] theorem entered_accepted (value : α) : entered [.accepted value] = [value] := rfl

@[simp] theorem departed_accepted (value : α) : departed [.accepted value] = [] := rfl

@[simp] theorem entered_reissued : entered [(.reissued : Motion α)] = [] := rfl

@[simp] theorem departed_reissued : departed [(.reissued : Motion α)] = [] := rfl

@[simp] theorem entered_discarded (values : List α)
    : entered (values.map Motion.discarded) = [] := by
  simp [entered, List.filterMap_map, Function.comp_def, accepted?]

@[simp] theorem departed_discarded (values : List α)
    : departed (values.map Motion.discarded) = values := by
  simp [departed, List.filterMap_map, Function.comp_def, departed?]

@[simp] theorem entered_delivered (values : List α)
    : entered (values.map Motion.delivered) = [] := by
  simp [entered, List.filterMap_map, Function.comp_def, accepted?]

@[simp] theorem departed_delivered (values : List α)
    : departed (values.map Motion.delivered) = values := by
  simp [departed, List.filterMap_map, Function.comp_def, departed?]

-----------------------------------------------------------------------------------------
-- The stale mark moves with reissues only
-----------------------------------------------------------------------------------------

/-- No more values are overtaken than were accepted, by induction over the history. -/
theorem overtaken_le (motions : List (Motion α))
    : overtaken motions ≤ (entered motions).length := by
  induction motions with
  | nil => exact Nat.le_refl 0
  | cons motion rest ih =>
      cases motion with
      | accepted value =>
          change (if rest.any isReissue then overtaken rest + 1 else overtaken rest)
            ≤ (entered rest).length + 1
          split <;> omega
      | delivered | discarded | reissued => exact ih

/-- Without a reissue nothing is overtaken. -/
theorem overtaken_of_quiet {motions : List (Motion α)} (quiet : motions.any isReissue = false)
    : overtaken motions = 0 := by
  induction motions with
  | nil => rfl
  | cons motion rest ih =>
      simp only [List.any_cons, Bool.or_eq_false_iff] at quiet
      cases motion with
      | accepted value =>
          rw [overtaken, quiet.2, if_neg Bool.false_ne_true]
          exact ih quiet.2
      | delivered | discarded => exact ih quiet.2
      | reissued => cases quiet.1

/-- Motions other than reissues leave the stale mark where it is. -/
theorem overtaken_append_of_quiet (motions : List (Motion α)) {more : List (Motion α)}
    (quiet : more.any isReissue = false)
    : overtaken (motions ++ more) = overtaken motions := by
  induction motions with
  | nil => exact overtaken_of_quiet quiet
  | cons motion rest ih =>
      cases motion with
      | accepted value =>
          have hsame : (rest ++ more).any isReissue = rest.any isReissue := by
            rw [List.any_append, quiet, Bool.or_false]
          rw [List.cons_append, overtaken, overtaken, hsame, ih]
      | delivered | discarded | reissued => exact ih

/-- A reissue overtakes all values accepted so far. -/
theorem overtaken_append_reissued (motions : List (Motion α))
    : overtaken (motions ++ [.reissued]) = (entered motions).length := by
  induction motions with
  | nil => rfl
  | cons motion rest ih =>
      cases motion with
      | accepted value =>
          have hlast : (rest ++ [Motion.reissued]).any isReissue = true := by
            rw [List.any_append]
            exact Bool.or_true _
          rw [List.cons_append, overtaken, hlast, if_pos rfl, ih]
          rfl
      | delivered | discarded | reissued => exact ih

theorem staleBound_append_of_quiet (drain : Bool) (motions : List (Motion α))
    {more : List (Motion α)} (quiet : more.any isReissue = false)
    : staleBound drain (motions ++ more) = staleBound drain motions := by
  rw [staleBound, staleBound, overtaken_append_of_quiet motions quiet]

/-- Every accepted value stands at its place in the history, and it has been overtaken exactly if a
reissue comes after it. The induction follows the history from its first motion on.
-/
theorem split_at_entered {motions : List (Motion α)} {position : Nat} {value : α}
    (found : (entered motions)[position]? = some value)
    : ∃ before after,
        motions = before ++ .accepted value :: after
        ∧ (entered before).length = position
        ∧ (position < overtaken motions ↔ .reissued ∈ after) := by
  have hany (rest : List (Motion α)) : rest.any isReissue = true ↔ .reissued ∈ rest := by
    rw [List.any_eq_true]
    constructor
    · rintro ⟨motion, member, reissue⟩
      cases motion with
      | reissued => exact member
      | accepted | delivered | discarded => cases reissue
    · intro member
      exact ⟨_, member, rfl⟩
  induction motions generalizing position with
  | nil => simp [entered] at found
  | cons motion rest ih =>
      cases motion with
      | accepted first =>
          have hentered : entered (.accepted first :: rest) = first :: entered rest := rfl
          rw [hentered] at found
          cases position with
          | zero =>
              obtain rfl : first = value := Option.some.inj found
              refine ⟨[], rest, rfl, rfl, ?_⟩
              -- The first value is overtaken by any reissue there is.
              rw [← hany, overtaken]
              cases hr : rest.any isReissue
              · simp [overtaken_of_quiet hr]
              · simp
          | succ position =>
              have hrest : (entered rest)[position]? = some value := found
              obtain ⟨before, after, rfl, hl, hiff⟩ := ih hrest
              refine ⟨.accepted first :: before, after, rfl, congrArg (· + 1) hl, ?_⟩
              -- A reissue overtakes the first value with every later one, which moves both sides.
              rw [← hiff, overtaken]
              cases hr : (before ++ .accepted value :: after).any isReissue
              · simp [overtaken_of_quiet hr]
              · simp
      | delivered | discarded | reissued =>
          have hrest : (entered rest)[position]? = some value := found
          obtain ⟨before, after, rfl, hl, hiff⟩ := ih hrest
          exact ⟨_ :: before, after, rfl, hl, hiff⟩

-----------------------------------------------------------------------------------------
-- Values leave in order and go the way that the mark says
-----------------------------------------------------------------------------------------

/-- One more motion that goes the right way keeps a history ruled. -/
theorem Ruled.snoc {drain : Bool} {motions : List (Motion α)} {last : Motion α}
    (ruled : Ruled drain motions) (due : last.Due drain motions)
    : Ruled drain (motions ++ [last]) := by
  intro before motion after same
  rcases split_concat same with ⟨rfl, rfl, _⟩ | ⟨init, _, rfl⟩
  · exact due
  · exact ruled before motion init rfl

/-- A history is ruled up to every moment of it. -/
theorem Ruled.left {drain : Bool} {before after : List (Motion α)}
    (ruled : Ruled drain (before ++ after))
    : Ruled drain before := by
  intro earlier motion between same
  apply ruled earlier motion (between ++ after)
  rw [same, List.append_assoc, List.cons_append]

/-- No more values leave a link than have entered it, and those that have not left are few. The
induction is on the motions that are still to come after `seen`.
-/
theorem Ruled.counts_append {drain : Bool} {seen motions : List (Motion α)}
    (ruled : Ruled drain (seen ++ motions))
    (counts
      : (departed seen).length ≤ (entered seen).length
        ∧ (entered seen).length ≤ (departed seen).length + Ring.allocationLimit)
    : (departed (seen ++ motions)).length ≤ (entered (seen ++ motions)).length
      ∧ (entered (seen ++ motions)).length
          ≤ (departed (seen ++ motions)).length + Ring.allocationLimit := by
  induction motions generalizing seen with
  | nil => rwa [List.append_nil]
  | cons motion rest ih =>
      have hdue := ruled seen motion rest rfl
      have hassoc : seen ++ motion :: rest = (seen ++ [motion]) ++ rest := by simp
      rw [hassoc] at ruled ⊢
      apply ih ruled
      rw [entered_append, departed_append, List.length_append, List.length_append]
      cases motion with
      | accepted value =>
          have hroom : (entered seen).length < (departed seen).length + Ring.allocationLimit := hdue
          have hone : (entered [Motion.accepted value]).length = 1 := rfl
          have hzero : (departed [Motion.accepted value]).length = 0 := rfl
          omega
      | delivered value | discarded value =>
          obtain ⟨hlt, _⟩ := List.getElem?_eq_some_iff.mp hdue.1
          have hzero : (entered [Motion.delivered value]).length = 0 := rfl
          have hzero' : (entered [Motion.discarded value]).length = 0 := rfl
          have hone : (departed [Motion.delivered value]).length = 1 := rfl
          have hone' : (departed [Motion.discarded value]).length = 1 := rfl
          omega
      | reissued =>
          have hentered : (entered [(.reissued : Motion α)]).length = 0 := rfl
          have hdeparted : (departed [(.reissued : Motion α)]).length = 0 := rfl
          omega

theorem Ruled.counts {drain : Bool} {motions : List (Motion α)} (ruled : Ruled drain motions)
    : (departed motions).length ≤ (entered motions).length
      ∧ (entered motions).length ≤ (departed motions).length + Ring.allocationLimit := by
  have hstart : Ruled drain ([] ++ motions) := ruled
  exact hstart.counts_append ⟨Nat.le_refl 0, Nat.zero_le _⟩

/-- The first of the values that have entered and not left is the oldest one. -/
theorem oldest?_of_waiting {motions : List (Motion α)} {value : α} {rest : List α}
    (waiting : entered motions = departed motions ++ value :: rest)
    : oldest? motions = some value := by
  rw [oldest?, waiting, List.getElem?_append_right (Nat.le_refl _), Nat.sub_self]
  rfl

/-- A run of discards is ruled as long as it takes what waits in the link and the reader's total
stays behind the mark: the mark does not move and the total moves by one each time.
-/
theorem Ruled.discard {drain : Bool} {motions : List (Motion α)} {values live : List α}
    (ruled : Ruled drain motions)
    (waiting : entered motions = departed motions ++ (values ++ live))
    (behind
      : ∀ steps < values.length,
          Counter.isBehind
              (UInt64.ofNat (departed motions).length + UInt64.ofNat steps)
              (UInt64.ofNat (staleBound drain motions))
            = true)
    : Ruled drain (motions ++ values.map Motion.discarded) := by
  induction values generalizing motions with
  | nil => simpa using ruled
  | cons value rest ih =>
      have hfirst : (Motion.discarded value).Due drain motions := by
        have hb := behind 0 (Nat.succ_pos _)
        rw [show UInt64.ofNat 0 = 0 from rfl, UInt64.add_zero] at hb
        exact ⟨oldest?_of_waiting waiting, hb⟩
      have hwaiting : entered (motions ++ [.discarded value])
          = departed (motions ++ [.discarded value]) ++ (rest ++ live) := by
        have hentered : entered [.discarded value] = [] := rfl
        have hdeparted : departed [.discarded value] = [value] := rfl
        rw [entered_append, departed_append, hentered, hdeparted, waiting]
        simp
      -- One value fewer waits, and the reader's total is one step closer to the mark.
      have hrest := ih (ruled.snoc hfirst) hwaiting (by
        intro steps hs
        have hb := behind (steps + 1) (Nat.succ_lt_succ hs)
        rw [Nat.add_comm, UInt64.ofNat_add, ← UInt64.add_assoc] at hb
        rw [departed_append, staleBound_append_of_quiet drain motions rfl, List.length_append,
          UInt64.ofNat_add]
        exact hb)
      simpa using hrest

-----------------------------------------------------------------------------------------
-- Histories in which nothing has passed
-----------------------------------------------------------------------------------------

section Untouched

variable {motions : List (Motion α)} (untouched : ∀ motion ∈ motions, motion = .reissued)

include untouched

/-- Nothing can be read off reissues alone. -/
theorem filterMap_of_untouched {f : Motion α → Option α} (silent : f .reissued = none)
    : motions.filterMap f = [] := by
  apply List.filterMap_eq_nil_iff.mpr
  intro motion member
  rw [untouched motion member, silent]

theorem entered_of_untouched : entered motions = [] :=
  filterMap_of_untouched untouched rfl

theorem departed_of_untouched : departed motions = [] :=
  filterMap_of_untouched untouched rfl

/-- Where nothing was accepted, nothing is overtaken. -/
theorem overtaken_of_untouched : overtaken motions = 0 := by
  have hle := overtaken_le motions
  rw [entered_of_untouched untouched] at hle
  exact Nat.le_zero.mp hle

theorem ruled_of_untouched (drain : Bool) : Ruled drain motions := by
  intro before motion after same
  have hmotion : motion = .reissued := untouched motion (by simp [same])
  rw [hmotion]
  trivial

end Untouched

end Motion

namespace Link

open Motion

variable {α : Type} {drain : Bool} {link : Link α} {motions : List (Motion α)}

/-- A link follows a history: it holds what entered and has not left, and its reader's total and
stale mark are the counts of that history as words.
-/
structure Follows (drain : Bool) (link : Link α) (motions : List (Motion α)) : Prop where
  sound : link.ring.Sound
  capacity_lt : link.ring.capacity < Ring.allocationLimit
  entered_eq : entered motions = departed motions ++ link.toList
  popped_eq : link.ring.popped = UInt64.ofNat (departed motions).length
  staleUntil_eq : link.staleUntil = UInt64.ofNat (staleBound drain motions)
  ruled : Ruled drain motions

/-- The writer's total counts the values accepted: those that left and those still held. -/
theorem Follows.pushed_eq (follows : link.Follows drain motions)
    : link.ring.pushed = UInt64.ofNat (entered motions).length := by
  rw [Ring.pushed_eq, follows.popped_eq, follows.entered_eq, List.length_append,
    UInt64.ofNat_add, toList, Ring.length_toList follows.sound]

/-- A new link follows every history in which nothing has entered it yet: its total and its mark
are both zero.
-/
theorem follows_new {capacity : Nat} (positive : 0 < capacity)
    (small : capacity < Ring.allocationLimit)
    (untouched : ∀ motion ∈ motions, motion = .reissued)
    : (⟨.empty capacity 0, 0⟩ : Link α).Follows drain motions := by
  have hlimit : Ring.allocationLimit < 0x10000000000000000 := by decide
  refine {
    sound := Ring.sound_empty 0 positive (by omega)
    capacity_lt := small
    entered_eq := ?_
    popped_eq := ?_
    staleUntil_eq := ?_
    ruled := ruled_of_untouched untouched drain
  }
  · rw [entered_of_untouched untouched, departed_of_untouched untouched]
    exact (Ring.toList_empty capacity 0).symm
  · rw [departed_of_untouched untouched]
    rfl
  · rw [staleBound, overtaken_of_untouched untouched, ite_self]
    rfl

/-- A push that finds room adds one accepted value to the history, and one that does not hands the
value back and leaves the history as it is.
-/
theorem Follows.push (follows : link.Follows drain motions) (value : α)
    : ((link.push value).1 = .accepted
        ∧ (link.push value).2.Follows drain (motions ++ [.accepted value]))
      ∨ ((link.push value).1 = .rejected value ∧ (link.push value).2.Follows drain motions) := by
  obtain ⟨hs, hmark, hroom⟩ := Link.push_eq value follows.sound
  have hcapacity : (link.push value).2.ring.capacity < Ring.allocationLimit :=
    Nat.lt_of_le_of_lt (Nat.le_of_eq (Ring.capacity_push link.ring value)) follows.capacity_lt
  have hpopped : (link.push value).2.ring.popped = link.ring.popped :=
    Ring.popped_push link.ring value
  split at hroom
  · next hfree =>
      have hdue : (entered motions).length
          < (departed motions).length + Ring.allocationLimit := by
        have hsize : link.toList.length = link.ring.size := Ring.length_toList follows.sound
        have hsmall := follows.capacity_lt
        rw [follows.entered_eq, List.length_append]
        omega
      refine .inl ⟨hroom.1, {
        sound := hs
        capacity_lt := hcapacity
        entered_eq := ?_
        popped_eq := ?_
        staleUntil_eq := ?_
        ruled := follows.ruled.snoc hdue
      }⟩
      · rw [hroom.2, entered_append, departed_append, follows.entered_eq]
        simp
      · rw [hpopped, follows.popped_eq, departed_append, departed_accepted, List.append_nil]
      · rw [hmark, follows.staleUntil_eq, staleBound_append_of_quiet drain motions rfl]
  · exact .inr ⟨hroom.1, {
      sound := hs
      capacity_lt := hcapacity
      entered_eq := hroom.2 ▸ follows.entered_eq
      popped_eq := hpopped.trans follows.popped_eq
      staleUntil_eq := hmark.trans follows.staleUntil_eq
      ruled := follows.ruled
    }⟩

/-- Fewer values are stale than the mark is ahead, so every discard happens behind the mark. -/
theorem isBehind_of_stale {steps : Nat} (within : steps < link.stale.length)
    : Counter.isBehind (link.ring.popped + UInt64.ofNat steps) link.staleUntil = true := by
  have hcount : steps < link.staleCount := by
    rw [stale, List.length_take] at within
    omega
  rw [staleCount] at hcount
  split at hcount
  · next hb => exact Counter.isBehind_add hb hcount
  · cases hcount

/-- Behind the stale values the reader's total has reached the mark, if a live value is there. -/
theorem isBehind_past_stale (waiting : link.live ≠ [])
    : Counter.isBehind (link.ring.popped + UInt64.ofNat link.stale.length) link.staleUntil
        = false := by
  have hlength : link.stale.length = link.staleCount := by
    have hpast : link.staleCount < link.toList.length :=
      Nat.lt_of_not_le fun hle => waiting (List.drop_eq_nil_of_le hle)
    rw [stale, List.length_take]
    omega
  rw [hlength, staleCount]
  split
  · exact Counter.isBehind_add_lead link.ring.popped link.staleUntil
  · next hb =>
      rw [show UInt64.ofNat 0 = 0 from rfl, UInt64.add_zero]
      simpa using hb

/-- What waits in a link to leave it is what is stale, and then what is live. -/
theorem Follows.waiting (follows : link.Follows drain motions)
    : entered motions = departed motions ++ (link.stale ++ link.live) := by
  rw [follows.entered_eq, stale_append_live]

/-- The stale values may be discarded, because the reader is behind the mark until they are gone. -/
theorem Follows.ruled_discards (follows : link.Follows drain motions)
    : Ruled drain (motions ++ link.stale.map .discarded) := by
  apply follows.ruled.discard follows.waiting
  intro steps within
  rw [← follows.popped_eq, ← follows.staleUntil_eq]
  exact isBehind_of_stale within

/-- Behind the stale values the first live one may be returned, because the reader has reached the
mark by then.
-/
theorem Follows.due_delivered (follows : link.Follows drain motions) {value : α} {rest : List α}
    (waiting : link.live = value :: rest)
    : (Motion.delivered value).Due drain (motions ++ link.stale.map .discarded) := by
  have hlive : link.live ≠ [] := by simp [waiting]
  have hquiet : (link.stale.map Motion.discarded).any isReissue = false := by simp [isReissue]
  have hnext : entered (motions ++ link.stale.map .discarded)
      = departed (motions ++ link.stale.map .discarded) ++ value :: rest := by
    rw [entered_append, departed_append, entered_discarded, departed_discarded, follows.waiting,
      waiting]
    simp
  refine ⟨oldest?_of_waiting hnext, ?_⟩
  rw [discardsNext, staleBound_append_of_quiet drain motions hquiet, departed_append,
    departed_discarded, List.length_append, UInt64.ofNat_add, ← follows.popped_eq,
    ← follows.staleUntil_eq]
  exact isBehind_past_stale hlive

/-- A pop adds its discards and then the value it takes to the history. -/
theorem Follows.pop (follows : link.Follows drain motions)
    : link.pop.2.Follows drain
        (motions ++ link.pop.1.discarded.map .discarded
          ++ link.pop.1.value.toList.map .delivered) := by
  obtain ⟨hs, hdraw, hrest, hmark⟩ := Link.pop_eq follows.sound
  have htotal := Link.popped_pop follows.sound
  have hquiet
      : (link.stale.map Motion.discarded
          ++ link.live.head?.toList.map Motion.delivered).any isReissue
        = false := by
    cases link.live <;> simp [isReissue]
  rw [hdraw]
  refine {
    sound := hs
    capacity_lt :=
      Nat.lt_of_le_of_lt (Nat.le_of_eq (capacity_pop link)) follows.capacity_lt
    entered_eq := ?_
    popped_eq := ?_
    staleUntil_eq := ?_
    ruled := ?_
  }
  · rw [hrest, entered_append, entered_append, departed_append, departed_append,
      entered_discarded, entered_delivered, departed_discarded, departed_delivered,
      follows.waiting]
    cases link.live <;> simp
  · rw [htotal, follows.popped_eq, ← UInt64.ofNat_add]
    simp
  · rw [hmark, follows.staleUntil_eq, List.append_assoc,
      staleBound_append_of_quiet drain motions hquiet]
  · cases hlive : link.live with
    | nil => simpa using follows.ruled_discards
    | cons value rest => exact follows.ruled_discards.snoc (follows.due_delivered hlive)

/-- Retiring a link puts its mark at the number of values accepted, as a draining reissue does. -/
theorem Follows.retire (follows : link.Follows true motions)
    : link.retire.2.Follows true (motions ++ [.reissued]) where
  sound := follows.sound
  capacity_lt := follows.capacity_lt
  entered_eq := by
    rw [entered_append, departed_append, toList_retire, follows.entered_eq]
    simp
  popped_eq := by
    change link.ring.popped = _
    rw [follows.popped_eq, departed_append, departed_reissued, List.append_nil]
  staleUntil_eq := by
    change link.ring.pushed = _
    rw [follows.pushed_eq, staleBound, if_pos rfl, overtaken_append_reissued]
  ruled := follows.ruled.snoc trivial

/-- A reissue that does not drain changes nothing about the link, and its mark stays at zero. -/
theorem Follows.keep (follows : link.Follows false motions)
    : link.Follows false (motions ++ [.reissued]) where
  sound := follows.sound
  capacity_lt := follows.capacity_lt
  entered_eq := by
    rw [entered_append, departed_append, follows.entered_eq]
    simp
  popped_eq := by
    rw [follows.popped_eq, departed_append, departed_reissued, List.append_nil]
  staleUntil_eq := follows.staleUntil_eq
  ruled := follows.ruled.snoc trivial

end Link

end Crossbar
