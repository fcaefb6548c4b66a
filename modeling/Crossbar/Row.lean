/-! The table that a slot keeps of its links, one entry for every slot of the other side. An entry
is written once and then stays; entries are written from the front, so the first gap ends every
walk along a row.
-/

namespace Crossbar

/-- A row of entries, each naming a link once it has been wired. -/
structure Row where
  entries : Array (Option Nat)
deriving Repr, DecidableEq

/-- A wired entry: its position in the row and the link it names. -/
structure Wire where
  position : Nat
  link : Nat
deriving Repr, DecidableEq

namespace Row

/-- Number of entries, wired or not. -/
def width (row : Row) : Nat :=
  row.entries.size

/-- A row whose first `count` entries name the links `base`, `base + 1`, … and whose other entries
are gaps.
-/
def numbered (width count base : Nat) : Row where
  entries :=
    Array.ofFn fun position : Fin width =>
      if position.val < count then some (base + position.val) else none

/-- The link named at `position`, if that entry exists and is wired. -/
def link? (row : Row) (position : Nat) : Option Nat :=
  row.entries[position]?.join

/-- Wires an entry that is still a gap. -/
def wire (row : Row) (position link : Nat) : Row :=
  match row.link? position with
  | some _ => row
  | none => ⟨row.entries.setIfInBounds position (some link)⟩

/-- The wired entries among `count` positions from `first` on, up to the first gap. -/
def run (row : Row) (first : Nat) : Nat → List Wire
  | 0 => []
  | count + 1 =>
      match row.link? first with
      | none => []
      | some link => ⟨first, link⟩ :: run row (first + 1) count

/-- The wired entries at the front. -/
def front (row : Row) : List Wire :=
  row.run 0 row.width

/-- Number of wired entries at the front. -/
def wired (row : Row) : Nat :=
  row.front.length

/-- The order in which a scan from `cursor` meets the wired entries: on to the end of the row and
then from its front up to the cursor, each half up to its first gap.
-/
def sweep (row : Row) (cursor : Nat) : List Wire :=
  let start := min cursor row.width
  row.run start (row.width - start) ++ row.run 0 start

/-- Every wired link, in order of position. -/
def links (row : Row) : List Nat :=
  row.entries.toList.filterMap id

/-! ### Wiring -/

theorem width_numbered (width count base : Nat) : (numbered width count base).width = width :=
  Array.size_ofFn

/-- A numbered row names its links in order and has gaps behind them. -/
theorem link?_numbered (width count base position : Nat)
    : (numbered width count base).link? position
        = if position < width ∧ position < count then some (base + position) else none := by
  simp only [link?, numbered, Array.getElem?_ofFn]
  by_cases hw : position < width <;> by_cases hc : position < count <;> simp [hw, hc]

theorem width_wire (row : Row) (position link : Nat)
    : (row.wire position link).width = row.width := by
  unfold wire
  split
  · rfl
  · exact Array.size_setIfInBounds

/-- Wiring fills the gap at its position and leaves every other entry as it is. -/
theorem link?_wire {row : Row} {position : Nat} (link other : Nat)
    (hp : position < row.width) (hg : row.link? position = none)
    : (row.wire position link).link? other
        = if other = position then some link else row.link? other := by
  simp only [wire, hg]
  simp only [link?, Array.getElem?_setIfInBounds]
  by_cases ho : position = other
  · subst ho
    have hs : position < row.entries.size := hp
    simp [hs]
  · simp [ho, Ne.symm ho]

/-! ### Walking -/

/-- Every entry of a walk is wired, in place, and within the positions walked. -/
theorem mem_run {row : Row} {wire : Wire} {first count : Nat} (h : wire ∈ row.run first count)
    : first ≤ wire.position
      ∧ wire.position < first + count
      ∧ row.link? wire.position = some wire.link := by
  induction count generalizing first with
  | zero => cases h
  | succ count ih =>
      unfold run at h
      split at h
      · cases h
      · next link hl =>
          rcases List.mem_cons.mp h with rfl | hm
          · exact ⟨Nat.le_refl _, Nat.lt_add_of_pos_right (Nat.succ_pos _), hl⟩
          · obtain ⟨hlo, hhi, hw⟩ := ih hm
            exact ⟨by omega, by omega, hw⟩

/-- A walk meets each position from the first on until the first gap. -/
theorem positions_run {row : Row} {wired : Nat}
    (h : ∀ position, (row.link? position).isSome ↔ position < wired) (first count : Nat)
    : (row.run first count).map Wire.position
        = List.range' first (min count (wired - first)) := by
  induction count generalizing first with
  | zero => simp [run]
  | succ count ih =>
      unfold run
      split
      · next hl =>
          have hout : ¬first < wired := by
            rw [← h, hl]
            simp
          have hz : min (count + 1) (wired - first) = 0 := by omega
          rw [hz]
          rfl
      · next link hl =>
          have hin : first < wired := by
            rw [← h, hl]
            rfl
          have hs : min (count + 1) (wired - first) = min count (wired - (first + 1)) + 1 := by
            omega
          rw [List.map_cons, ih, hs, List.range'_succ]

/-- If just the first entries are wired, they are all counted. -/
theorem wired_eq {row : Row} {count : Nat} (hc : count ≤ row.width)
    (h : ∀ position, (row.link? position).isSome ↔ position < count)
    : row.wired = count := by
  have hlength := congrArg List.length (positions_run h 0 row.width)
  rw [List.length_map, List.length_range'] at hlength
  rw [wired, front, hlength]
  omega

/-- If just the first entries are wired, a sweep meets each of them once: from the cursor to the
last one, then from the front up to the cursor.
-/
theorem positions_sweep {row : Row} {wired cursor : Nat} (hc : cursor ≤ wired)
    (hw : wired ≤ row.width)
    (h : ∀ position, (row.link? position).isSome ↔ position < wired)
    : (row.sweep cursor).map Wire.position
        = List.range' cursor (wired - cursor) ++ List.range' 0 cursor := by
  have hstart : min cursor row.width = cursor := by omega
  simp only [sweep, hstart, List.map_append, positions_run h]
  congr 2 <;> omega

end Row

end Crossbar
