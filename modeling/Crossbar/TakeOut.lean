/-! Work on one element of an array. The element is taken out, a blank holds its place meanwhile,
and the result goes back to where it was. As the element is then in one place only, the work on it
needs no copy, however much it contains.
-/

namespace Crossbar

variable {α : Type}

/-- The element at `index`, if there is one, and the array with `blank` in its place. -/
@[noinline] def takeOut (items : Array α) (index : Nat) (blank : α) : Option α × Array α :=
  (items[index]?, items.setIfInBounds index blank)

/-- Without an element to take out, the array stays as it is. -/
theorem takeOut_of_size_le {items : Array α} {index : Nat} (blank : α) (h : items.size ≤ index)
    : takeOut items index blank = (none, items) := by
  rw [takeOut, Array.getElem?_eq_none h, Array.setIfInBounds_eq_of_size_le h]

/-- What is put back replaces what was taken out, whatever the blank. -/
@[simp] theorem setIfInBounds_takeOut (items : Array α) (index : Nat) (blank held : α)
    : (takeOut items index blank).2.setIfInBounds index held
        = items.setIfInBounds index held :=
  Array.setIfInBounds_setIfInBounds blank

/-- Applies `f` to `count` elements from `start` on, each with its index. -/
def updateFrom (blank : α) (f : Nat → α → α) (start : Nat) : Nat → Array α → Array α
  | 0, items => items
  | count + 1, items =>
      match takeOut items start blank with
      | (none, items) => items
      | (some held, items) =>
          updateFrom blank f (start + 1) count (items.setIfInBounds start (f start held))

/-- Applies `f` to every element, each with its index. -/
def updateEach (blank : α) (f : Nat → α → α) (items : Array α) : Array α :=
  updateFrom blank f 0 items.size items

/-- The elements in reach are updated, each once, and the others are not. -/
theorem getElem?_updateFrom (blank : α) (f : Nat → α → α) (start count : Nat) (items : Array α)
    (index : Nat)
    : (updateFrom blank f start count items)[index]?
        = if start ≤ index ∧ index < start + count then items[index]?.map (f index)
          else items[index]? := by
  induction count generalizing start items with
  | zero =>
      rw [if_neg (by omega)]
      rfl
  | succ count ih =>
      rcases Nat.lt_or_ge start items.size with hs | hs
      · simp only [updateFrom, takeOut, Array.getElem?_eq_getElem hs,
          Array.setIfInBounds_setIfInBounds]
        rw [ih (start + 1), Array.getElem?_setIfInBounds]
        by_cases he : start = index
        · subst he
          rw [if_neg (by omega), if_pos (by omega)]
          simp [hs]
        · have hreach
              : start + 1 ≤ index ∧ index < start + 1 + count
                ↔ start ≤ index ∧ index < start + (count + 1) := by
            omega
          rw [if_neg he]
          simp only [hreach]
      · have hstay : updateFrom blank f start (count + 1) items = items := by
          simp only [updateFrom, takeOut_of_size_le blank hs]
        rw [hstay]
        split
        · rw [Array.getElem?_eq_none (by omega), Option.map_none]
        · rfl

theorem updateEach_eq_mapIdx (blank : α) (f : Nat → α → α) (items : Array α)
    : updateEach blank f items = items.mapIdx f := by
  apply Array.ext_getElem?
  intro index
  rw [updateEach, getElem?_updateFrom, Array.getElem?_mapIdx]
  split
  · rfl
  · rw [Array.getElem?_eq_none (by omega), Option.map_none]

end Crossbar
