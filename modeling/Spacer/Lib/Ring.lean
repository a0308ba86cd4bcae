import Spacer.Lib.Cells

/-!
A ring of `size` cells between two counters that only grow.  A run of values is stored in
at most two pieces, and the ring is read from the tail on.
-/

namespace Spacer.Lib

variable {α : Type} {size : Nat}

def ringContents (size : Nat) (data : Nat → α) (tail count : Nat) : List α :=
  (List.range count).map fun offset => data ((tail + offset) % size)

def ringRoom (size start count : Nat) : Nat := if size - start ≤ count then size - start else count

def ringStore (size : Nat) (data : Nat → α) (head : Nat) (values : List α) : Nat → α :=
  let first := ringRoom size (head % size) values.length
  let data := store data (head % size) (values.take first)
  if first < values.length then store data 0 (values.drop first) else data

@[simp] theorem ringContents_length : (ringContents size data tail count).length = count := by
  simp [ringContents]

theorem ringRoom_le : ringRoom size start count ≤ count := by
  unfold ringRoom
  split <;> omega

theorem ringRoom_inside (inside : start < size) (count : Nat) :
  start + ringRoom size start count ≤ size := by
  unfold ringRoom
  split <;> omega

theorem ringContents_congr (same : tail % size = tail' % size) :
  ringContents size data tail count = ringContents size data tail' count := by
  apply List.map_congr_left
  intro offset _
  rw [Nat.add_mod, same, ← Nat.add_mod]

theorem ringContents_drop : (ringContents size data tail count).drop dropped =
    ringContents size data (tail + dropped) (count - dropped) := by
  apply List.ext_getElem
  · simp
  intro index inside inside'
  simp only [ringContents, List.getElem_drop, List.getElem_map, List.getElem_range]
  rw [Nat.add_assoc]

theorem load_eq_take (positive : 0 < size) (fits : piece ≤ ringRoom size (tail % size) count) :
  load data (tail % size) piece = (ringContents size data tail count).take piece := by
  have inside := ringRoom_inside (Nat.mod_lt tail positive) count
  have small : ringRoom size (tail % size) count ≤ count := ringRoom_le
  apply List.ext_getElem
  · simp
    omega
  intro offset before after
  have early : offset < piece := by simpa using before
  have place : (tail + offset) % size = tail % size + offset := by
    rw [Nat.add_mod, Nat.mod_eq_of_lt (a := offset) (by omega)]
    exact Nat.mod_eq_of_lt (by omega)
  simp [load, ringContents, place]

theorem wrapped (inside : start < size) (near : offset < size) :
  (start + offset) % size = if start + offset < size then start + offset else start + offset - size := by
  split
  · exact Nat.mod_eq_of_lt ‹_›
  rw [Nat.mod_eq_sub_mod (by omega)]
  exact Nat.mod_eq_of_lt (by omega)

theorem store_take {values : List α} (cut : offset < first ∨ values.length ≤ first) :
  store data start (values.take first) (start + offset) =
    (values[offset]?).getD (data (start + offset)) := by
  unfold store
  rw [if_pos (Nat.le_add_right _ _), Nat.add_sub_cancel_left]
  rcases cut with early | whole
  · rw [List.getElem?_take_of_lt early]
  · rw [List.take_of_length_le whole]

theorem ringStore_cell {values : List α} (fits : values.length ≤ size) (near : offset < size) :
  ringStore size data head values ((head + offset) % size) =
    (values[offset]?).getD (data ((head + offset) % size)) := by
  have inside : head % size < size := Nat.mod_lt _ (by omega)
  rw [Nat.add_mod, Nat.mod_eq_of_lt near, wrapped inside near]
  unfold ringStore ringRoom
  rcases Nat.lt_or_ge (head % size + offset) size with straight | round
  · rw [if_pos straight]
    split_ifs with wraps more
    · rw [store_outside (by simp; omega), store_take (by omega)]
    · rw [store_take (by omega)]
    · omega
    · rw [store_take (by omega)]
  rw [if_neg (Nat.not_lt.mpr round)]
  split_ifs with wraps more
  · have index : size - head % size + (head % size + offset - size) = offset := by omega
    rw [store, if_pos (Nat.zero_le _), Nat.sub_zero, List.getElem?_drop, index,
      store_outside (by simp; omega)]
  · rw [store_outside (by omega), List.getElem?_eq_none (by omega), Option.getD_none]
  · omega
  · rw [store_outside (by omega), List.getElem?_eq_none (by omega), Option.getD_none]

theorem ringContents_ringStore (place : head % size = (tail + count) % size)
  (room : count + values.length ≤ size) :
  ringContents size (ringStore size data head values) tail (count + values.length) =
    ringContents size data tail count ++ values := by
  rcases Nat.eq_zero_or_pos size with zero | positive
  · have empty : values = [] := List.length_eq_zero_iff.mp (by omega)
    have none : count = 0 := by omega
    simp [empty, none, ringContents]
  apply List.ext_getElem
  · simp
  intro index inside inside'
  have bound : index < count + values.length := by simpa using inside
  simp only [ringContents, List.getElem_map, List.getElem_range]
  rcases Nat.lt_or_ge index count with before | behind
  · -- an old cell is one turn less `count - index` places behind the head
    have cell : (tail + index) % size = (head + (size - count + index)) % size := by
      rw [Nat.add_mod, Nat.add_mod head, place, ← Nat.add_mod, ← Nat.add_mod]
      have turn : tail + count + (size - count + index) = tail + index + size := by omega
      rw [turn, Nat.add_mod_right]
    rw [cell, ringStore_cell (by omega) (by omega), List.getElem?_eq_none (by omega),
      Option.getD_none, ← cell, List.getElem_append_left (by simpa using before)]
    simp
  have cell : (tail + index) % size = (head + (index - count)) % size := by
    rw [Nat.add_mod head, place, ← Nat.add_mod]
    congr 1
    omega
  have some : index - count < values.length := by omega
  rw [cell, ringStore_cell (by omega) (by omega), List.getElem?_eq_getElem some,
    Option.getD_some, List.getElem_append_right (by simpa using behind)]
  simp

end Spacer.Lib
