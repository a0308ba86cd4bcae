import Mathlib.Data.List.Basic

/-! Runs of cells of a memory: what is read back after a run was stored. -/

namespace Spacer.Lib

variable {α : Type} (memory : Nat → α)

def load (addr count : Nat) : List α :=
  (List.range count).map fun offset => memory (addr + offset)

def store (addr : Nat) (values : List α) : Nat → α := fun cell =>
  if addr ≤ cell then (values[cell - addr]?).getD (memory cell) else memory cell

@[simp] theorem load_length : (load memory addr count).length = count := by
  simp [load]

variable {memory : Nat → α}

theorem load_congr (same : ∀ offset < count, memory' (addr + offset) = memory (addr + offset)) :
  load memory' addr count = load memory addr count := by
  apply List.map_congr_left
  intro offset inside
  exact same offset (List.mem_range.mp inside)

theorem store_outside (outside : cell < addr ∨ addr + values.length ≤ cell) :
  store memory addr values cell = memory cell := by
  unfold store
  split
  · have past : values.length ≤ cell - addr := by omega
    rw [List.getElem?_eq_none past, Option.getD_none]
  · rfl

theorem store_inside (inside : offset < values.length) :
  store memory addr values (addr + offset) = values[offset] := by
  simp [store, List.getElem?_eq_getElem inside]

theorem load_store_same (memory : Nat → α) (addr : Nat) (values : List α) :
  load (store memory addr values) addr values.length = values := by
  apply List.ext_getElem
  · simp
  intro offset inside inside'
  simp [load, store_inside inside']

theorem load_store_apart (apart : addr + count ≤ other ∨ other + values.length ≤ addr) :
  load (store memory other values) addr count = load memory addr count := by
  apply load_congr
  intro offset inside
  exact store_outside (by omega)

end Spacer.Lib
