import Mathlib.Data.List.Basic

/-!
Interval updates of a memory, and what a sequence of them leaves at one cell.
The cell type is arbitrary: a byte, or a byte that may be unmapped.
-/

namespace Spacer.Lib

variable {α : Type}

/-- One interval update: `value offset` is stored at `start + offset`. -/
structure Overlay (α : Type) where
  start : Nat
  length : Nat
  value : Nat → α

def Overlay.Covers (overlay : Overlay α) (cell : Nat) : Prop :=
  overlay.start ≤ cell ∧ cell < overlay.start + overlay.length

instance (overlay : Overlay α) (cell : Nat) : Decidable (overlay.Covers cell) :=
  inferInstanceAs (Decidable (_ ∧ _))

variable (memory : Nat → α)

def Overlay.apply (overlay : Overlay α) : Nat → α := fun cell =>
  if overlay.Covers cell then overlay.value (cell - overlay.start) else memory cell

def applyAll (overlays : List (Overlay α)) : Nat → α :=
  overlays.foldl Overlay.apply memory

@[simp] theorem applyAll_nil : applyAll memory [] = memory := rfl

@[simp] theorem applyAll_cons (first : Overlay α) (rest : List (Overlay α)) :
  applyAll memory (first :: rest) = applyAll (first.apply memory) rest := rfl

theorem applyAll_append : applyAll memory (first ++ second) = applyAll (applyAll memory first) second :=
  List.foldl_append

variable {memory}

theorem applyAll_of_agree (initial : memory cell = value)
  (agree : ∀ overlay ∈ overlays, overlay.Covers cell → overlay.value (cell - overlay.start) = value) :
  applyAll memory overlays cell = value := by
  induction overlays generalizing memory with
  | nil => exact initial
  | cons first rest ih =>
    apply ih
    · by_cases covered : first.Covers cell
      · simp only [Overlay.apply, covered, ↓reduceIte]
        exact agree first (by simp) covered
      · simpa only [Overlay.apply, covered, ↓reduceIte] using initial
    intro overlay member
    exact agree overlay (List.mem_cons_of_mem _ member)

theorem applyAll_of_uncovered (uncovered : ∀ overlay ∈ overlays, ¬overlay.Covers cell) :
  applyAll memory overlays cell = memory cell :=
  applyAll_of_agree rfl fun overlay member covered => absurd covered (uncovered overlay member)

theorem applyAll_of_covered (member : witness ∈ overlays) (covered : witness.Covers cell)
  (agree : ∀ overlay ∈ overlays, overlay.Covers cell → overlay.value (cell - overlay.start) = value) :
  applyAll memory overlays cell = value := by
  induction overlays generalizing memory with
  | nil => simp at member
  | cons first rest ih =>
    have restAgree : ∀ overlay ∈ rest, overlay.Covers cell → overlay.value (cell - overlay.start) = value :=
      fun overlay later => agree overlay (List.mem_cons_of_mem _ later)
    rcases List.mem_cons.mp member with same | later
    · subst witness
      apply applyAll_of_agree _ restAgree
      simp only [Overlay.apply, covered, ↓reduceIte]
      exact agree first (by simp) covered
    · exact ih later restAgree

end Spacer.Lib
