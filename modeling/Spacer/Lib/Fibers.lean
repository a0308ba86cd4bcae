import Mathlib

/-!
How many keys a partial map sends to a value, and how one assignment changes that
number: the counting behind reference counts.
-/

namespace Spacer.Lib

variable {K V : Type} (map : K → Option V)

def fiber (value : V) : Set K := {key | map key = some value}

variable [DecidableEq K]

theorem fiber_update_of_eq :
  fiber (Function.update map key (some value)) value = insert key (fiber map value) := by
  ext other
  by_cases same : other = key
  · subst same
    simp [fiber]
  · simp [fiber, same]

theorem fiber_update_of_ne (key : K) (different : new ≠ some value) :
  fiber (Function.update map key new) value = fiber map value \ {key} := by
  ext other
  by_cases same : other = key
  · subst same
    simp [fiber, different]
  · simp [fiber, same]

variable [DecidableEq V] {map}

theorem finite_fiber_update (finite : (fiber map value).Finite) (key : K) :
  (fiber (Function.update map key new) value).Finite := by
  by_cases same : new = some value
  · subst same
    rw [fiber_update_of_eq]
    exact finite.insert key
  rw [fiber_update_of_ne map key same]
  exact finite.sdiff

theorem ncard_fiber_update (finite : (fiber map value).Finite) :
  ((fiber (Function.update map key new) value).ncard : Int) =
    (fiber map value).ncard + (if new = some value then 1 else 0) -
      (if map key = some value then 1 else 0) := by
  by_cases old : map key = some value
  · have member : key ∈ fiber map value := old
    have positive : 0 < (fiber map value).ncard := (Set.ncard_pos finite).mpr ⟨key, member⟩
    by_cases same : new = some value
    · subst same
      rw [fiber_update_of_eq, Set.insert_eq_of_mem member]
      simp [old]
    rw [fiber_update_of_ne map key same, Set.ncard_sdiff_singleton_of_mem member]
    simp only [same, old, if_true, if_false]
    omega
  have absent : key ∉ fiber map value := old
  by_cases same : new = some value
  · subst same
    rw [fiber_update_of_eq, Set.ncard_insert_of_notMem absent finite]
    simp [old]
  rw [fiber_update_of_ne map key same, Set.sdiff_singleton_eq_self absent]
  simp [same, old]

end Spacer.Lib
