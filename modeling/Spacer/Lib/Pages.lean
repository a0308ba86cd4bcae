import Mathlib.Algebra.GroupWithZero.Nat
import Mathlib.Data.Nat.Basic

/-!
Rounding to a multiple of a base.  Everything is stated for an arbitrary base;
page-granular placement and page-granular mappings are the two users.
-/

namespace Spacer.Lib

def roundUp (value base : Nat) : Nat :=
  base * ((value + (base - 1)) / base)

theorem dvd_roundUp (value base : Nat) : base ∣ roundUp value base :=
  Nat.dvd_mul_right _ _

variable (positive : 0 < base)
include positive

theorem le_roundUp (value : Nat) : value ≤ roundUp value base := by
  have split := Nat.div_add_mod (value + (base - 1)) base
  have small := Nat.mod_lt (value + (base - 1)) positive
  rw [roundUp]
  omega

theorem roundUp_le_of_dvd (multiple : base ∣ limit) (bound : value ≤ limit) :
  roundUp value base ≤ limit := by
  obtain ⟨factor, rfl⟩ := multiple
  have quotient : (value + (base - 1)) / base ≤ factor := by
    rw [Nat.div_le_iff_le_mul_add_pred positive]
    omega
  exact Nat.mul_le_mul_left base quotient

theorem roundUp_mono (below : left ≤ right) : roundUp left base ≤ roundUp right base :=
  roundUp_le_of_dvd positive (dvd_roundUp right base) (Nat.le_trans below (le_roundUp positive right))

theorem roundUp_of_dvd (multiple : base ∣ value) : roundUp value base = value :=
  Nat.le_antisymm (roundUp_le_of_dvd positive multiple (Nat.le_refl value)) (le_roundUp positive value)

theorem roundUp_add_of_dvd (multiple : base ∣ start) (value : Nat) :
  roundUp (start + value) base = start + roundUp value base := by
  obtain ⟨factor, rfl⟩ := multiple
  rw [roundUp, roundUp, Nat.add_assoc, Nat.add_comm (base * factor),
    Nat.add_mul_div_left _ _ positive, Nat.mul_add, Nat.add_comm]

omit positive

end Spacer.Lib
