import Mathlib

/-!
Unbounded counters seen through a 16-bit or a 32-bit window: as long as two of them are less
than one turn apart, their words have the right distance.
-/

namespace Spacer.Lib

def needEvent (event new old : UInt16) : Bool := new - event - 1 < new - old

theorem distance_words (order : old ≤ new) (near : new < old + 2 ^ 16) :
  (UInt16.ofNat new - UInt16.ofNat old).toNat = new - old := by
  rw [UInt16.toNat_sub, UInt16.toNat_ofNat', UInt16.toNat_ofNat']
  omega

theorem distance_words32 (order : old ≤ new) (near : new < old + 2 ^ 32) :
  (UInt32.ofNat new - UInt32.ofNat old).toNat = new - old := by
  rw [UInt32.toNat_sub, UInt32.toNat_ofNat', UInt32.toNat_ofNat']
  omega

theorem words_ne (order : old < new) (near : new < old + 2 ^ 16) : UInt16.ofNat new ≠ UInt16.ofNat old := by
  intro same
  have distance := distance_words (Nat.le_of_lt order) near
  rw [same, UInt16.sub_self] at distance
  simp only [UInt16.toNat_zero] at distance
  omega

theorem words_inj (order : old ≤ new) (near : new < old + 2 ^ 16) :
  UInt16.ofNat new = UInt16.ofNat old ↔ new = old := by
  constructor
  · intro same
    by_contra different
    exact words_ne (by omega) near same
  rintro rfl
  rfl

theorem word_succ : UInt16.ofNat count + 1 = UInt16.ofNat (count + 1) := by
  rw [UInt16.ofNat_add]
  rfl

theorem words_sub (order : old ≤ new) : UInt16.ofNat (new - old) = UInt16.ofNat new - UInt16.ofNat old := by
  apply UInt16.toNat_inj.mp
  rw [UInt16.toNat_sub, UInt16.toNat_ofNat', UInt16.toNat_ofNat', UInt16.toNat_ofNat']
  omega

theorem needEvent_of_crossed (after : old ≤ event) (before : event < new) (near : new < old + 2 ^ 16) :
  needEvent (UInt16.ofNat event) (UInt16.ofNat new) (UInt16.ofNat old) = true := by
  have last : UInt16.ofNat new - UInt16.ofNat event - 1 = UInt16.ofNat new - UInt16.ofNat (event + 1) := by
    rw [← word_succ]
    grind
  unfold needEvent
  rw [last, decide_eq_true_iff, UInt16.lt_iff_toNat_lt, distance_words before (by omega),
    distance_words (by omega) near]
  omega

end Spacer.Lib
