import Mathlib.Algebra.GroupWithZero.Nat

/-!
Serial numbers of 32 bits.  Which of two comes first is decided by their distance, and the answer
is right for any two positions that are less than a window apart.
-/

namespace Spacer.Lib.Serial

def atOrAfter (window a b : UInt32) : Bool := a - b < window

def after (window a b : UInt32) : Bool := a ≠ b && a - b < window

/-- The serial number of the position `index` of a stream that starts at `first`. -/
def place (first : UInt32) (index : Nat) : UInt32 := first + UInt32.ofNat index

theorem place_zero (first : UInt32) : place first 0 = first := by simp [place]

theorem place_add : place first index + UInt32.ofNat count = place first (index + count) := by
  simp [place, UInt32.ofNat_add, UInt32.add_assoc]

theorem place_sub {early late : Nat} (order : early ≤ late) (near : late < early + 2 ^ 32) :
  (place first late - place first early).toNat = late - early := by
  have same : place first late - place first early = UInt32.ofNat (late - early) := by
    rw [← Nat.add_sub_cancel' order, ← place_add, Nat.add_sub_cancel' order]
    grind
  rw [same, UInt32.toNat_ofNat']
  omega

theorem place_sub_back {early late : Nat} (order : early < late) (near : late ≤ early + 2 ^ 32) :
  (place first early - place first late).toNat = 2 ^ 32 - (late - early) := by
  have same : place first early - place first late = UInt32.ofNat (2 ^ 32 - (late - early)) := by
    have turn : place first late + UInt32.ofNat (2 ^ 32 - (late - early)) = place first early := by
      have wrapped : late + (2 ^ 32 - (late - early)) = early + 2 ^ 32 := by omega
      rw [place_add, wrapped, ← place_add]
      simp
    rw [← turn]
    grind
  rw [same, UInt32.toNat_ofNat']
  omega

theorem place_inj {early late : Nat} (order : early ≤ late) (near : late < early + 2 ^ 32) :
  place first late = place first early ↔ late = early := by
  constructor
  · intro same
    have distance := @place_sub first early late order near
    rw [same, UInt32.sub_self, UInt32.toNat_zero] at distance
    omega
  rintro rfl
  rfl

section

variable {window first : UInt32} (half : 2 * window.toNat ≤ 2 ^ 32)

include half

theorem atOrAfter_place (ahead : a < b + window.toNat) (behind : b ≤ a + window.toNat) :
  atOrAfter window (place first a) (place first b) = true ↔ b ≤ a := by
  rw [atOrAfter, decide_eq_true_iff, UInt32.lt_iff_toNat_lt]
  by_cases order : b ≤ a
  · rw [place_sub order (by omega)]
    exact ⟨fun _ => order, fun _ => by omega⟩
  rw [place_sub_back (by omega) (by omega)]
  exact ⟨fun small => by omega, fun le => absurd le order⟩

theorem after_place (ahead : a < b + window.toNat) (behind : b ≤ a + window.toNat) :
  after window (place first a) (place first b) = true ↔ b < a := by
  have order := @atOrAfter_place window first half a b ahead behind
  rw [atOrAfter] at order
  rw [after, Bool.and_eq_true, order, decide_eq_true_iff]
  constructor
  · rintro ⟨different, le⟩
    rcases Nat.lt_or_eq_of_le le with lt | same
    · exact lt
    · exact absurd (congrArg (place first) same.symm) different
  intro lt
  refine ⟨?_, Nat.le_of_lt lt⟩
  intro same
  have equal := (place_inj (Nat.le_of_lt lt) (by omega)).mp same
  omega

theorem between {low high : Nat} (order : low ≤ high) (near : high < low + window.toNat)
  (late : atOrAfter window number (place first low) = true)
  (early : atOrAfter window (place first high) number = true) :
  ∃ index, number = place first index ∧ low ≤ index ∧ index ≤ high := by
  have located : number = place first (low + (number - place first low).toNat) := by
    rw [← place_add, UInt32.ofNat_toNat]
    grind
  rw [atOrAfter, decide_eq_true_iff, UInt32.lt_iff_toNat_lt] at late
  refine ⟨_, located, by omega, ?_⟩
  rw [located] at early
  exact (atOrAfter_place half (by omega) (by omega)).mp early

end

end Spacer.Lib.Serial
