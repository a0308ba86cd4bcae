import Mathlib

/-! Half-open ranges laid one after the other, and the largest of a list of numbers. -/

namespace Spacer.Lib

structure Range where
  start : Nat
  size : Nat

def Range.finish (range : Range) : Nat := range.start + range.size

def Laid : Nat → List Range → Nat → Prop
  | low, [], high => low ≤ high
  | low, range :: rest, high => low ≤ range.start ∧ Laid range.finish rest high

theorem Laid.append (first : Laid low left middle) (second : Laid middle right high) :
  Laid low (left ++ right) high := by
  induction left generalizing low with
  | nil =>
    cases right with
    | nil => exact Nat.le_trans first second
    | cons range rest => exact ⟨Nat.le_trans first second.1, second.2⟩
  | cons range rest ih => exact ⟨first.1, ih first.2⟩

variable (laid : Laid low ranges high)
include laid

theorem Laid.widen (bound : high ≤ limit) : Laid low ranges limit := by
  have tail : Laid high [] limit := bound
  simpa using laid.append tail

theorem Laid.low_le : ∀ range ∈ ranges, low ≤ range.start := by
  induction ranges generalizing low with
  | nil => simp
  | cons first rest ih =>
    intro range member
    rcases List.mem_cons.mp member with same | later
    · subst range
      exact laid.1
    have after := ih laid.2 range later
    have forward := laid.1
    simp only [Range.finish] at after
    omega

theorem Laid.pairwise : ranges.Pairwise fun left right => left.finish ≤ right.start := by
  induction ranges generalizing low with
  | nil => exact List.Pairwise.nil
  | cons first rest ih => exact List.Pairwise.cons laid.2.low_le (ih laid.2)

omit laid

def largest (sizes : List Nat) : Nat := sizes.foldl max 0

theorem foldl_max_le_iff (sizes : List Nat) :
  sizes.foldl max start ≤ bound ↔ start ≤ bound ∧ ∀ size ∈ sizes, size ≤ bound := by
  induction sizes generalizing start with
  | nil => simp
  | cons first rest ih =>
    simp only [List.foldl_cons, ih, List.mem_cons, forall_eq_or_imp, Nat.max_le, and_assoc]

theorem largest_le_iff (sizes : List Nat) : largest sizes ≤ bound ↔ ∀ size ∈ sizes, size ≤ bound := by
  rw [largest, foldl_max_le_iff]
  simp

theorem le_largest (member : size ∈ sizes) : size ≤ largest sizes :=
  (largest_le_iff sizes).mp (Nat.le_refl _) size member

theorem largest_perm (perm : left.Perm right) : largest left = largest right :=
  perm.foldl_eq' (fun first _ second _ most => Nat.max_right_comm most first second) 0

theorem largest_map (monotone : Monotone change) (zero : change 0 = 0) :
  largest (sizes.map change) = change (largest sizes) := by
  have folded : ∀ most, (sizes.map change).foldl max (change most) =
      change (sizes.foldl max most) := by
    induction sizes with
    | nil => intro most; rfl
    | cons size rest ih =>
      intro most
      rw [List.map_cons, List.foldl_cons, List.foldl_cons, ← monotone.map_max, ih]
  have start := folded 0
  rwa [zero] at start

theorem largest_map_add (nonempty : sizes ≠ []) :
  largest (sizes.map (start + ·)) = start + largest sizes := by
  obtain ⟨size, member⟩ := List.exists_mem_of_ne_nil sizes nonempty
  have reached := le_largest (List.mem_map_of_mem (f := (start + ·)) member)
  refine Nat.le_antisymm ((largest_le_iff _).mpr ?_) ?_
  · simp only [List.forall_mem_map]
    intro other otherMem
    exact Nat.add_le_add_left (le_largest otherMem) start
  have below : largest sizes ≤ largest (sizes.map (start + ·)) - start := by
    refine (largest_le_iff _).mpr fun other otherMem => ?_
    have bound := le_largest (List.mem_map_of_mem (f := (start + ·)) otherMem)
    omega
  omega

end Spacer.Lib
