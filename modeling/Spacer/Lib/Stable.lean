import Mathlib

/-!
What a stable sort keeps of the order before it, and sums over lists that differ
only in elements of no weight.
-/

namespace Spacer.Lib

open List

variable {α : Type}

section

variable (before : α → α → Prop) [DecidableRel before] (kept : α → α → Prop)

theorem pairwise_orderedInsert (total : ∀ x y, before x y ∨ before y x)
  (trans : ∀ x y z, before x y → before y z → before x z) (first : α) (sorted : List α)
  (ordered : sorted.Pairwise fun x y => before x y ∧ (before y x → kept x y))
  (ahead : ∀ later ∈ sorted, kept first later) :
  (sorted.orderedInsert before first).Pairwise fun x y => before x y ∧ (before y x → kept x y) := by
  induction sorted with
  | nil => simp
  | cons other rest ih =>
    obtain ⟨least, tail⟩ := pairwise_cons.mp ordered
    by_cases smaller : before first other
    · rw [orderedInsert_cons_of_le _ _ smaller]
      refine pairwise_cons.mpr ⟨fun later member => ⟨?_, fun _ => ahead later member⟩, ordered⟩
      rcases mem_cons.mp member with same | behind
      · exact same ▸ smaller
      · exact trans _ _ _ smaller (least later behind).1
    rw [orderedInsert_of_not_le _ _ smaller]
    refine pairwise_cons.mpr ⟨fun later member => ?_,
      ih tail fun later member => ahead later (mem_cons_of_mem _ member)⟩
    rcases (mem_orderedInsert before).mp member with same | behind
    · subst same
      exact ⟨(total _ _).resolve_left smaller, fun tie => absurd tie smaller⟩
    · exact least later behind

theorem pairwise_insertionSort (total : ∀ x y, before x y ∨ before y x)
  (trans : ∀ x y z, before x y → before y z → before x z) (items : List α) (ordered : items.Pairwise kept) :
  (items.insertionSort before).Pairwise fun x y => before x y ∧ (before y x → kept x y) := by
  induction items with
  | nil => simp
  | cons first rest ih =>
    obtain ⟨ahead, tail⟩ := pairwise_cons.mp ordered
    refine pairwise_orderedInsert before kept total trans first _ (ih tail) fun later member => ?_
    exact ahead later ((mem_insertionSort before).mp member)

end

theorem sum_map_filter_weight (weight : α → Nat) (items : List α) :
  ((items.filter fun item => weight item ≠ 0).map weight).sum = (items.map weight).sum := by
  induction items with
  | nil => rfl
  | cons item rest ih =>
    by_cases none : weight item = 0
    · simpa [none] using ih
    · simpa [none] using ih

theorem sum_map_eq_of_mem_iff {left right : List α} (leftNodup : left.Nodup)
  (rightNodup : right.Nodup) (same : ∀ item, weight item ≠ 0 → (item ∈ left ↔ item ∈ right)) :
  (left.map weight).sum = (right.map weight).sum := by
  have weighty : (left.filter fun item => weight item ≠ 0).Perm
      (right.filter fun item => weight item ≠ 0) := by
    refine (perm_ext_iff_of_nodup (leftNodup.filter _) (rightNodup.filter _)).mpr fun item => ?_
    simp only [mem_filter, decide_eq_true_eq]
    exact and_congr_left fun weighs => same item weighs
  rw [← sum_map_filter_weight, ← sum_map_filter_weight weight right]
  exact (weighty.map weight).sum_eq

end Spacer.Lib
