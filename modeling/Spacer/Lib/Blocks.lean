import Mathlib
import Spacer.Lib.Overlay
import Spacer.Lib.Pages

/-!
Blocks of content laid over a memory.  A paged block replaces whole pages and fills the
rest of its last page with `zero`; an exact block replaces only its own cells.
-/

namespace Spacer.Lib

open List

structure Block (α : Type) where
  start : Nat
  content : List α
  paged : Bool
  deriving DecidableEq

variable {α : Type}

def Block.Contains (block : Block α) (cell : Nat) : Prop :=
  block.start ≤ cell ∧ cell < block.start + block.content.length

instance (block : Block α) (cell : Nat) : Decidable (block.Contains cell) :=
  inferInstanceAs (Decidable (_ ∧ _))

def Block.Apart (left right : Block α) : Prop :=
  left.start + left.content.length ≤ right.start ∨
    right.start + right.content.length ≤ left.start

instance : Std.Symm (Block.Apart (α := α)) :=
  ⟨fun _ _ => Or.symm⟩

def Block.span (page : Nat) (block : Block α) : Nat :=
  if block.paged then roundUp block.content.length page else block.content.length

def Block.Covers (page : Nat) (block : Block α) (cell : Nat) : Prop :=
  block.start ≤ cell ∧ cell < block.start + block.span page

instance (page : Nat) (block : Block α) (cell : Nat) : Decidable (block.Covers page cell) :=
  inferInstanceAs (Decidable (_ ∧ _))

def Block.overlay (zero : α) (page base : Nat) (block : Block α) : Overlay (Option α) where
  start := base + block.start
  length := block.span page
  value := fun offset =>
    if offset < block.content.length then block.content[offset]?
    else if offset < block.span page then some zero
    else none

def imageAt (zero : α) (blocks : List (Block α)) (cell : Nat) : α :=
  match blocks.find? fun block => decide (block.Contains cell) with
  | some block => block.content.getD (cell - block.start) zero
  | none => zero

structure Placed (page : Nat) (mapped copied : List (Block α)) : Prop where
  paged : ∀ block ∈ mapped, block.paged = true
  exact : ∀ block ∈ copied, block.paged = false
  aligned : ∀ block ∈ mapped, page ∣ block.start
  apart : (mapped ++ copied).Pairwise Block.Apart

section

variable {zero : α} {block other : Block α}

theorem overlay_covers_iff (block : Block α) :
  (block.overlay zero page base).Covers (base + cell) ↔ block.Covers page cell := by
  simp only [Block.overlay, Overlay.Covers, Block.Covers]
  omega

theorem overlay_value (covered : block.Covers page cell) :
  (block.overlay zero page base).value (base + cell - (block.overlay zero page base).start) =
    some (block.content.getD (cell - block.start) zero) := by
  have offset : base + cell - (base + block.start) = cell - block.start := by omega
  obtain ⟨lower, upper⟩ := covered
  have bound : cell - block.start < block.span page := by omega
  simp only [Block.overlay, offset, bound, if_true]
  split
  · rename_i inside
    simp [getD_eq_getElem?_getD, inside]
  rename_i outside
  simp [getD_eq_getElem?_getD, Nat.le_of_not_lt outside]

theorem covers_of_contains (positive : 0 < page) (contains : block.Contains cell) :
  block.Covers page cell := by
  obtain ⟨lower, upper⟩ := contains
  refine ⟨lower, ?_⟩
  have wide : block.content.length ≤ block.span page := by
    unfold Block.span
    split
    · exact le_roundUp positive _
    · exact Nat.le_refl _
  omega

theorem contains_of_covers_exact (exact : block.paged = false) (covered : block.Covers page cell) :
  block.Contains cell := by
  simpa [Block.Covers, Block.span, exact, Block.Contains] using covered

theorem not_contains_of_apart (apart : other.Apart block) (contains : block.Contains cell) :
  ¬other.Contains cell := by
  simp only [Block.Contains, Block.Apart] at *
  omega

theorem imageAt_of_not_contains (outside : ∀ block ∈ blocks, ¬block.Contains cell) :
  imageAt zero blocks cell = zero := by
  have none : blocks.find? (fun block => decide (block.Contains cell)) = none :=
    find?_eq_none.mpr fun block member => by simpa using outside block member
  rw [imageAt, none]

theorem Placed.imageAt_eq (placed : Placed page mapped copied) (member : block ∈ mapped ++ copied)
  (contains : block.Contains cell) :
  imageAt zero (mapped ++ copied) cell = block.content.getD (cell - block.start) zero := by
  cases found : (mapped ++ copied).find? fun block => decide (block.Contains cell) with
  | none =>
    have outside := find?_eq_none.mp found block member
    simp [contains] at outside
  | some first =>
    have firstMember := mem_of_find?_eq_some found
    have firstContains : first.Contains cell := by simpa using find?_some found
    have same : first = block := by
      by_contra different
      exact not_contains_of_apart (placed.apart.forall firstMember member different) contains firstContains
    rw [imageAt, found, same]

theorem Placed.not_covers_of_contains (positive : 0 < page) (placed : Placed page mapped copied)
  (member : block ∈ mapped) (otherMember : other ∈ mapped) (different : other ≠ block)
  (contains : block.Contains cell) : ¬other.Covers page cell := by
  have apart := placed.apart.forall (mem_append_left copied otherMember)
    (mem_append_left copied member) different
  have otherPaged := placed.paged other otherMember
  rintro ⟨lower, upper⟩
  rw [Block.span, otherPaged, if_pos rfl,
    ← roundUp_add_of_dvd positive (placed.aligned other otherMember)] at upper
  obtain ⟨first, last⟩ := contains
  rcases apart with before | after
  · have ends := roundUp_le_of_dvd positive (placed.aligned block member) before
    omega
  · omega

theorem Placed.copied_covers_iff (placed : Placed page mapped copied) (positive : 0 < page)
  (member : block ∈ copied) : block.Covers page cell ↔ block.Contains cell :=
  ⟨contains_of_covers_exact (placed.exact block member), covers_of_contains positive⟩

end

theorem Placed.mapped_cell (zero : α) (positive : 0 < page) (placed : Placed page mapped copied)
  (memory : Nat → Option α) (base cell : Nat) :
  (∀ block ∈ mapped, block.Contains cell →
    applyAll memory (mapped.map (Block.overlay zero page base)) (base + cell) =
      some (block.content.getD (cell - block.start) zero)) ∧
  ((∀ block ∈ mapped, ¬block.Contains cell) → (∃ block ∈ mapped, block.Covers page cell) →
    applyAll memory (mapped.map (Block.overlay zero page base)) (base + cell) = some zero) := by
  constructor
  · intro block member contains
    have covered := covers_of_contains positive contains
    apply applyAll_of_covered (mem_map_of_mem member) ((overlay_covers_iff block).mpr covered)
    simp only [forall_mem_map]
    intro other otherMember otherCovers
    rw [overlay_covers_iff] at otherCovers
    by_cases same : other = block
    · subst other
      exact overlay_value covered
    exact absurd otherCovers (placed.not_covers_of_contains positive member otherMember same contains)
  rintro outside ⟨block, member, covered⟩
  apply applyAll_of_covered (mem_map_of_mem member) ((overlay_covers_iff block).mpr covered)
  simp only [forall_mem_map]
  intro other otherMember otherCovers
  rw [overlay_covers_iff] at otherCovers
  have past := outside other otherMember
  rw [overlay_value otherCovers]
  obtain ⟨lower, upper⟩ := otherCovers
  simp only [Block.Contains] at past
  rw [getD_eq_default _ _ (by omega)]

theorem Placed.applyAll_cell (positive : 0 < page) (placed : Placed page mapped copied)
  (memory : Nat → Option α) (base cell : Nat) :
  applyAll memory ((mapped ++ copied).map (Block.overlay zero page base)) (base + cell) =
    if ∃ block ∈ mapped ++ copied, block.Covers page cell then
      some (imageAt zero (mapped ++ copied) cell)
    else memory (base + cell) := by
  obtain ⟨mappedContent, mappedTail⟩ := placed.mapped_cell zero positive memory base cell
  rw [map_append, applyAll_append]
  by_cases copy : ∃ block ∈ copied, block.Contains cell
  · obtain ⟨block, member, contains⟩ := copy
    have listed : block ∈ mapped ++ copied := mem_append_right _ member
    have covered := covers_of_contains positive contains
    rw [if_pos ⟨block, listed, covered⟩, placed.imageAt_eq listed contains]
    apply applyAll_of_covered (mem_map_of_mem member) ((overlay_covers_iff block).mpr covered)
    simp only [forall_mem_map]
    intro other otherMember otherCovers
    rw [overlay_covers_iff, placed.copied_covers_iff positive otherMember] at otherCovers
    by_cases same : other = block
    · subst other
      exact overlay_value covered
    exact absurd otherCovers (not_contains_of_apart
      (placed.apart.forall (mem_append_right _ otherMember) listed same) contains)
  push Not at copy
  have untouched : ∀ overlay ∈ copied.map (Block.overlay zero page base),
      ¬overlay.Covers (base + cell) := by
    simp only [forall_mem_map]
    intro block member
    rw [overlay_covers_iff, placed.copied_covers_iff positive member]
    exact copy block member
  rw [applyAll_of_uncovered untouched]
  by_cases content : ∃ block ∈ mapped, block.Contains cell
  · obtain ⟨block, member, contains⟩ := content
    have listed : block ∈ mapped ++ copied := mem_append_left _ member
    rw [if_pos ⟨block, listed, covers_of_contains positive contains⟩, placed.imageAt_eq listed contains]
    exact mappedContent block member contains
  push Not at content
  have outside : ∀ block ∈ mapped ++ copied, ¬block.Contains cell := by
    intro block member
    rcases mem_append.mp member with first | second
    · exact content block first
    · exact copy block second
  rw [imageAt_of_not_contains outside]
  split
  · rename_i covering
    obtain ⟨block, member, covered⟩ := covering
    rcases mem_append.mp member with first | second
    · exact mappedTail content ⟨block, first, covered⟩
    · exact absurd ((placed.copied_covers_iff positive second).mp covered) (copy block second)
  rename_i uncovered
  apply applyAll_of_uncovered
  simp only [forall_mem_map]
  intro block member
  rw [overlay_covers_iff]
  exact fun covered => uncovered ⟨block, mem_append_left _ member, covered⟩

theorem applyAll_below (blocks : List (Block α)) (below : cell < base) :
  applyAll memory (blocks.map (Block.overlay zero page base)) cell = memory cell := by
  apply applyAll_of_uncovered
  simp only [forall_mem_map]
  rintro block _ ⟨lower, _⟩
  simp only [Block.overlay] at lower
  omega

end Spacer.Lib
