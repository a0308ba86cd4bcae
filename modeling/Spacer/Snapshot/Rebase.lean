import Spacer.Lib.Lists
import Spacer.Snapshot.Core

/-!
`rebase-snap` copies what is written in the one file over the other, however the
system call splits the blocks.
-/

namespace Spacer.Snapshot

open Lib List

def Progresses (sendfile : Nat → Nat → Int) : Prop :=
  ∀ cursor count, 0 < count → 1 ≤ sendfile cursor count ∧ sendfile cursor count ≤ count

section

variable (progresses : Progresses sendfile)
include progresses

omit progresses in
theorem sendBlock_done (blockEnd fuel : Nat) (baseFile : SparseFile UInt8) :
  sendBlock sendfile diffFile blockEnd fuel blockEnd baseFile = .ok (blockEnd, baseFile) := by
  unfold sendBlock
  rw [if_neg (Nat.lt_irrefl _)]

theorem sendBlock_ok (within : blockEnd ≤ diffFile.length) (fuel cursor : Nat) (order : cursor ≤ blockEnd)
  (written : ∀ offset, cursor ≤ offset → offset < blockEnd → (diffFile.data offset).isSome)
  (enough : blockEnd - cursor ≤ fuel) (baseFile : SparseFile UInt8) :
  ∃ result, sendBlock sendfile diffFile blockEnd fuel cursor baseFile = .ok (blockEnd, result) ∧
    (baseFile.length ≤ result.length ∧ result.length ≤ max baseFile.length diffFile.length) ∧
    ∀ offset, result.data offset = if cursor ≤ offset ∧ offset < blockEnd
      then diffFile.data offset else baseFile.data offset := by
  induction fuel generalizing cursor baseFile with
  | zero =>
    have finished : cursor = blockEnd := by omega
    subst finished
    refine ⟨baseFile, sendBlock_done cursor 0 baseFile, ⟨Nat.le_refl _, Nat.le_max_left _ _⟩,
      fun offset => ?_⟩
    rw [if_neg (by omega)]
  | succ fuel ih =>
    by_cases left : cursor < blockEnd
    · obtain ⟨progress, bounded⟩ := progresses cursor (blockEnd - cursor) (by omega)
      obtain ⟨count, transferred⟩ : ∃ count : Nat, sendfile cursor (blockEnd - cursor) = count :=
        Int.eq_ofNat_of_zero_le (by omega)
      rw [transferred] at progress bounded
      have size : ((diffFile.content 0).drop cursor |>.take count).length = count := by
        simp only [SparseFile.content, length_take, length_drop, length_map]
        rw [SparseFile.length] at within
        omega
      have bytes : ∀ index < count, ((diffFile.content 0).drop cursor |>.take count)[index]? =
          diffFile.data (cursor + index) := by
        intro index inside
        rw [getElem?_take_of_lt inside, getElem?_drop,
          SparseFile.content_of_data 0 (written _ (by omega) (by omega))]
      have grown : (baseFile.write cursor ((diffFile.content 0).drop cursor |>.take count)).length =
            max baseFile.length (cursor + count) := by
        rw [SparseFile.length_write _ _ (ne_nil_of_length_pos (by omega)), size]
      obtain ⟨result, ran, bounds, cells⟩ := ih (cursor + count) (by omega)
        (fun offset behind => written offset (by omega)) (by omega) _
      rw [grown] at bounds
      refine ⟨result, ?_, by omega, fun offset => ?_⟩
      · rw [sendBlock, if_pos left]
        dsimp only
        rw [transferred, if_neg (by omega), Int.toNat_natCast]
        exact ran
      rw [cells, SparseFile.data_write, size]
      by_cases first : cursor ≤ offset ∧ offset < cursor + count
      · rw [if_neg (by omega), if_pos first, if_pos (by omega), bytes _ (by omega),
          Nat.add_sub_cancel' first.1]
      by_cases later : cursor + count ≤ offset ∧ offset < blockEnd
      · rw [if_pos later, if_pos (by omega)]
      · rw [if_neg later, if_neg first, if_neg (by omega)]
    have finished : cursor = blockEnd := by omega
    subst finished
    refine ⟨baseFile, sendBlock_done cursor (fuel + 1) baseFile,
      ⟨Nat.le_refl _, Nat.le_max_left _ _⟩, fun offset => ?_⟩
    rw [if_neg (by omega)]

omit progresses in
theorem rebaseFrom_of_none (found : diffFile.seekData cursor = none) (baseFile : SparseFile UInt8) :
  rebaseFrom sendfile diffFile steps fuel cursor baseFile = .ok baseFile ∧
    ∀ offset, baseFile.data offset = if cursor ≤ offset
      then (diffFile.data offset).or (baseFile.data offset) else baseFile.data offset := by
  refine ⟨by unfold rebaseFrom; rw [found], fun offset => ?_⟩
  split
  · rename_i behind
    rw [SparseFile.seekData_eq_none found behind, Option.none_or]
  · rfl

theorem rebaseFrom_ok (enough : diffFile.length ≤ steps) (fuel cursor : Nat)
  (turns : diffFile.length - cursor ≤ fuel) (baseFile : SparseFile UInt8) :
  ∃ result, rebaseFrom sendfile diffFile steps fuel cursor baseFile = .ok result ∧
    (baseFile.length ≤ result.length ∧ result.length ≤ max baseFile.length diffFile.length) ∧
    ∀ offset, result.data offset = if cursor ≤ offset
      then (diffFile.data offset).or (baseFile.data offset) else baseFile.data offset := by
  induction fuel generalizing cursor baseFile with
  | zero =>
    cases found : diffFile.seekData cursor with
    | some blockStart =>
      obtain ⟨behind, inside, _⟩ := SparseFile.seekData_eq_some found
      omega
    | none =>
      obtain ⟨ran, cells⟩ := rebaseFrom_of_none found baseFile
      exact ⟨baseFile, ran, ⟨Nat.le_refl _, Nat.le_max_left _ _⟩, cells⟩
  | succ fuel ih =>
    cases found : diffFile.seekData cursor with
    | none =>
      obtain ⟨ran, cells⟩ := rebaseFrom_of_none found baseFile
      exact ⟨baseFile, ran, ⟨Nat.le_refl _, Nat.le_max_left _ _⟩, cells⟩
    | some blockStart =>
      obtain ⟨behind, inside, here, hole⟩ := SparseFile.seekData_eq_some found
      obtain ⟨blockEnd, ends, order, within, block⟩ := SparseFile.seekHole_of_data here
      obtain ⟨middle, sent, size, cells⟩ := sendBlock_ok progresses within steps blockStart
        (Nat.le_of_lt order) block (by omega) baseFile
      obtain ⟨result, ran, bounds, later⟩ := ih blockEnd (by omega) middle
      refine ⟨result, ?_, by omega, fun offset => ?_⟩
      · rw [rebaseFrom, found]
        dsimp only
        rw [ends, Option.getD_some, bind_of_ok sent]
        exact ran
      rw [later, cells]
      by_cases low : cursor ≤ offset
      · by_cases front : offset < blockStart
        · rw [if_neg (by omega), if_neg (by omega), if_pos low, hole offset low front,
            Option.none_or]
        by_cases own : offset < blockEnd
        · obtain ⟨byte, known⟩ := Option.isSome_iff_exists.mp (block offset (by omega) own)
          rw [if_neg (by omega), if_pos (by omega), if_pos low, known, Option.some_or]
        · rw [if_pos (by omega), if_neg (by omega), if_pos low]
      · rw [if_neg (by omega), if_neg (by omega), if_neg low]

theorem rebase_ok (enough : diffFile.length ≤ steps) (baseFile : SparseFile UInt8) :
  ∃ result, rebase sendfile steps baseFile diffFile = .ok result ∧
    (baseFile.length ≤ result.length ∧ result.length ≤ max baseFile.length diffFile.length) ∧
    ∀ offset, result.data offset = (diffFile.data offset).or (baseFile.data offset) := by
  obtain ⟨result, ran, bounds, cells⟩ := rebaseFrom_ok progresses enough steps 0 (by omega) baseFile
  exact ⟨result, ran, bounds, fun offset => by rw [cells, if_pos (Nat.zero_le _)]⟩

end

end Spacer.Snapshot
