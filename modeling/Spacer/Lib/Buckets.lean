import Mathlib

/-! Chained hash tables as a function from buckets to chains. -/

namespace Spacer.Lib

variable {B E : Type} [Fintype B] (table : B → List E)

def tableSize : Nat := ∑ bucket, (table bucket).length

theorem length_le_tableSize (bucket : B) : (table bucket).length ≤ tableSize table :=
  Finset.single_le_sum (f := fun other => (table other).length) (fun _ _ => Nat.zero_le _)
    (Finset.mem_univ bucket)

theorem tableSize_update [DecidableEq B] (table : B → List E) (bucket : B) (chain : List E) :
  tableSize (Function.update table bucket chain) + (table bucket).length =
    tableSize table + chain.length := by
  have lengths : (fun other => (Function.update table bucket chain other).length) =
      Function.update (fun other => (table other).length) bucket chain.length := by
    funext other
    by_cases same : other = bucket
    · subst same
      simp
    · simp [same]
  have changed : tableSize (Function.update table bucket chain) =
      chain.length + ∑ other ∈ Finset.univ \ {bucket}, (table other).length := by
    rw [tableSize, lengths, Finset.sum_update_of_mem (Finset.mem_univ bucket)]
  have original : tableSize table =
      (table bucket).length + ∑ other ∈ Finset.univ \ {bucket}, (table other).length :=
    Finset.sum_eq_add_sum_sdiff_singleton_of_mem (Finset.mem_univ bucket) _
  omega

def tableCount (wanted : E → Bool) : Nat :=
  ∑ bucket, (table bucket).countP wanted

theorem tableCount_eq_zero {table : B → List E}
  (absent : ∀ bucket, ∀ entry ∈ table bucket, wanted entry = false) : tableCount table wanted = 0 := by
  refine Finset.sum_eq_zero fun bucket _ => List.countP_eq_zero.mpr ?_
  intro entry member
  rw [absent bucket entry member]
  exact Bool.false_ne_true

variable {table}

theorem tableCount_eq_bucket (bucket : B)
  (only : ∀ other, ∀ entry ∈ table other, wanted entry = true → other = bucket) :
  tableCount table wanted = (table bucket).countP wanted := by
  refine Finset.sum_eq_single bucket ?_ (fun absent => absurd (Finset.mem_univ bucket) absent)
  intro other _ different
  refine List.countP_eq_zero.mpr ?_
  intro entry member found
  exact different (only other entry member found)

end Spacer.Lib
