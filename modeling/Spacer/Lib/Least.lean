import Mathlib

/-! The least of some keyed values, if there are any, as a loop finds it. -/

namespace Spacer.Lib

variable {K T α : Type} [LE K]

def Least (candidate : K × T → Prop) : Option (K × T) → Prop
  | none => ∀ pair, ¬candidate pair
  | some found => candidate found ∧ ∀ pair, candidate pair → found.1 ≤ pair.1

theorem Least.congr {some other : K × T → Prop} (least : Least some found)
  (same : ∀ pair, other pair ↔ some pair) : Least other found := by
  cases found with
  | none => exact fun pair found => least pair ((same pair).mp found)
  | some first =>
    exact ⟨(same first).mpr least.1, fun pair found => least.2 pair ((same pair).mp found)⟩

theorem Least.of_subset {some fewer : K × T → Prop} (least : Least some found)
  (subset : ∀ pair, fewer pair → some pair)
  (stays : ∀ pair, found = Option.some pair → fewer pair) : Least fewer found := by
  cases found with
  | none => exact fun pair fewer => least pair (subset pair fewer)
  | some first => exact ⟨stays first rfl, fun pair fewer => least.2 pair (subset pair fewer)⟩

variable [LT K] [DecidableLT K]

def keepLeast (found : Option (K × T)) (pair : K × T) : Option (K × T) :=
  match found with
  | some other => if pair.1 < other.1 then some pair else some other
  | none => some pair

def findLeast (key : α → Option (K × T)) (items : List α) : Option (K × T) :=
  items.foldl (fun found item => (key item).elim found (keepLeast found)) none

variable [Std.IsLinearOrder K] [Std.LawfulOrderLT K]

theorem Least.keep (least : Least candidate found) (pair : K × T) :
  Least (fun other => candidate other ∨ other = pair) (keepLeast found pair) := by
  cases found with
  | none =>
    refine ⟨.inr rfl, ?_⟩
    rintro other (old | rfl)
    · exact absurd old (least other)
    · exact Std.le_refl _
  | some first =>
    obtain ⟨isFirst, most⟩ := least
    unfold keepLeast
    dsimp only
    split
    · rename_i less
      refine ⟨.inr rfl, ?_⟩
      rintro other (old | rfl)
      · exact Std.le_trans (Std.le_of_lt less) (most other old)
      · exact Std.le_refl _
    rename_i notLess
    refine ⟨.inl isFirst, ?_⟩
    rintro other (old | rfl)
    · exact most other old
    · exact Std.not_lt.mp notLess

theorem findLeast_least (key : α → Option (K × T)) (items : List α) :
  Least (fun pair => ∃ item ∈ items, key item = some pair) (findLeast key items) := by
  have fold (candidate : K × T → Prop) (found : Option (K × T)) (least : Least candidate found) :
      Least (fun pair => candidate pair ∨ ∃ item ∈ items, key item = some pair)
        (items.foldl (fun found item => (key item).elim found (keepLeast found)) found) := by
    induction items generalizing candidate found with
    | nil => exact least.congr fun pair => by simp
    | cons item items ih =>
      rw [List.foldl_cons]
      cases keyed : key item with
      | none => exact (ih candidate found least).congr fun pair => by simp [keyed]
      | some new =>
        refine (ih _ _ (least.keep new)).congr fun pair => ?_
        simp only [List.mem_cons, exists_eq_or_imp, keyed, Option.some.injEq, or_assoc]
        rw [eq_comm]
  exact (fold (fun _ => False) none fun _ => id).congr fun pair => by simp

end Spacer.Lib
