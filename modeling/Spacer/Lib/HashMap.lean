import Mathlib.Data.List.Dedup
import Spacer.Lib.Dict

/-!
Maps without an order of their own.  Every walk over such a map visits each entry once, in an
order that is not known beforehand.
-/

namespace Spacer.Lib.Dict

variable {K V : Type} (dict : Dict K V)

def size : Nat := dict.entries.length

theorem size_eq_keys : dict.size = dict.keys.length := by simp [size, keys]

variable [DecidableEq K] (dict : Dict K V)

def contains (key : K) : Bool := (dict.get? key).isSome

def erase (key : K) : Dict K V := dict.filter fun entry => entry.1 ≠ key

def modify (key : K) (change : V → V) : Dict K V :=
  match dict.get? key with
  | none => dict
  | some value => dict.set key (change value)

variable (order : List K)

/-- The entries in the order of the given keys, and then those that are not among them. -/
def walk : List (K × V) :=
  (order.dedup.filterMap fun key => (dict.get? key).map fun value => (key, value)) ++
    dict.entries.filter fun entry => entry.1 ∉ order

theorem get?_erase (key query : K) :
  (dict.erase key).get? query = if query = key then none else dict.get? query := by
  apply Option.ext
  intro value
  rw [get?_eq_some_iff]
  by_cases same : query = key
  · simp [erase, filter, same]
  · simp [erase, filter, same, get?_eq_some_iff]

theorem mem_walk : entry ∈ dict.walk order ↔ entry ∈ dict.entries := by
  obtain ⟨key, value⟩ := entry
  have front : (key, value) ∈ (order.dedup.filterMap fun key =>
      (dict.get? key).map fun value => (key, value)) ↔
      key ∈ order ∧ (key, value) ∈ dict.entries := by
    rw [List.mem_filterMap]
    constructor
    · rintro ⟨other, member, found⟩
      rw [Option.map_eq_some_iff] at found
      obtain ⟨stored, present, same⟩ := found
      cases same
      exact ⟨List.mem_dedup.mp member, (dict.get?_eq_some_iff _ _).mp present⟩
    rintro ⟨member, present⟩
    refine ⟨key, List.mem_dedup.mpr member, ?_⟩
    rw [(dict.get?_eq_some_iff _ _).mpr present]
    rfl
  rw [walk, List.mem_append, front, List.mem_filter]
  by_cases early : key ∈ order
  · simp [early]
  · simp [early]

theorem walk_get? (key : K) (value : V) : (key, value) ∈ dict.walk order ↔ dict.get? key = some value := by
  rw [mem_walk, get?_eq_some_iff]

theorem size_set_of_get? {dict : Dict K V} (found : dict.get? key = some stored) (value : V) :
  (dict.set key value).size = dict.size := by
  have member : key ∈ dict.keys := (mem_keys_iff dict key).mpr ⟨stored, found⟩
  rw [size_eq_keys, set, keys_alter, if_pos member, size_eq_keys]

theorem size_set_le : (dict.set key value).size ≤ dict.size + 1 := by
  rw [size_eq_keys, set, keys_alter, size_eq_keys]
  split
  · omega
  · rw [List.length_append, List.length_singleton]

theorem size_erase_lt {dict : Dict K V} (found : dict.get? key = some stored) :
  (dict.erase key).size < dict.size := by
  refine List.length_filter_lt_length_iff_exists.mpr ⟨(key, stored), ?_, by simp⟩
  exact (get?_eq_some_iff dict key stored).mp found

def Each (P : K → V → Prop) (dict : Dict K V) : Prop :=
  ∀ key value, dict.get? key = some value → P key value

section

variable {dict : Dict K V}

theorem Each.set (each : dict.Each P) (good : P key value) : (dict.set key value).Each P := by
  intro query stored found
  rw [get?_set] at found
  split at found
  · rename_i same
    cases found
    exact same ▸ good
  · exact each query stored found

theorem Each.erase (each : dict.Each P) (key : K) : (dict.erase key).Each P := by
  intro query stored found
  rw [get?_erase] at found
  split at found
  · cases found
  · exact each query stored found

theorem Each.modify (each : dict.Each P) (keeps : ∀ value, P key value → P key (change value)) :
  (dict.modify key change).Each P := by
  unfold Dict.modify
  split
  · exact each
  rename_i value found
  exact each.set (keeps value (each key value found))

end

end Spacer.Lib.Dict
