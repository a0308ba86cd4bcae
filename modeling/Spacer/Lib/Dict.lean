import Mathlib.Data.List.Nodup
import Mathlib.Data.List.Sort

/-!
Insertion-ordered dictionaries.  An assignment to a present key keeps the key's
position, a new key goes to the end, and iteration follows that order.
-/

namespace Spacer.Lib

open List (foldl_cons map_cons mem_cons nodup_cons)

structure Dict (K V : Type) where
  entries : List (K × V)
  distinct : (entries.map Prod.fst).Nodup

namespace Dict

variable {K V : Type}

def empty : Dict K V := ⟨[], List.nodup_nil⟩

variable (dict : Dict K V)

def keys : List K := dict.entries.map Prod.fst

def values : List V := dict.entries.map Prod.snd

def filter (dict : Dict K V) (keep : K × V → Bool) : Dict K V :=
  ⟨dict.entries.filter keep, dict.distinct.sublist (List.Sublist.map Prod.fst List.filter_sublist)⟩

def mapValues {W : Type} (change : V → W) (dict : Dict K V) : Dict K W :=
  ⟨dict.entries.map fun entry => (entry.1, change entry.2), by
    rw [List.map_map]
    exact dict.distinct⟩

/-- `dict(sorted(dict.items(), ...))`; the sort is stable. -/
def sortBy (before : K × V → K × V → Prop) [DecidableRel before] : Dict K V :=
  ⟨dict.entries.insertionSort before,
    ((List.perm_insertionSort before dict.entries).map Prod.fst).nodup_iff.mpr dict.distinct⟩

variable [DecidableEq K]

def lookup (key : K) : List (K × V) → Option V
  | [] => none
  | (other, value) :: rest => if other = key then some value else lookup key rest

variable (dict : Dict K V) (key : K)

def get? : Option V := lookup key dict.entries

def alterEntries (key : K) (change : Option V → V) : List (K × V) → List (K × V)
  | [] => [(key, change none)]
  | (other, value) :: rest =>
    if other = key then (other, change (some value)) :: rest
    else (other, value) :: alterEntries key change rest

variable (change : Option V → V)

theorem keys_alterEntries (entries : List (K × V)) : (alterEntries key change entries).map Prod.fst =
    if key ∈ entries.map Prod.fst then entries.map Prod.fst
    else entries.map Prod.fst ++ [key] := by
  induction entries with
  | nil => simp [alterEntries]
  | cons entry rest ih =>
    obtain ⟨other, value⟩ := entry
    by_cases same : other = key
    · simp [alterEntries, same]
    have reverse : ¬key = other := fun equal => same equal.symm
    simp only [alterEntries, same, ↓reduceIte, map_cons, ih, mem_cons, reverse, false_or]
    split <;> simp

theorem distinct_alterEntries {entries : List (K × V)} (distinct : (entries.map Prod.fst).Nodup) :
  ((alterEntries key change entries).map Prod.fst).Nodup := by
  rw [keys_alterEntries]
  split
  · exact distinct
  rename_i absent
  rw [List.nodup_append]
  exact ⟨distinct, List.nodup_singleton key, fun other member last final =>
    fun equal => absent (by simp_all)⟩

/-- `dict[key] = change(dict.get(key))`. -/
def alter : Dict K V :=
  ⟨alterEntries key change dict.entries, distinct_alterEntries key change dict.distinct⟩

def set (value : V) : Dict K V :=
  dict.alter key fun _ => value

@[simp] theorem get?_empty : (empty : Dict K V).get? key = none := rfl

theorem lookup_alterEntries (query : K) (change : Option V → V) (entries : List (K × V)) :
  lookup query (alterEntries key change entries) =
    if query = key then some (change (lookup key entries)) else lookup query entries := by
  induction entries with
  | nil =>
    by_cases same : query = key
    · simp [alterEntries, lookup, same]
    have reverse : ¬key = query := fun equal => same equal.symm
    simp [alterEntries, lookup, same, reverse]
  | cons entry rest ih =>
    obtain ⟨other, value⟩ := entry
    by_cases atKey : other = key
    · subst other
      by_cases same : query = key
      · simp [alterEntries, lookup, same]
      have reverse : ¬key = query := fun equal => same equal.symm
      simp [alterEntries, lookup, same, reverse]
    simp only [alterEntries, atKey, ↓reduceIte, lookup, ih]
    by_cases same : query = key
    · subst query
      simp [atKey]
    · simp [same]

@[simp] theorem get?_alter (query : K) (change : Option V → V) : (dict.alter key change).get? query =
    if query = key then some (change (dict.get? key)) else dict.get? query :=
  lookup_alterEntries key query change dict.entries

@[simp] theorem get?_set :
  (dict.set key value).get? query = if query = key then some value else dict.get? query :=
  get?_alter dict key query fun _ => value

theorem keys_alter :
  (dict.alter key change).keys = if key ∈ dict.keys then dict.keys else dict.keys ++ [key] :=
  keys_alterEntries key change dict.entries

theorem lookup_eq_some_iff {entries : List (K × V)} (distinct : (entries.map Prod.fst).Nodup)
  (key : K) (value : V) : lookup key entries = some value ↔ (key, value) ∈ entries := by
  induction entries with
  | nil => simp [lookup]
  | cons entry rest ih =>
    obtain ⟨other, stored⟩ := entry
    simp only [map_cons, nodup_cons] at distinct
    by_cases same : other = key
    · subst other
      simp only [lookup, ↓reduceIte, Option.some.injEq, mem_cons, Prod.mk.injEq, true_and]
      constructor
      · intro equal
        exact .inl equal.symm
      rintro (equal | later)
      · exact equal.symm
      · exact absurd (List.mem_map_of_mem later) distinct.1
    have reverse : ¬key = other := fun equal => same equal.symm
    simp [lookup, same, reverse, ih distinct.2]

theorem get?_eq_some_iff (value : V) : dict.get? key = some value ↔ (key, value) ∈ dict.entries :=
  lookup_eq_some_iff dict.distinct key value

theorem mem_keys_iff : key ∈ dict.keys ↔ ∃ value, dict.get? key = some value := by
  simp only [keys, List.mem_map, get?_eq_some_iff]
  constructor
  · rintro ⟨⟨other, value⟩, member, rfl⟩
    exact ⟨value, member⟩
  rintro ⟨value, member⟩
  exact ⟨(key, value), member, rfl⟩

theorem get?_sortBy (before : K × V → K × V → Prop) [DecidableRel before]
  (key : K) : (dict.sortBy before).get? key = dict.get? key := by
  refine Option.ext fun value => ?_
  have sorted := List.perm_insertionSort before dict.entries
  rw [get?_eq_some_iff, get?_eq_some_iff]
  exact sorted.mem_iff

theorem get?_foldl_alter {W : Type} (change : K → W → Option V → V) (pairs : List (K × W))
  (distinct : (pairs.map Prod.fst).Nodup) (dict : Dict K V) (key : K) :
  (pairs.foldl (fun dict pair => dict.alter pair.1 (change pair.1 pair.2)) dict).get? key =
    ((lookup key pairs).map fun value => change key value (dict.get? key)).or (dict.get? key) := by
  induction pairs generalizing dict with
  | nil => simp [lookup]
  | cons pair rest ih =>
    obtain ⟨other, value⟩ := pair
    simp only [map_cons, nodup_cons] at distinct
    rw [foldl_cons, ih distinct.2, lookup]
    by_cases same : other = key
    · subst other
      have absent : lookup key rest = none := by
        cases found : lookup key rest with
        | none => rfl
        | some later =>
          have member := (lookup_eq_some_iff distinct.2 key later).mp found
          exact absurd (List.mem_map_of_mem member) distinct.1
      simp [absent]
    have reverse : ¬key = other := fun equal => same equal.symm
    simp [same, reverse]

theorem keys_foldl_alter {W : Type} (change : K → W → Option V → V) (pairs : List (K × W))
  (distinct : (pairs.map Prod.fst).Nodup) (dict : Dict K V) :
  (pairs.foldl (fun dict pair => dict.alter pair.1 (change pair.1 pair.2)) dict).keys =
    dict.keys ++ (pairs.map Prod.fst).filter (· ∉ dict.keys) := by
  induction pairs generalizing dict with
  | nil => simp
  | cons pair rest ih =>
    simp only [map_cons, nodup_cons] at distinct
    rw [foldl_cons, ih distinct.2, keys_alter]
    by_cases present : pair.1 ∈ dict.keys
    · simp [present]
    have unchanged : (rest.map Prod.fst).filter (· ∉ dict.keys ++ [pair.1]) =
        (rest.map Prod.fst).filter (· ∉ dict.keys) := by
      refine List.filter_congr fun key member => ?_
      have other : key ≠ pair.1 := fun same => distinct.1 (same ▸ member)
      simp [other]
    rw [if_neg present, unchanged]
    simp [present]

theorem perm_entries {left right : Dict K V} (same : ∀ key, left.get? key = right.get? key) :
  left.entries.Perm right.entries := by
  refine (List.perm_ext_iff_of_nodup left.distinct.of_map right.distinct.of_map).mpr ?_
  rintro ⟨key, value⟩
  rw [← get?_eq_some_iff, ← get?_eq_some_iff, same]

variable (pairs : List (K × V))

/-- A `defaultdict(list)` filled by appending each value under its key. -/
def group : Dict K (List V) :=
  pairs.foldl (fun dict pair => dict.alter pair.1 fun old => old.getD [] ++ [pair.2]) empty

variable (dict : Dict K (List V))

theorem get?_group_fold (key : K) :
  ((pairs.foldl (fun dict pair => dict.alter pair.1 fun old => old.getD [] ++ [pair.2])
      dict).get? key).getD [] =
    (dict.get? key).getD [] ++ (pairs.filter fun pair => pair.1 = key).map Prod.snd := by
  induction pairs generalizing dict with
  | nil => simp
  | cons pair rest ih =>
    rw [foldl_cons, ih, get?_alter]
    by_cases same : pair.1 = key
    · simp [same, List.append_assoc]
    have reverse : ¬key = pair.1 := fun equal => same equal.symm
    simp [same, reverse]

theorem getD_group (key : K) :
  ((group pairs).get? key).getD [] = (pairs.filter fun pair => pair.1 = key).map Prod.snd := by
  simpa [group] using get?_group_fold pairs empty key

theorem mem_keys_group_fold (key : K) :
  key ∈ (pairs.foldl (fun dict pair => dict.alter pair.1 fun old => old.getD [] ++ [pair.2])
      dict).keys ↔ key ∈ dict.keys ∨ key ∈ pairs.map Prod.fst := by
  induction pairs generalizing dict with
  | nil => simp
  | cons pair rest ih =>
    rw [foldl_cons, ih, keys_alter]
    split
    · rename_i present
      simp only [map_cons, mem_cons]
      constructor
      · rintro (old | later)
        · exact .inl old
        · exact .inr (.inr later)
      rintro (old | same | later)
      · exact .inl old
      · exact .inl (same ▸ present)
      · exact .inr later
    simp only [List.mem_append, mem_cons, List.not_mem_nil, or_false, map_cons]
    exact or_assoc

theorem mem_keys_group (key : K) : key ∈ (group pairs).keys ↔ key ∈ pairs.map Prod.fst := by
  rw [group, mem_keys_group_fold]
  simp [keys, empty]

theorem mem_entries_group (key : K) (values : List V) : (key, values) ∈ (group pairs).entries ↔
    values ≠ [] ∧ values = (pairs.filter fun pair => pair.1 = key).map Prod.snd := by
  have stored := getD_group pairs key
  have present : key ∈ (group pairs).keys ↔ (pairs.filter fun pair => pair.1 = key).map Prod.snd ≠ [] := by
    rw [mem_keys_group]
    simp
  rw [mem_keys_iff] at present
  rw [← get?_eq_some_iff]
  constructor
  · intro found
    rw [found, Option.getD_some] at stored
    rw [stored]
    exact ⟨present.mp ⟨values, found⟩, rfl⟩
  rintro ⟨filled, rfl⟩
  obtain ⟨others, found⟩ := present.mpr filled
  rw [found, Option.getD_some] at stored
  rw [found, stored]

end Dict

end Spacer.Lib
