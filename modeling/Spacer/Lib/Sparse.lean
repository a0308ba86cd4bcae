import Mathlib

/-!
Files with holes.  A cell holds the byte last written to it, or nothing where the file
was only extended; `data` does not tell a hole from the end of the file.
-/

namespace Spacer.Lib

open List

structure SparseFile (α : Type) where
  cells : List (Option α)

namespace SparseFile

variable {α : Type}

def empty : SparseFile α := ⟨[]⟩

def full (content : List α) : SparseFile α := ⟨content.map some⟩

def length (file : SparseFile α) : Nat := file.cells.length

variable (file : SparseFile α)

def data (offset : Nat) : Option α := file.cells[offset]?.join

def content (zero : α) (file : SparseFile α) : List α := file.cells.map (·.getD zero)

def setLen (size : Nat) : SparseFile α :=
  ⟨file.cells.take size ++ List.replicate (size - file.length) none⟩

variable (position : Nat) (bytes : List α)

def write : SparseFile α :=
  if bytes.isEmpty then file
  else ⟨(file.setLen position).cells ++ bytes.map some ++ file.cells.drop (position + bytes.length)⟩

/-- `lseek` with `SEEK_DATA`; there is no answer when only a hole follows. -/
def seekData (cursor : Nat) : Option Nat :=
  (List.range' cursor (file.length - cursor)).find? fun offset => (file.data offset).isSome

/-- `lseek` with `SEEK_HOLE`; a hole begins at the end of the file. -/
def seekHole (cursor : Nat) : Option Nat :=
  if cursor < file.length then
    some (((List.range' cursor (file.length - cursor)).find? fun offset =>
      (file.data offset).isNone).getD file.length)
  else none

@[simp] theorem length_full : (full bytes).length = bytes.length := by
  simp [full, length]

@[simp] theorem data_full : (full bytes).data offset = bytes[offset]? := by
  simp only [full, data, getElem?_map]
  cases bytes[offset]? <;> rfl

@[simp] theorem content_full (bytes : List α) : (full bytes).content zero = bytes := by
  simp [full, content, Function.comp_def]

theorem data_eq_none {file : SparseFile α} (outside : file.length ≤ offset) : file.data offset = none := by
  rw [data, getElem?_eq_none outside]
  rfl

theorem getElem?_cells :
  file.cells[offset]? = if offset < file.length then some (file.data offset) else none := by
  by_cases inside : offset < file.length
  · rw [if_pos inside, data, getElem?_eq_getElem inside]
    rfl
  · rw [if_neg inside, getElem?_eq_none (by simpa [length] using inside)]

theorem ext_data {left right : SparseFile α} (size : left.length = right.length)
  (same : ∀ offset, left.data offset = right.data offset) : left = right := by
  have cells : left.cells = right.cells := ext_getElem? fun offset => by
    rw [getElem?_cells, getElem?_cells, size, same]
  cases left
  exact congrArg SparseFile.mk cells

theorem content_of_data {file : SparseFile α} (zero : α) (here : (file.data offset).isSome) :
  (file.content zero)[offset]? = file.data offset := by
  obtain ⟨value, known⟩ := Option.isSome_iff_exists.mp here
  have inside : offset < file.length := by
    by_contra outside
    rw [data_eq_none (by omega)] at known
    cases known
  rw [content, getElem?_map, getElem?_cells, if_pos inside, known]
  rfl

@[simp] theorem length_setLen (size : Nat) : (file.setLen size).length = size := by
  simp only [setLen, length, length_append, length_take, length_replicate]
  omega

theorem data_setLen :
  (file.setLen size).data offset = if offset < size then file.data offset else none := by
  by_cases inside : offset < size
  · rw [if_pos inside]
    by_cases old : offset < file.length
    · rw [data, setLen, getElem?_append_left (by simp [length] at old ⊢; omega),
        getElem?_take_of_lt inside]
      rfl
    rw [data_eq_none (by omega : file.length ≤ offset), data, setLen,
      getElem?_append_right (by simp [length] at old ⊢; omega), getElem?_replicate]
    split <;> rfl
  · rw [if_neg inside, data_eq_none (by simpa using inside)]

variable {bytes}

theorem length_write (some : bytes ≠ []) :
  (file.write position bytes).length = max file.length (position + bytes.length) := by
  have nonempty : bytes.isEmpty = false := by simpa using some
  have filled := length_setLen file position
  simp only [length] at filled
  simp only [write, nonempty, length, Bool.false_eq_true, ↓reduceIte, length_append, filled,
    length_map, length_drop]
  omega

theorem data_write (bytes : List α) (offset : Nat) : (file.write position bytes).data offset =
    if position ≤ offset ∧ offset < position + bytes.length then bytes[offset - position]?
    else file.data offset := by
  cases bytes with
  | nil =>
    have outside : ¬(position ≤ offset ∧ offset < position + ([] : List α).length) := by
      simp only [length_nil]
      omega
    rw [if_neg outside]
    rfl
  | cons first rest =>
    have filled : (file.setLen position).cells.length = position := length_setLen file position
    simp only [write, isEmpty_cons, Bool.false_eq_true, ↓reduceIte, data]
    by_cases below : offset < position
    · have front : (file.setLen position).cells[offset]?.join = file.data offset := by
        rw [← data, data_setLen, if_pos below]
      rw [if_neg (by omega), append_assoc, getElem?_append_left (by omega), front]
      rfl
    by_cases inside : offset < position + (first :: rest).length
    · rw [if_pos ⟨by omega, inside⟩, getElem?_append_left (by simp [filled] at *; omega),
        getElem?_append_right (by omega), filled, getElem?_map]
      cases (first :: rest)[offset - position]? <;> rfl
    rw [if_neg (by omega), getElem?_append_right (by simp [filled] at *; omega),
      getElem?_drop]
    congr 2
    simp only [length_append, length_map, filled]
    omega

theorem write_write : (file.write position first).write (position + first.length) second =
    file.write position (first ++ second) := by
  cases first with
  | nil => rfl
  | cons byte rest =>
    cases second with
    | nil => rw [append_nil]; rfl
    | cons other others =>
      refine ext_data ?_ fun offset => ?_
      · rw [length_write _ _ (by simp), length_write _ _ (by simp),
          length_write _ _ (by simp), length_append]
        omega
      rw [data_write, data_write, data_write, length_append]
      by_cases low : position ≤ offset ∧ offset < position + (byte :: rest).length
      · rw [if_neg (by omega), if_pos low, if_pos (by omega),
          getElem?_append_left (by omega)]
      by_cases high : position + (byte :: rest).length ≤ offset ∧
          offset < position + (byte :: rest).length + (other :: others).length
      · rw [if_pos high, if_pos (by omega), getElem?_append_right (by omega),
          Nat.sub_sub]
      · rw [if_neg high, if_neg low, if_neg (by omega)]

theorem write_zero_full {file : SparseFile α} (covered : file.length ≤ bytes.length) :
  file.write 0 bytes = full bytes := by
  cases bytes with
  | nil =>
    have empty : file.cells = [] := eq_nil_of_length_eq_zero (Nat.le_zero.mp covered)
    cases file
    cases empty
    rfl
  | cons byte rest =>
    refine ext_data ?_ fun offset => ?_
    · rw [length_write _ _ (by simp), length_full]
      omega
    rw [data_write, data_full, Nat.zero_add, Nat.sub_zero]
    by_cases inside : offset < (byte :: rest).length
    · rw [if_pos ⟨Nat.zero_le _, inside⟩]
    · rw [if_neg (by omega), data_eq_none (by omega), getElem?_eq_none (by omega)]

theorem seekData_eq_some {file : SparseFile α} (found : file.seekData cursor = some start) :
  cursor ≤ start ∧ start < file.length ∧ (file.data start).isSome ∧
    ∀ offset, cursor ≤ offset → offset < start → file.data offset = none := by
  obtain ⟨here, inside, before⟩ := find?_range'_eq_some.mp found
  rw [mem_range'_1] at inside
  refine ⟨inside.1, by omega, here, fun offset behind below => ?_⟩
  simpa using before offset behind below

theorem seekData_eq_none {file : SparseFile α} (found : file.seekData cursor = none)
  (behind : cursor ≤ offset) : file.data offset = none := by
  by_cases inside : offset < file.length
  · have unmarked := find?_range'_eq_none.mp found offset behind (by omega)
    simpa using unmarked
  · exact data_eq_none (by omega)

theorem seekHole_of_data {file : SparseFile α} (here : (file.data start).isSome) :
  ∃ stop, file.seekHole start = some stop ∧ start < stop ∧ stop ≤ file.length ∧
    ∀ offset, start ≤ offset → offset < stop → (file.data offset).isSome := by
  have inside : start < file.length := by
    by_contra outside
    rw [data_eq_none (by omega)] at here
    cases here
  rw [seekHole, if_pos inside]
  cases found : (List.range' start (file.length - start)).find? fun offset =>
      (file.data offset).isNone with
  | none =>
    refine ⟨file.length, rfl, inside, Nat.le_refl _, fun offset behind below => ?_⟩
    have marked := find?_range'_eq_none.mp found offset behind (by omega)
    simpa using marked
  | some stop =>
    obtain ⟨hole, within, before⟩ := find?_range'_eq_some.mp found
    rw [mem_range'_1] at within
    refine ⟨stop, rfl, ?_, by omega, fun offset behind below => ?_⟩
    · refine Nat.lt_of_le_of_ne within.1 fun same => ?_
      rw [← same, Option.isNone_iff_eq_none] at hole
      rw [hole] at here
      cases here
    · simpa using before offset behind below

end SparseFile

end Spacer.Lib
